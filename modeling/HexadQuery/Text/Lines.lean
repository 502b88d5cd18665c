/-
# Lines of a byte stream

A stream is cut at each newline byte.  The newline is dropped, and so is one carriage return right
before it; a last line without a newline keeps its carriage return, and a stream that ends in a
newline has no further line.  A line that is not UTF-8 has no text.

Cutting comes first and decoding second.  A byte of a longer UTF-8 sequence is never a newline, so
for a stream that is a text it makes no difference; for one that is not, the damage stays within
the line that holds it.
-/
namespace HexadQuery.Text

/-- The bytes between newlines, each with whether a newline ended it. -/
def byteLines : List UInt8 → List (List UInt8 × Bool)
  | [] => []
  | b :: bs =>
    if b == 0x0A then ([], true) :: byteLines bs
    else
      match byteLines bs with
      | (line, ended) :: more => (b :: line, ended) :: more
      | [] => [([b], false)]

/-- Drop one carriage return at the end of a line that a newline ended. -/
def withoutReturn : List UInt8 × Bool → List UInt8
  | (line, true) => if line.getLast? == some 0x0D then line.dropLast else line
  | (line, false) => line

/-- The text of a line, if its bytes are UTF-8. -/
def decode? (bytes : List UInt8) : Option String := String.fromUTF8? ⟨bytes.toArray⟩

/-- The lines of a stream as texts; a line that is not UTF-8 is `none`. -/
def textLines (bytes : List UInt8) : List (Option String) :=
  (byteLines bytes).map fun line => decode? (withoutReturn line)

end HexadQuery.Text
