/-
# Pieces of a token

Tokens keep their punctuation, so the parts a clause works with still have structure of their own:
`VECTOR.embedding`, `COUNT(*)`, `title=Foo`.  The functions here take one such piece apart; each of
them reads the whole piece or fails, and none of them reports why.  What a failure means is for the
clause to say: a dropped item, a skipped one or an error.

The source writes these as parser combinators that must consume all their input (`projection`,
`aggregate_call`, `unsigned_integer`, `field_assignment`, `comma_pieces`).  Here each is a `span`
and a check of what is left, which comes to the same because every combinator among them is greedy
and none of them backtracks.

Names are ASCII identifiers, fields are almost anything.  A field may hold dots and quotes and even
a keyword; it ends only at a parenthesis, a comma or a blank, and blanks and commas do not get into
a piece.
-/
import HexadQuery.Statement.Basic
import HexadQuery.Text.Blank

namespace HexadQuery.Piece

/-! ## 1. Commas -/

/-- The parts of a text between commas, without the empty ones. -/
def commaPieces (text : String) : List String :=
  ((text.toList.splitOn ',').filter (· ≠ [])).map String.ofList

/-! ## 2. Fields -/

/-- Characters of an identifier after its first. -/
def isNameChar (c : Char) : Bool := c.isAlphanum || c == '_'

/-- Characters of a field name: anything but parentheses, commas and blanks. -/
def isFieldChar (c : Char) : Bool := c != '(' && c != ')' && c != ',' && !Text.isBlank c

/-- `MODALITY.field`.  The field may hold further dots. -/
def projection? (piece : String) : Option Projection :=
  match piece.toList.span isNameChar with
  | (name, '.' :: field) =>
    if isIdentifier (String.ofList name) && field ≠ [] && field.all isFieldChar then
      some ⟨Modality.ofName (String.ofList name), String.ofList field⟩
    else none
  | _ => none

/-! ## 3. Aggregate calls -/

/-- What an aggregate is applied to. -/
inductive Operand where
  | star
  | field (projection : Projection)
  | other
  deriving DecidableEq

/-- Read an operand, blanks around it aside. -/
def operand (text : String) : Operand :=
  let text := Text.trim text
  if text = "*" then .star
  else
    match projection? text with
    | some projection => .field projection
    | none => .other

/-- `FUNCTION(operand)`, where the operand is not empty and holds no parentheses. -/
def aggregateCall? (piece : String) : Option (AggregateFunction × Operand) :=
  match piece.toList.span isNameChar with
  | (name, '(' :: rest) =>
    match rest.span fun c => c != '(' && c != ')' with
    | (inside, [')']) =>
      if inside = [] then none
      else
        (AggregateFunction.ofName? (String.ofList name)).map fun function =>
          (function, operand (String.ofList inside))
    | _ => none
  | _ => none

/-! ## 4. Numbers and assignments -/

/-- A non-negative decimal number below 2^64, digits only.  Leading zeros are fine, a sign is
not, and a number that is too large is as malformed as a word. -/
def unsigned? (text : String) : Option UInt64 :=
  let digits := text.toList
  if digits ≠ [] ∧ digits.all Char.isDigit then
    let value := Nat.ofDigitChars 10 digits 0
    if value < UInt64.size then some (UInt64.ofNat value) else none
  else none

/-- `field=value`, cut at the first `=` and trimmed on both sides.  The field is not blank; the
value may be. -/
def assignment? (text : String) : Option Assignment :=
  match text.toList.span (· != '=') with
  | (field, '=' :: value) =>
    if field.all Text.isBlank then none
    else some ⟨String.ofList (Text.trimChars field), String.ofList (Text.trimChars value)⟩
  | _ => none

end HexadQuery.Piece
