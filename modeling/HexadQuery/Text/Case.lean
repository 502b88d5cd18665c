/-
# Capital and small forms of a character

`upperOf` and `lowerOf` give the full mapping of one character: most have one image, a few have
several (the capital of `ß` is `SS`), and a character without case is its own image.  Neither looks
at the neighbours.  `lowered` maps a whole text and does: a capital sigma that ends a word becomes
`ς` and every other one `σ`.

Two places need this.  A modality's canonical name maps its characters one by one, and the console
lowers a whole line before it looks for a command in it; only the second looks at neighbours.
-/
import HexadQuery.Text.CaseTable
import HexadQuery.Text.CasedTable

namespace HexadQuery.Text

/-! ## 1. One character -/

/-- The image of a code point in the run, if the run holds it. -/
def CaseRun.imageOf? (run : CaseRun) (n : Nat) : Option Nat :=
  if run.first ≤ n && n ≤ run.last && (n - run.first) % run.stride == 0 then
    some (run.image + (n - run.first))
  else none

/-- Look a character up: the spelled-out letters first, then the runs, else itself. -/
def otherCase (spellings : List CaseSpelling) (runs : List CaseRun) (c : Char) : List Char :=
  match spellings.find? (·.letter == c.toNat) with
  | some entry => entry.spelling.map Char.ofNat
  | none =>
    match runs.findSome? (·.imageOf? c.toNat) with
    | some n => [Char.ofNat n]
    | none => [c]

/-- The capital form of a character. -/
def upperOf (c : Char) : List Char :=
  if c.toNat < 0x80 then [c.toUpper] else otherCase upperSpellings upperRuns c

/-- The small form of a character. -/
def lowerOf (c : Char) : List Char :=
  if c.toNat < 0x80 then [c.toLower] else otherCase lowerSpellings lowerRuns c

/-! ## 2. A whole text -/

/-- Whether the first character that is not looked through has case. -/
def meetsCased (cs : List Char) : Bool :=
  match cs.dropWhile (Span.covers lookedThroughSpans) with
  | c :: _ => Span.covers casedSpans c
  | [] => false

/-- Small forms of `cs`, where `before` are the characters ahead of it, nearest first. -/
def loweredAfter (before : List Char) : List Char → List Char
  | [] => []
  | c :: cs =>
    let image :=
      if c == 'Σ' then [if meetsCased before && !meetsCased cs then 'ς' else 'σ'] else lowerOf c
    image ++ loweredAfter (c :: before) cs

/-- A text in small letters. -/
def lowered (s : String) : String := String.ofList (loweredAfter [] s.toList)

end HexadQuery.Text
