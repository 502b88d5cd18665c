/-
# The assignments of an UPDATE

The span after SET is cut at commas outside parentheses and quotes.  A quote counts only where a
value can start, so the apostrophe of `O'Brien` is a letter like any other; and when the last quote
of the span is never closed, quotes do not count at all.

`Scan` follows the state of the span character by character, as `DelimiterScan` does when it is
built to know quotes.  `cutSpan` does the cutting of `split_assignments` for either reading of
quotes, and `assignmentPieces` chooses, as `assignment_pieces` does.  No character is lost but the
commas that separate and the spaces at the ends of a piece.

The choice is made once for the whole span: the span is scanned to its end with quotes, and if one
is open there the cutting starts again without.  So a single open quote in the last assignment
takes the protection of quotes away from all the others.

The depth is an unbounded integer, which `DelimiterScan` counts in 32 bits; texts with 2^31
unmatched parentheses are outside what is described here.  It may fall below zero, and a depth
below zero counts as the top level.  Nothing brings it back: a `)` that closes nothing lowers the
depth of everything behind it, and a comma between parentheses that come later may then separate.
-/
import HexadQuery.Grammar.Group

namespace HexadQuery

/-! ## 1. The scan -/

/-- Where a scan stands: the depth of parentheses, which may fall below zero, whether quotes
count, which quote is open, and the character before. -/
structure Scan where
  depth : Int := 0
  quotes : Bool
  inSingle : Bool := false
  inDouble : Bool := false
  previous : Option Char := none

namespace Scan

/-- Whether a quote is open. -/
def inQuote (scan : Scan) : Bool := scan.inSingle || scan.inDouble

/-- Whether a comma would separate here.  The source calls this the top level, outside every
quote and parenthesis; below zero the scan says so inside parentheses as well. -/
def isTop (scan : Scan) : Bool := !scan.inQuote && decide (scan.depth ≤ 0)

/-- Whether a value can start here: at the front of the span, behind a blank, and behind one of
the three marks ahead of a value. -/
def startsValue (scan : Scan) : Bool :=
  match scan.previous with
  | none => true
  | some c => Text.isBlank c || c == '=' || c == '(' || c == ','

/-- Read one character.  A quote toggles its own kind, if the other kind is not open and either
this kind is or a value can start; a parenthesis counts outside quotes. -/
def feed (scan : Scan) (c : Char) : Scan :=
  let read :=
    if c == '\'' && scan.quotes && !scan.inDouble && (scan.inSingle || scan.startsValue) then
      { scan with inSingle := !scan.inSingle }
    else if c == '"' && scan.quotes && !scan.inSingle && (scan.inDouble || scan.startsValue) then
      { scan with inDouble := !scan.inDouble }
    else if scan.inQuote then scan
    else { scan with depth := nest scan.depth c }
  { read with previous := some c }

end Scan

/-! ## 2. Cutting a span -/

/-- One assignment's text and the index of the token it starts in. -/
structure AssignmentPiece where
  text : String
  position : Nat
  deriving DecidableEq

/-- A character of a span and the index of its token; the spaces that part the tokens have
none. -/
structure SpanChar where
  char : Char
  position : Option Nat

namespace SpanChar

/-- The characters of a token, a space ahead of them.  The first token of a span has a space
ahead of it too, which trimming removes and the scan reads as the start of a value. -/
def ofToken (token : Token) : List SpanChar :=
  ⟨' ', none⟩ :: token.text.toList.map fun c => ⟨c, some token.position⟩

/-- The characters of a span. -/
def ofTokens (tokens : List Token) : List SpanChar := tokens.flatMap ofToken

/-- Cut at the commas that separate: the characters up to the first of them, and those between
it and the next, and so on. -/
def cut (scan : Scan) : List SpanChar → List SpanChar × List (List SpanChar)
  | [] => ([], [])
  | c :: cs =>
    let (first, later) := cut (scan.feed c.char) cs
    if c.char == ',' && scan.isTop then ([], first :: later) else (c :: first, later)

/-- The piece that characters make, if one of them belongs to a token.  Between two commas there
may be only spaces; that is no piece, and so an empty assignment is passed over in silence. -/
def piece? (cs : List SpanChar) : Option AssignmentPiece :=
  (cs.findSome? (·.position)).map fun position =>
    ⟨String.ofList (Text.trimChars (cs.map (·.char))), position⟩

end SpanChar

/-- Cut a span, with quotes that count or not. -/
def cutSpan (quotes : Bool) (tokens : List Token) : List AssignmentPiece :=
  let (first, later) := SpanChar.cut { quotes } (SpanChar.ofTokens tokens)
  (first :: later).filterMap SpanChar.piece?

/-- Where a scan stands at the end of a span. -/
def scanSpan (scan : Scan) (tokens : List Token) : Scan :=
  (SpanChar.ofTokens tokens).foldl (fun scan c => scan.feed c.char) scan

/-- Whether the last quote of a span is never closed. -/
def hasOpenQuote (tokens : List Token) : Bool := (scanSpan { quotes := true } tokens).inQuote

/-- The assignments of a span. -/
def assignmentPieces (tokens : List Token) : List AssignmentPiece :=
  cutSpan (!hasOpenQuote tokens) tokens

end HexadQuery
