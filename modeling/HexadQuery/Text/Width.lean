/-
# Columns taken by a text

How wide a text is drawn in a fixed-width face.  Most characters take one column, wide ones two,
marks and invisible characters none; characters that are drawn together take the columns of the
result.  A text is measured from its end, because a character's columns depend on what follows.

A variation selector takes no column and changes the character before it: into an emoji of two
columns, into a sign of the text of one, or, for the curved quotation marks, into a form of two.
-/
import HexadQuery.Text.Ligature

namespace HexadQuery.Text

/-! ## 1. What follows -/

/-- What follows a character: what is ahead, and the selectors before that. -/
structure Outlook where
  ahead : Ahead := .plain
  emojiStyle : Bool := false
  textStyle : Bool := false
  wideStyle : Bool := false

namespace Outlook

/-- Put a selector for the emoji style ahead.  Letters and joined emoji stay in view behind it. -/
def addEmojiStyle (next : Outlook) : Outlook :=
  if next.ahead.isLetter || next.ahead.isJoinedEmoji then { next with emojiStyle := true }
  else { emojiStyle := true }

/-- Put a selector for the text style ahead.  Letters stay in view behind it. -/
def addTextStyle (next : Outlook) : Outlook :=
  if next.ahead.isLetter then { next with textStyle := true } else { textStyle := true }

/-- Put a selector for the wide form ahead.  Letters stay in view behind it. -/
def addWideStyle (next : Outlook) : Outlook :=
  if next.ahead.isLetter then { next with wideStyle := true } else { wideStyle := true }

/-- What follows once the selector for the emoji style has found no base. -/
def dropEmojiStyle (next : Outlook) : Outlook :=
  if !next.emojiStyle then next
  else if next.ahead.isLetter then { next with emojiStyle := false }
  else {}

/-- The curved quotation marks, which have a wide form. -/
def isCurvedQuote (c : Char) : Bool :=
  c.toNat == 0x2018 || c.toNat == 0x2019 || c.toNat == 0x201C || c.toNat == 0x201D

/-- Read a character that is neither a selector nor changed by one. -/
def readPlain (next : Outlook) (c : Char) : Int × Outlook :=
  if next.ahead.looksThrough && isJoiner c then (0, { next with ahead := next.ahead.joined })
  else if next.ahead.looksThrough && Span.covers ignoredMarkSpans c then (0, next)
  else
    match next.ahead.join? c with
    | some (columns, ahead) => (columns, { ahead })
    | none => (columnsOf c, { ahead := Ahead.ofChar c })

/-- Read a character that no selector for the emoji style changes. -/
def readText (next : Outlook) (c : Char) : Int × Outlook :=
  if c.toNat ≤ 0xA0 then (1, {})
  else if c.toNat == 0xFE0F then (0, next.addEmojiStyle)
  else if c.toNat == 0xFE0E then (0, next.addTextStyle)
  else if c.toNat == 0xFE01 then (0, next.addWideStyle)
  else if next.textStyle then
    if Span.covers textStyleSpans c then (1, {}) else { next with textStyle := false }.readPlain c
  else if next.wideStyle then
    if isCurvedQuote c then (2, {}) else { next with wideStyle := false }.readPlain c
  else next.readPlain c

/-- Read a character: the columns it adds, and what it and what follows are to the character
before. -/
def read (next : Outlook) (c : Char) : Int × Outlook :=
  if next.emojiStyle && Span.covers emojiStyleSpans c then
    (if next.ahead.isJoinedEmoji then 0 else 2, { ahead := .emoji })
  else next.dropEmojiStyle.readText c

end Outlook

/-! ## 2. A text -/

/-- The columns of a text, and what the text is to a character before it. -/
def measure : List Char → Int × Outlook
  | [] => (0, {})
  | c :: cs =>
    let (total, next) := measure cs
    let (added, outlook) := next.read c
    (total + added, outlook)

/-- The columns a text takes. -/
def columns (s : String) : Nat := (measure s.toList).1.toNat

end HexadQuery.Text
