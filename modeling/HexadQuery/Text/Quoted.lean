/-
# A text shown between quotes

How a diagnostic shows a text of unknown content: between double quotes, with quotes and
backslashes escaped, line breaks, tabs and NUL by letter, and every character that cannot be
shown alone by its number in braces.
-/
import HexadQuery.Text.HiddenTable
import HexadQuery.Text.MarkTable

namespace HexadQuery.Text

/-- One character of a quoted text. -/
def quotedChar (c : Char) : List Char :=
  if c == '"' then ['\\', '"']
  else if c == '\\' then ['\\', '\\']
  else if c == '\n' then ['\\', 'n']
  else if c == '\r' then ['\\', 'r']
  else if c == '\t' then ['\\', 't']
  else if c.toNat == 0 then ['\\', '0']
  else if Span.covers hiddenSpans c || Span.covers markSpans c then
    ['\\', 'u', '\x7b'] ++ Nat.toDigits 16 c.toNat ++ ['\x7d']
  else [c]

/-- A text between double quotes. -/
def quoted (s : String) : String :=
  String.ofList (['"'] ++ s.toList.flatMap quotedChar ++ ['"'])

end HexadQuery.Text
