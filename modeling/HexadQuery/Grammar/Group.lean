/-
# Parenthesised groups

A payload or a contract stands between parentheses and may run over several tokens.  Only
parentheses count: quotes and keywords inside a group mean nothing, so that `(author=O'Brien)`
closes like any other group.

Two functions of the source do this in turn.  `take_group` takes tokens until they hold as many
closing as opening parentheses; the `split` of a `DelimitedGroup` then cuts the gathered text at
the first place where the opening one is closed, and what follows that place in the last token is
the group's trailing text.  Here they are `gather` and `Group.cut`, over one notion of depth, and
`group` puts them together.  The two need not agree on where a group ends: `gather` looks at token
ends only and `cut` at every character, so a group such as `(a)(b)` is gathered whole and cut in
the middle.  What then counts as trailing is `(b)`.

The depth is an unbounded integer and may fall below zero.  `DelimiterScan` counts it in 32 bits,
so texts with 2^31 or more unmatched parentheses are outside what is described here.
-/
import HexadQuery.Grammar.Rule

namespace HexadQuery

/-! ## 1. Depth

The count without quotes.  The scan of a SET span, which knows quotes, is in another module and
uses `nest` for the characters outside them. -/

/-- The nesting depth after one more character. -/
def nest (depth : Int) (c : Char) : Int :=
  if c == '(' then depth + 1 else if c == ')' then depth - 1 else depth

/-- The nesting depth after more characters: what feeding a text to the scan does. -/
def nestAll (depth : Int) (cs : List Char) : Int := cs.foldl nest depth

/-! ## 2. Cutting a group -/

/-- The text inside a pair of parentheses and the text after it, both trimmed. -/
structure Group where
  inner : String
  trailing : String
  deriving DecidableEq

namespace Group

/-- Cut at the first character that brings the depth to zero or below; that character is lost,
and without one everything is inside. -/
def cut (depth : Int) : List Char → List Char × List Char
  | [] => ([], [])
  | c :: cs =>
    if nest depth c ≤ 0 then ([], cs)
    else
      let (inside, after) := cut (nest depth c) cs
      (c :: inside, after)

/-- The group at the front of a text that starts with its opening parenthesis.  The first
character is never looked at as a place to close, whatever it is. -/
def ofText : List Char → Group
  | [] => ⟨"", ""⟩
  | c :: cs =>
    let (inside, after) := cut (nest 0 c) cs
    ⟨String.ofList (Text.trimChars inside), String.ofList (Text.trimChars after)⟩

end Group

/-! ## 3. Taking a group -/

namespace Rule

/-- Split off the tokens up to the one that brings the depth to zero or below.  The depth is
checked ahead of the first token, so a group that its head closes takes none. -/
def gather (depth : Int) : List Token → Option (List Token × List Token)
  | [] => if depth ≤ 0 then some ([], []) else none
  | token :: rest =>
    if depth ≤ 0 then some ([], token :: rest)
    else
      (gather (nestAll depth token.text.toList) rest).map fun (taken, rest) =>
        (token :: taken, rest)

/-- A text and the tokens after it, a space ahead of each. -/
def gatheredText (head : List Char) (tokens : List Token) : List Char :=
  head ++ tokens.flatMap fun token => ' ' :: token.text.toList

/-- Take the group whose text starts with `head`.  Without a closing parenthesis the error points
past the last token, however far the group was searched. -/
def group (head : List Char) : Rule Group := fun cursor =>
  match gather (nestAll 0 head) cursor.tokens with
  | some (taken, rest) =>
    .ok (Group.ofText (gatheredText head taken), { cursor with tokens := rest })
  | none => .fail (cursor.missing "')'")

/-- A name, the text of the group after it from the opening parenthesis on, and the index of the
token that holds the parenthesis. -/
structure CallHead where
  name : String
  opening : List Char
  position : Nat

/-- Whether a token starts with an opening parenthesis. -/
def opensGroup (token : Token) : Bool := token.text.toList.head? == some '('

/-- Find the parenthesis after a name: in the same token, or at the start of the next.  `TYPE(c)`
and `TYPE (c)` are the same call, and an error about its group points at the token that opened
it. -/
def callHead (head : Token) (expected : String) : Rule CallHead :=
  match head.text.toList.span (· != '(') with
  | (_, []) => do
    let opening ← takeIf opensGroup expected
    return ⟨head.text, opening.text.toList, opening.position⟩
  | (name, opening) => return ⟨String.ofList name, opening, head.position⟩

end Rule

end HexadQuery
