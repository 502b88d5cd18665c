/-
# Tokens

A statement is a sequence of words.  Punctuation stays attached to the word it touches (`COUNT(*)`,
`GRAPH,`, `(contract)`); taking such a word apart is the grammar's work, so cutting a text into
tokens never fails and `tokenize` has no error to report.

A token knows its index among the tokens, which is where errors point, and its byte offset in the
text, which nothing in the grammar reads.  Offsets are bytes of UTF-8 and not characters.

A keyword is no kind of token.  `is_keyword` and `is_any_keyword` compare the text of a token in
any casing of its ASCII letters, so a word is a keyword only where the grammar asks for one: FROM
behind SELECT is one, and FROM inside a group is a word like any other.
-/
import HexadQuery.Text.Blank
import HexadQuery.Text.Letters

namespace HexadQuery

/-- A word of a statement. -/
structure Token where
  text : String
  position : Nat
  offset : Nat
  deriving DecidableEq

namespace Token

/-- Whether the token is this keyword, in any casing. -/
def isKeyword (token : Token) (keyword : String) : Bool := Text.sameLetters token.text keyword

/-- Whether the token is one of these keywords, in any casing. -/
def isAnyKeyword (token : Token) (keywords : List String) : Bool :=
  keywords.any token.isKeyword

/-- The token's text in capitals, which is how a drift policy is kept. -/
def upper (token : Token) : String := Text.upper token.text

end Token

/-- The tokens of a text: its words in order, each with its index and the offset at which it
starts. -/
def tokenize (input : String) : List Token :=
  (Text.wordsFrom 0 input.toList).zipIdx.map fun (word, index) =>
    ⟨String.ofList word.chars, index, word.offset⟩

@[simp] theorem length_tokenize (input : String) :
    (tokenize input).length = (Text.wordsFrom 0 input.toList).length := by
  simp [tokenize]

/-- A token's position is its index. -/
theorem position_getElem_tokenize (input : String) (i : Nat) (h : i < (tokenize input).length) :
    (tokenize input)[i].position = i := by
  simp [tokenize]

end HexadQuery
