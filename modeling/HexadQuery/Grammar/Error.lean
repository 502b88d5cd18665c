/-
# Why a text is not a statement

Reading stops at the first violation of the grammar.  Every error points at a token by its index;
an error at the end of the input points past the last token.

The cases are those of `ParserError`, with their fields and their texts.  What was expected is a
text and no data: it is shown to the user and compared by nobody.
-/
import HexadQuery.Token

namespace HexadQuery

/-- The first violation of the grammar. -/
inductive ParseError where
  | unexpectedToken (expected found : String) (position : Nat)
  | unexpectedEnd (expected : String) (position : Nat)
  | unknownSourceKind (token : String) (position : Nat)
  | unknownStatementKind (token : String) (position : Nat)
  | malformedNumber (token : String) (position : Nat)
  | danglingProofChain (position : Nat)
  | missingProofClause (position : Nat)
  | unexpectedProofClause (position : Nat)
  deriving DecidableEq

namespace ParseError

/-- A token that does not fit. -/
def ofToken (expected : String) (token : Token) : ParseError :=
  .unexpectedToken expected token.text token.position

/-- The index of the token the error points at. -/
def position : ParseError → Nat
  | unexpectedToken _ _ p => p
  | unexpectedEnd _ p => p
  | unknownSourceKind _ p => p
  | unknownStatementKind _ p => p
  | malformedNumber _ p => p
  | danglingProofChain p => p
  | missingProofClause p => p
  | unexpectedProofClause p => p

def message : ParseError → String
  | unexpectedToken expected found p =>
    String.join ["Expected ", expected, ", found '", found, "' at position ", p.repr]
  | unexpectedEnd expected p =>
    String.join ["Expected ", expected, ", found end of input at position ", p.repr]
  | unknownSourceKind token p =>
    String.join ["Unknown source kind '", token, "' at position ", p.repr,
      ". Expected HEXAD, STORE or FEDERATION"]
  | unknownStatementKind token p =>
    String.join ["Unknown statement kind '", token, "' at position ", p.repr,
      ". Expected INSERT, UPDATE or DELETE"]
  | malformedNumber token p =>
    String.join ["Malformed number '", token, "' at position ", p.repr,
      ". Expected a non-negative integer"]
  | danglingProofChain p =>
    String.join ["Dangling AND at position ", p.repr,
      ". Expected a proof specification after AND"]
  | missingProofClause p =>
    String.join ["Missing PROOF clause at position ", p.repr,
      ". Dependent-type queries must carry at least one proof"]
  | unexpectedProofClause p =>
    String.join ["Unexpected PROOF clause at position ", p.repr,
      ". Slipstream queries cannot carry proofs"]

end ParseError

end HexadQuery
