/-
# Rules of the grammar

A rule reads tokens from the left and either yields a value and what is left, or the error that
ends the reading; beside that it notes events, and keeps them when it fails.  There is no
backtracking: a rule decides by looking at the next token and never gives a token back.

The primitive rules are here, one for each way the source's `TokenStream` is asked for tokens:
`keyword`, `token` and `operand` take one token that must be there (`expect_keyword`,
`expect_token`, `expect_operand`), `skipKeyword` takes one that may be (`match_keyword`),
`takeUntil` takes a stretch (`take_until`) and `finish` asks for the end (`expect_end`).  The first
three are one rule with a test, and so they refuse with one error.

A stream with an index becomes a list of what is left and the number of all tokens, which is where
an error at the end of the input points.  Everywhere else the position in an error is the one the
token carries.

Rules that repeat do so through `Rule.chain`, which ends by itself because each round leaves fewer
tokens.
-/
import HexadQuery.Grammar.Error
import HexadQuery.Grammar.Event

namespace HexadQuery

/-! ## 1. Outcomes -/

/-- A result and the events noted on the way to it. -/
structure Outcome (α : Type) where
  events : List Event
  result : Except ParseError α

namespace Outcome

variable {α β : Type}

def ok (a : α) : Outcome α := ⟨[], .ok a⟩

def fail (error : ParseError) : Outcome α := ⟨[], .error error⟩

/-- Go on with a value; an error ends it, and events add up either way. -/
def andThen (outcome : Outcome α) (next : α → Outcome β) : Outcome β :=
  match outcome.result with
  | .error error => ⟨outcome.events, .error error⟩
  | .ok a => ⟨outcome.events ++ (next a).events, (next a).result⟩

instance : Monad Outcome where
  pure := ok
  bind := andThen

instance : LawfulMonad Outcome := LawfulMonad.mk' Outcome
  (by
    rintro α ⟨events, result⟩
    cases result <;> simp [Functor.map, andThen, ok])
  (by
    intro α β a f
    simp [bind, pure, andThen, ok])
  (by
    rintro α β γ ⟨events, result⟩ f g
    cases result with
    | error e => simp [bind, andThen]
    | ok a =>
      simp only [bind, andThen]
      cases (f a).result <;> simp)

/-- Results compose as if no events were noted. -/
theorem result_andThen (outcome : Outcome α) (next : α → Outcome β) :
    (outcome.andThen next).result = outcome.result.bind fun a => (next a).result := by
  unfold andThen
  split <;> rename_i h <;> simp [h, Except.bind]

/-- The warnings among the events. -/
def warnings (outcome : Outcome α) : List Event :=
  outcome.events.filter fun event => event.level == .warn

end Outcome

/-! ## 2. Cursors -/

/-- The tokens that are left, and the number of tokens the text has. -/
structure Cursor where
  tokens : List Token
  count : Nat

namespace Cursor

/-- The start of a text. -/
def ofText (input : String) : Cursor := ⟨tokenize input, (tokenize input).length⟩

/-- The index of the next token; past the last one, the number of tokens. -/
def position (cursor : Cursor) : Nat :=
  match cursor.tokens with
  | token :: _ => token.position
  | [] => cursor.count

/-- The error for an input that ends too early. -/
def missing (cursor : Cursor) (expected : String) : ParseError :=
  .unexpectedEnd expected cursor.count

/-- The error for a next token that does not fit, or for there being none. -/
def refusal (cursor : Cursor) (expected : String) : ParseError :=
  match cursor.tokens with
  | token :: _ => .ofToken expected token
  | [] => cursor.missing expected

end Cursor

/-! ## 3. Rules -/

/-- A piece of the grammar. -/
abbrev Rule (α : Type) := StateT Cursor Outcome α

namespace Rule

variable {α : Type}

def fail (error : ParseError) : Rule α := fun _ => .fail error

/-- Note events. -/
def note (events : List Event) : Rule Unit := fun cursor => ⟨events, .ok ((), cursor)⟩

/-- The next token, which stays. -/
def peek : Rule (Option Token) := fun cursor => .ok (cursor.tokens.head?, cursor)

/-- Take the next token, if there is one and it passes the test. -/
def takeIf (test : Token → Bool) (expected : String) : Rule Token := fun cursor =>
  match cursor.tokens with
  | [] => .fail (cursor.refusal expected)
  | token :: rest =>
    if test token then .ok (token, { cursor with tokens := rest })
    else .fail (cursor.refusal expected)

/-- Take any token. -/
def token (expected : String) : Rule Token := takeIf (fun _ => true) expected

/-- Take this keyword. -/
def keyword (word : String) : Rule Token := takeIf (·.isKeyword word) word

/-- Keywords that open a clause.  They are never operands. -/
def clauseKeywords : List String :=
  ["SELECT", "FROM", "WHERE", "GROUP", "HAVING", "PROOF", "ORDER", "LIMIT", "OFFSET"]

/-- Take an operand: any token but a clause keyword. -/
def operand (expected : String) : Rule Token :=
  takeIf (fun token => !token.isAnyKeyword clauseKeywords) expected

/-- Take this keyword if it is next, and tell whether it was. -/
def skipKeyword (word : String) : Rule Bool := fun cursor =>
  match cursor.tokens with
  | token :: rest =>
    if token.isKeyword word then .ok (true, { cursor with tokens := rest })
    else .ok (false, cursor)
  | [] => .ok (false, cursor)

/-- Take tokens up to the first of the stop words. -/
def takeUntil (stops : List String) : Rule (List Token) := fun cursor =>
  let (taken, rest) := cursor.tokens.span fun token => !token.isAnyKeyword stops
  .ok (taken, { cursor with tokens := rest })

/-- Succeed only at the end of the input. -/
def finish (expected : String) : Rule Unit := fun cursor =>
  match cursor.tokens with
  | [] => .ok ((), cursor)
  | token :: _ => .fail (.ofToken expected token)

/-- Repeat a step as long as it asks for another round, and list what the rounds yield.  A round
that leaves as many tokens as it found is the last, so the rounds come to an end. -/
def chain (step : Rule (α × Bool)) (cursor : Cursor) : Outcome (List α × Cursor) :=
  let head := step cursor
  match head.result with
  | .error error => ⟨head.events, .error error⟩
  | .ok ((a, more), rest) =>
    if more ∧ rest.tokens.length < cursor.tokens.length then
      let tail := chain step rest
      ⟨head.events ++ tail.events, tail.result.map fun (as, last) => (a :: as, last)⟩
    else ⟨head.events, .ok ([a], rest)⟩
termination_by cursor.tokens.length

/-- Run a rule on a whole text. -/
def run (rule : Rule α) (input : String) : Outcome α :=
  (rule (Cursor.ofText input)).andThen fun (a, _) => .ok a

end Rule

end HexadQuery
