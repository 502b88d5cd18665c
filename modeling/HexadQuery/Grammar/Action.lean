/-
# Entry grammars

Five ways to read a text over one clause grammar: any query, a query without proofs, a query with
proofs, a mutation, or whichever of the two the first word says.  `parse` reads a text with the
entry grammar an action names, as `parse_with_action` does.

The five differ in their first step and in the demand on the PROOF clause, and in nothing else.  A
query grammar returns the bare node and the statement grammar says which family it belongs to,
which is why a tree is a `Parsed` and not a statement.

What was accepted is noted with its rendering.  That note is part of the outcome, so two readings
with the same result may still have different events.
-/
import HexadQuery.Grammar.Mutation
import HexadQuery.Grammar.Query
import HexadQuery.Statement.Printer

namespace HexadQuery

/-! ## 1. Actions -/

/-- The choice of an entry grammar. -/
inductive Action where
  | query
  | slipstream
  | dependentType
  | mutation
  | statement
  deriving DecidableEq

namespace Action

def all : List Action := [query, slipstream, dependentType, mutation, statement]

/-- The name of an action on the wire and on the command line. -/
def name : Action → String
  | query => "parse"
  | slipstream => "parseSlipstream"
  | dependentType => "parseDependentType"
  | mutation => "parseMutation"
  | statement => "parseStatement"

/-- The action with this name in any casing. -/
def ofName? (name : String) : Option Action :=
  all.find? fun action => Text.sameLetters action.name name

/-- What an unknown action name is answered with. -/
def unknownMessage (name : String) : String := String.join ["Unknown action: ", name]

end Action

/-! ## 2. Readings -/

/-- Note what was accepted, and its rendering. -/
def Outcome.accepted {α : Type} (outcome : Outcome α) (event : α → Event) (render : α → String) :
    Outcome α :=
  outcome.andThen fun a => ⟨[event a, .rendered (render a)], .ok a⟩

/-- Read a query; proofs are allowed. -/
def parseQuery (config : Config) (input : String) : Outcome Query :=
  ((Rule.query config .optional).run input).accepted
    (fun query => .queryAccepted query.select.modalities.length query.proof.length) Query.render

/-- Read a query that must not carry proofs. -/
def parseSlipstream (config : Config) (input : String) : Outcome Query :=
  ((Rule.query config .forbidden).run input).accepted (fun _ => .slipstreamAccepted) Query.render

/-- Read a query that must carry proofs. -/
def parseDependentType (config : Config) (input : String) : Outcome Query :=
  ((Rule.query config .required).run input).accepted
    (fun query => .dependentAccepted query.proof.length) Query.render

/-- Read a mutation. -/
def parseMutation (input : String) : Outcome Mutation :=
  (Rule.mutation.run input).accepted (fun mutation => .mutationAccepted mutation.keyword)
    Mutation.render

/-- First words that open a mutation. -/
def mutationKeywords : List String := ["INSERT", "UPDATE", "DELETE"]

/-- A query or a mutation, by its first word. -/
def Rule.statement (config : Config) : Rule Statement := do
  match ← peek with
  | none => fail ((← get).missing "statement")
  | some first =>
    if first.isAnyKeyword mutationKeywords then
      return .mutation (← mutation)
    else return .query (← query config .optional)

/-- Read a statement of either family. -/
def parseStatement (config : Config) (input : String) : Outcome Statement :=
  ((Rule.statement config).run input).accepted (fun statement => .statementAccepted statement.kind)
    Statement.render

/-- Read a text with the entry grammar of an action. -/
def parse (config : Config) (action : Action) (input : String) : Outcome Parsed :=
  match action with
  | .query => Parsed.query <$> parseQuery config input
  | .slipstream => Parsed.query <$> parseSlipstream config input
  | .dependentType => Parsed.query <$> parseDependentType config input
  | .mutation => Parsed.mutation <$> parseMutation input
  | .statement => Parsed.statement <$> parseStatement config input

end HexadQuery
