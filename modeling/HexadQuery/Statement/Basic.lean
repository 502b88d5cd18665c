/-
# Statements

What a statement says once it has been read.  A query names what it selects, where from, and up to
seven further clauses; a mutation inserts, updates or deletes one hexad.  WHERE and HAVING bodies
are texts handed to the engine as they stand, and so are payloads and values: `Condition` has one
case, the raw text, and is that text here.

Absence is a value here: an absent clause is `none` or the empty list, and a WHERE clause with
nothing behind it is `some ""`.

The trees are plain data.  Not every tree can be read from a text, and not every tree has a
rendering that reads back; which ones do is proved and not built into the types, because the
printer, the validator and the bridge take any tree.
-/
import HexadQuery.Modality

namespace HexadQuery

/-! ## 1. What a query selects -/

/-- An entry of the list of selected modalities. -/
inductive Selected where
  | all
  | modality (modality : Modality)
  deriving DecidableEq

/-- A field inside one modality's representation. -/
structure Projection where
  modality : Modality
  field : String
  deriving DecidableEq

inductive AggregateFunction where
  | count
  | sum
  | avg
  | min
  | max
  deriving DecidableEq

/-- `COUNT(*)`, or a function of a field. -/
inductive Aggregate where
  | countAll
  | ofField (function : AggregateFunction) (operand : Projection)
  deriving DecidableEq

/-- What a SELECT list collects: the modalities it mentions, first mention first and each once,
its projections and its aggregates. -/
structure SelectList where
  modalities : List Selected := []
  projections : List Projection := []
  aggregates : List Aggregate := []
  deriving DecidableEq

/-! ## 2. The other clauses -/

/-- Where a query reads from. -/
inductive Source where
  | hexad (id : String)
  | store (name : String)
  | federation (pattern : String) (drift : Option String)
  deriving DecidableEq

/-- A proof obligation: the kind of proof and the contract it is checked against. -/
structure ProofSpec where
  proofType : String
  contract : String
  deriving DecidableEq

inductive Direction where
  | asc
  | desc
  deriving DecidableEq

structure OrderItem where
  projection : Projection
  direction : Direction
  deriving DecidableEq

/-! ## 3. Whole statements -/

/-- A read query. -/
structure Query where
  select : SelectList
  source : Source
  filter : Option String := none
  groupBy : List Projection := []
  having : Option String := none
  proof : List ProofSpec := []
  orderBy : List OrderItem := []
  limit : Option UInt64 := none
  offset : Option UInt64 := none
  deriving DecidableEq

/-- The text an INSERT gives for one modality. -/
structure Payload where
  modality : Modality
  text : String
  deriving DecidableEq

structure Assignment where
  field : String
  value : String
  deriving DecidableEq

/-- A write statement. -/
inductive Mutation where
  | insert (payloads : List Payload) (proof : List ProofSpec)
  | update (id : String) (assignments : List Assignment) (proof : List ProofSpec)
  | delete (id : String) (proof : List ProofSpec)
  deriving DecidableEq

inductive Statement where
  | query (query : Query)
  | mutation (mutation : Mutation)
  deriving DecidableEq

/-- A tree as one of the entry grammars returns it: the statement grammar says which family a
statement belongs to, the others return the bare node. -/
inductive Parsed where
  | query (query : Query)
  | mutation (mutation : Mutation)
  | statement (statement : Statement)
  deriving DecidableEq

/-! ## 4. Names and views -/

namespace AggregateFunction

def keyword : AggregateFunction → String
  | count => "COUNT"
  | sum => "SUM"
  | avg => "AVG"
  | min => "MIN"
  | max => "MAX"

/-- The function with this name in any casing. -/
def ofName? (name : String) : Option AggregateFunction :=
  [count, sum, avg, min, max].find? fun function => Text.sameLetters function.keyword name

end AggregateFunction

/-- The modality an aggregate reads, if it reads one. -/
def Aggregate.modality? : Aggregate → Option Modality
  | countAll => none
  | ofField _ operand => some operand.modality

namespace Direction

def keyword : Direction → String
  | asc => "ASC"
  | desc => "DESC"

/-- The direction with this name in any casing. -/
def ofName? (name : String) : Option Direction :=
  [asc, desc].find? fun direction => Text.sameLetters direction.keyword name

end Direction

namespace Mutation

def keyword : Mutation → String
  | insert .. => "INSERT"
  | update .. => "UPDATE"
  | delete .. => "DELETE"

/-- The proof obligations of a mutation. -/
def proof : Mutation → List ProofSpec
  | insert _ proof => proof
  | update _ _ proof => proof
  | delete _ proof => proof

end Mutation

/-- The family of a statement. -/
def Statement.kind : Statement → String
  | query _ => "query"
  | mutation _ => "mutation"

/-- The statement a tree stands for, whichever entry grammar returned it. -/
def Parsed.toStatement : Parsed → Statement
  | query q => .query q
  | mutation m => .mutation m
  | statement s => s

end HexadQuery
