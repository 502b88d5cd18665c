/-
# Checking references against a registry

The grammar accepts any identifier as a modality.  Validation asks a registry about every modality
a statement refers to and reports the first one it does not know, with the clause that holds it.
The wildcard refers to nothing, and neither do UPDATE and DELETE.

`validate_query` walks a query in five passes: the entries of the SELECT list, its projections, its
aggregates, then GROUP BY and ORDER BY.  The first three report the same clause, and a projection
comes behind all entries, so the first unknown reference is the first in this order and not the
first in the text.
-/
import HexadQuery.Registry
import HexadQuery.Statement.Basic

namespace HexadQuery

/-- A clause that can refer to modalities. -/
inductive Clause where
  | select
  | groupBy
  | orderBy
  | insert
  deriving DecidableEq

def Clause.label : Clause → String
  | select => "SELECT"
  | groupBy => "GROUP BY"
  | orderBy => "ORDER BY"
  | insert => "INSERT"

/-- A reference to a modality that the registry does not know. -/
structure UnknownModality where
  modality : Modality
  clause : Clause
  deriving DecidableEq

def UnknownModality.message (unknown : UnknownModality) : String :=
  String.join ["Unknown modality '", unknown.modality.name, "' in ", unknown.clause.label]

namespace Registry

/-- Check references from one clause in order. -/
def checkAll (registry : Registry) (clause : Clause) : List Modality → Except UnknownModality Unit
  | [] => .ok ()
  | modality :: more =>
    if registry.contains modality then registry.checkAll clause more
    else .error ⟨modality, clause⟩

end Registry

/-- The modality of an entry that is not the wildcard. -/
def Selected.modality? : Selected → Option Modality
  | all => none
  | modality m => some m

/-- Check a query: the SELECT list, then GROUP BY, then ORDER BY. -/
def Query.validate (query : Query) (registry : Registry) : Except UnknownModality Unit := do
  registry.checkAll .select (query.select.modalities.filterMap Selected.modality?)
  registry.checkAll .select (query.select.projections.map (·.modality))
  registry.checkAll .select (query.select.aggregates.filterMap Aggregate.modality?)
  registry.checkAll .groupBy (query.groupBy.map (·.modality))
  registry.checkAll .orderBy (query.orderBy.map (·.projection.modality))

/-- Check a mutation: only an INSERT refers to modalities. -/
def Mutation.validate (mutation : Mutation) (registry : Registry) : Except UnknownModality Unit :=
  match mutation with
  | insert payloads _ => registry.checkAll .insert (payloads.map (·.modality))
  | update .. => .ok ()
  | delete .. => .ok ()

/-- Check a statement. -/
def Statement.validate (statement : Statement) (registry : Registry) :
    Except UnknownModality Unit :=
  match statement with
  | query q => q.validate registry
  | mutation m => m.validate registry

end HexadQuery
