/-
# Statements in canonical form

Every node has one rendering: keywords and modalities in capitals, words separated by single
spaces, list items by a comma and a space.  Reading a rendering under the registry the statement
was read with gives the statement back, apart from a few texts that a hand-built tree or a lenient
reading can hold; the renderings of those are still defined here.

The renderings follow the `Display` of each node, clause by clause in the fixed order of the
grammar.  A SELECT list is written from its reconstructed items; all else is written from the
fields as they stand.  Two choices bear on whether a rendering reads back: an obligation is written
with a space between its type and its contract, and a payload without one.
-/
import HexadQuery.Statement.SelectList

namespace HexadQuery

/-- Join texts with a comma and a space. -/
def commaList (texts : List String) : String := ", ".intercalate texts

/-! ## 1. Parts -/

def Selected.render : Selected → String
  | all => "*"
  | modality m => m.keyword

def Projection.render (projection : Projection) : String :=
  projection.modality.keyword ++ "." ++ projection.field

def Aggregate.render : Aggregate → String
  | countAll => "COUNT(*)"
  | ofField function operand => function.keyword ++ "(" ++ operand.render ++ ")"

def SelectItem.render : SelectItem → String
  | selected s => s.render
  | projection p => p.render
  | aggregate a => a.render

def SelectList.render (list : SelectList) : String := commaList (list.items.map SelectItem.render)

def Source.render : Source → String
  | hexad id => "HEXAD " ++ id
  | store name => "STORE " ++ name
  | federation pattern none => "FEDERATION " ++ pattern
  | federation pattern (some policy) => "FEDERATION " ++ pattern ++ " WITH DRIFT " ++ policy

def ProofSpec.render (spec : ProofSpec) : String := spec.proofType ++ " (" ++ spec.contract ++ ")"

def OrderItem.render (item : OrderItem) : String :=
  item.projection.render ++ " " ++ item.direction.keyword

def Payload.render (payload : Payload) : String :=
  payload.modality.keyword ++ "(" ++ payload.text ++ ")"

def Assignment.render (assignment : Assignment) : String :=
  assignment.field ++ "=" ++ assignment.value

/-- A list of fields. -/
def renderFields (fields : List Projection) : String := commaList (fields.map Projection.render)

/-- A list of aggregates. -/
def renderAggregates (aggregates : List Aggregate) : String :=
  commaList (aggregates.map Aggregate.render)

/-- A list of fields with their directions. -/
def renderOrder (items : List OrderItem) : String := commaList (items.map OrderItem.render)

/-- A chain of proof obligations. -/
def renderProofs (proof : List ProofSpec) : String :=
  " AND ".intercalate (proof.map ProofSpec.render)

/-! ## 2. Optional clauses -/

/-- A clause that may be absent, with a space ahead of it. -/
def clauseText (lead : String) : Option String → String
  | none => ""
  | some body => " " ++ lead ++ " " ++ body

/-- The body of a list clause; an empty list has none. -/
def listBody {α : Type} (body : List α → String) : List α → Option String
  | [] => none
  | items => some (body items)

/-- The PROOF clause, which queries and mutations share. -/
def proofText (proof : List ProofSpec) : String := clauseText "PROOF" (listBody renderProofs proof)

/-! ## 3. Statements -/

def Query.render (query : Query) : String :=
  "SELECT " ++ query.select.render ++ " FROM " ++ query.source.render ++
    clauseText "WHERE" query.filter ++
    clauseText "GROUP BY" (listBody renderFields query.groupBy) ++
    clauseText "HAVING" query.having ++
    proofText query.proof ++
    clauseText "ORDER BY" (listBody renderOrder query.orderBy) ++
    clauseText "LIMIT" (query.limit.map fun n => n.toNat.repr) ++
    clauseText "OFFSET" (query.offset.map fun n => n.toNat.repr)

def Mutation.render : Mutation → String
  | insert payloads proof =>
    "INSERT HEXAD" ++ " WITH " ++ commaList (payloads.map Payload.render) ++ proofText proof
  | update id assignments proof =>
    "UPDATE HEXAD " ++ id ++ " SET " ++ commaList (assignments.map Assignment.render) ++
      proofText proof
  | delete id proof => "DELETE HEXAD " ++ id ++ proofText proof

def Statement.render : Statement → String
  | query q => q.render
  | mutation m => m.render

end HexadQuery
