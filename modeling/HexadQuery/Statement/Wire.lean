/-
# Statements on the wire

The JSON form of a tree.  A variant is an object with a `TAG`; an absent clause and an empty list
are `null`, except for the lists a node cannot do without, which stay arrays.  The wildcard and a
modality named `All` have the same form.

The order of the members is part of the form, because a compact text is compared as a text.  The
fields of a variant without names are `_0` and `_1`.  Which lists become `null` when they are empty
(`null_if_empty`) is decided field by field: the modalities of a query, the payloads and the
assignments never do.
-/
import HexadQuery.Json.Basic
import HexadQuery.Statement.Basic

namespace HexadQuery

namespace Json

/-- An object that names its variant. -/
def tagged (tag : String) (members : List (String × Json)) : Json :=
  .obj (("TAG", .str tag) :: members)

/-- A value that may be absent. -/
def orNull {α : Type} (encode : α → Json) : Option α → Json
  | some a => encode a
  | none => .null

/-- A list that is `null` when empty. -/
def listOrNull {α : Type} (encode : α → Json) : List α → Json
  | [] => .null
  | items => .arr (items.map encode)

end Json

open Json

def Modality.toJson (modality : Modality) : Json := tagged modality.name []

def Selected.toJson : Selected → Json
  | all => tagged "All" []
  | modality m => m.toJson

def Projection.toJson (projection : Projection) : Json :=
  .obj [("modality", projection.modality.toJson), ("field", .str projection.field)]

def AggregateFunction.wireName : AggregateFunction → String
  | count => "Count"
  | sum => "Sum"
  | avg => "Avg"
  | min => "Min"
  | max => "Max"

def Aggregate.toJson : Aggregate → Json
  | countAll => tagged "CountAll" []
  | ofField function operand =>
    tagged "AggregateField"
      [("function", tagged function.wireName []), ("modality", operand.modality.toJson),
        ("field", .str operand.field)]

def Source.toJson : Source → Json
  | hexad id => tagged "Hexad" [("_0", .str id)]
  | store name => tagged "Store" [("_0", .str name)]
  | federation pattern drift =>
    tagged "Federation" [("_0", .str pattern), ("_1", orNull .str drift)]

/-- The text of a WHERE or HAVING clause. -/
def conditionJson (text : String) : Json := tagged "Raw" [("_0", .str text)]

def ProofSpec.toJson (spec : ProofSpec) : Json :=
  .obj [("proofType", .str spec.proofType), ("contractName", .str spec.contract)]

def Direction.wireName : Direction → String
  | asc => "Asc"
  | desc => "Desc"

def OrderItem.toJson (item : OrderItem) : Json :=
  .obj [("field", item.projection.toJson), ("direction", tagged item.direction.wireName [])]

def Query.toJson (query : Query) : Json :=
  .obj
    [("modalities", .arr (query.select.modalities.map Selected.toJson)),
      ("projections", listOrNull Projection.toJson query.select.projections),
      ("aggregates", listOrNull Aggregate.toJson query.select.aggregates),
      ("source", query.source.toJson),
      ("where", orNull conditionJson query.filter),
      ("groupBy", listOrNull Projection.toJson query.groupBy),
      ("having", orNull conditionJson query.having),
      ("proof", listOrNull ProofSpec.toJson query.proof),
      ("orderBy", listOrNull OrderItem.toJson query.orderBy),
      ("limit", orNull (fun n => .num n.toNat) query.limit),
      ("offset", orNull (fun n => .num n.toNat) query.offset)]

def Payload.toJson (payload : Payload) : Json :=
  .obj [("modality", payload.modality.toJson), ("payload", .str payload.text)]

def Assignment.toJson (assignment : Assignment) : Json :=
  .obj [("field", .str assignment.field), ("value", .str assignment.value)]

def Mutation.toJson : Mutation → Json
  | insert payloads proof =>
    tagged "Insert"
      [("modalityData", .arr (payloads.map Payload.toJson)),
        ("proof", listOrNull ProofSpec.toJson proof)]
  | update id assignments proof =>
    tagged "Update"
      [("hexadId", .str id), ("assignments", .arr (assignments.map Assignment.toJson)),
        ("proof", listOrNull ProofSpec.toJson proof)]
  | delete id proof =>
    tagged "Delete" [("hexadId", .str id), ("proof", listOrNull ProofSpec.toJson proof)]

def Statement.toJson : Statement → Json
  | query q => tagged "Query" [("_0", q.toJson)]
  | mutation m => tagged "Mutation" [("_0", m.toJson)]

def Parsed.toJson : Parsed → Json
  | query q => q.toJson
  | mutation m => m.toJson
  | statement s => s.toJson

end HexadQuery
