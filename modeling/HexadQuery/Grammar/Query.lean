/-
# Queries

    SELECT items FROM source [WHERE text] [GROUP BY fields] [HAVING text] [PROOF chain]
      [ORDER BY fields] [LIMIT n] [OFFSET n]

The clauses after FROM are optional and come in this order (`query_with`).  A clause that captures
tokens stops at the keywords of the clauses that may follow it; in the two list clauses, pieces
that are not `MODALITY.field` are skipped.

The stop words are four lists, one for each capturing clause, and they differ.  WHERE and HAVING
hand their text on as it stands; GROUP BY and ORDER BY read fields from theirs.  An ORDER BY stops
at LIMIT and OFFSET only: a PROOF behind it is one more piece that is no field, and is skipped.  A
capture knows no quotes, so a stop word inside a quoted text ends it as well.

A clause out of order is not a rule of its own.  The reading passes the place where the clause may
stand, does not find it, and ends at the token that is left, which is the error of `finish`.
-/
import HexadQuery.Grammar.Proof
import HexadQuery.Grammar.Select

namespace HexadQuery

/-! ## 1. Fields of the list clauses -/

/-- The pieces of a captured span. -/
def spanPieces (tokens : List Token) : List String :=
  tokens.flatMap fun token => Piece.commaPieces token.text

/-- Pair the fields of an ORDER BY with their directions: a field waits for the first direction
after it, and is ascending if the next field or the end comes first. -/
def orderItems (waiting : Option Projection) : List String → List OrderItem
  | [] => (waiting.map fun projection => ⟨projection, .asc⟩).toList
  | piece :: pieces =>
    match Direction.ofName? piece, Piece.projection? piece with
    | some direction, _ =>
      (waiting.map fun projection => ⟨projection, direction⟩).toList ++ orderItems none pieces
    | none, some projection =>
      (waiting.map fun earlier => ⟨earlier, .asc⟩).toList ++ orderItems (some projection) pieces
    | none, none => orderItems waiting pieces

/-- Whether a piece means something in an ORDER BY: a direction means something even where no
field is waiting for one. -/
def isOrderPiece (piece : String) : Bool :=
  (Direction.ofName? piece).isSome || (Piece.projection? piece).isSome

namespace Rule

/-! ## 2. FROM -/

/-- `WITH DRIFT policy`, if it is there; the policy is kept in capitals. -/
def driftPolicy : Rule (Option String) := do
  if ← skipKeyword "WITH" then
    let _ ← keyword "DRIFT"
    let policy ← operand "drift policy"
    return some policy.upper
  else return none

/-- `FROM HEXAD id`, `FROM STORE name` or `FROM FEDERATION pattern`. -/
def fromClause : Rule Source := do
  let _ ← keyword "FROM"
  let kind ← token "source kind"
  if kind.isKeyword "HEXAD" then
    return .hexad (← operand "hexad identifier").text
  else if kind.isKeyword "STORE" then
    return .store (← operand "store name").text
  else if kind.isKeyword "FEDERATION" then
    let pattern ← operand "federation pattern"
    let drift ← driftPolicy
    return .federation pattern.text drift
  else fail (.unknownSourceKind kind.text kind.position)

/-! ## 3. The other clauses -/

def filterStops : List String := ["PROOF", "GROUP", "HAVING", "ORDER", "LIMIT", "OFFSET"]
def groupStops : List String := ["HAVING", "PROOF", "ORDER", "LIMIT", "OFFSET"]
def havingStops : List String := ["PROOF", "ORDER", "LIMIT", "OFFSET"]
def orderStops : List String := ["LIMIT", "OFFSET"]

/-- A clause that its keyword opens; without the keyword it is absent. -/
def optionally {α : Type} (word : String) (body : Rule α) : Rule (Option α) := do
  if ← skipKeyword word then
    return some (← body)
  else return none

/-- The tokens up to a stop word, joined by single spaces. -/
def rawText (stops : List String) : Rule String := do
  let tokens ← takeUntil stops
  return " ".intercalate (tokens.map (·.text))

/-- The fields of a GROUP BY, after the word GROUP. -/
def groupFields : Rule (List Projection) := do
  let _ ← keyword "BY"
  let pieces := spanPieces (← takeUntil groupStops)
  note ((pieces.filter fun piece => (Piece.projection? piece).isNone).map .skippedGroupItem)
  return pieces.filterMap Piece.projection?

/-- The items of an ORDER BY, after the word ORDER. -/
def orderFields : Rule (List OrderItem) := do
  let _ ← keyword "BY"
  let pieces := spanPieces (← takeUntil orderStops)
  note ((pieces.filter fun piece => !isOrderPiece piece).map .skippedOrderItem)
  return orderItems none pieces

/-- The number of a LIMIT or OFFSET. -/
def number (expected : String) : Rule UInt64 := do
  let token ← token expected
  match Piece.unsigned? token.text with
  | some value => return value
  | none => fail (.malformedNumber token.text token.position)

/-! ## 4. The query -/

/-- A whole query. -/
def query (config : Config) (demand : ProofDemand) : Rule Query := do
  let select ← selectClause config
  let source ← fromClause
  let filter ← optionally "WHERE" (rawText filterStops)
  let groupBy ← optionally "GROUP" groupFields
  let having ← optionally "HAVING" (rawText havingStops)
  let proof ← proofClause demand
  let orderBy ← optionally "ORDER" orderFields
  let limit ← optionally "LIMIT" (number "LIMIT value")
  let offset ← optionally "OFFSET" (number "OFFSET value")
  finish "end of statement"
  return {
    select, source, filter, having, proof, limit, offset
    groupBy := groupBy.getD []
    orderBy := orderBy.getD [] }

end Rule

end HexadQuery
