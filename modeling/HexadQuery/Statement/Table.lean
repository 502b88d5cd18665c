/-
# Statements as tables

A two-column table with a row for each clause that is present.  Each column is as wide as its
widest cell, a cell has a space on either side, and a cell that holds line breaks takes several
lines.

Which rows there are is `query_rows` and `mutation_rows`; a payload or an assignment has a row of
its own.  How a table is drawn is not the program's own work, so the drawing here follows what the
table library documents for a text without colours and without a width to fit in.
-/
import HexadQuery.Statement.Printer
import HexadQuery.Text.Width

namespace HexadQuery

/-! ## 1. Rows -/

/-- A clause and what it says. -/
structure TableRow where
  clause : String
  value : String

/-- A row for a clause that may be absent. -/
def optionalRow (clause : String) (value : Option String) : List TableRow :=
  (value.map fun text => ⟨clause, text⟩).toList

/-- A row for a proof chain that is not empty. -/
def proofRow (proof : List ProofSpec) : List TableRow :=
  optionalRow "Proof" (listBody renderProofs proof)

def Query.rows (query : Query) : List TableRow :=
  [⟨"Statement", "QUERY"⟩,
    ⟨"Modalities", commaList (query.select.modalities.map Selected.render)⟩] ++
  optionalRow "Projections" (listBody renderFields query.select.projections) ++
  optionalRow "Aggregates" (listBody renderAggregates query.select.aggregates) ++
  [⟨"Source", query.source.render⟩] ++
  optionalRow "Where" query.filter ++
  optionalRow "Group By" (listBody renderFields query.groupBy) ++
  optionalRow "Having" query.having ++
  proofRow query.proof ++
  optionalRow "Order By" (listBody renderOrder query.orderBy) ++
  optionalRow "Limit" (query.limit.map fun n => n.toNat.repr) ++
  optionalRow "Offset" (query.offset.map fun n => n.toNat.repr)

/-- The rows of a mutation between its keyword and its proofs. -/
def Mutation.bodyRows : Mutation → List TableRow
  | insert payloads _ =>
    payloads.map fun payload => ⟨"Payload", payload.modality.name ++ ": " ++ payload.text⟩
  | update id assignments _ =>
    ⟨"Hexad", id⟩ ::
      assignments.map fun assignment => ⟨"Set", assignment.field ++ " = " ++ assignment.value⟩
  | delete id _ => [⟨"Hexad", id⟩]

def Mutation.rows (mutation : Mutation) : List TableRow :=
  ⟨"Statement", mutation.keyword⟩ :: mutation.bodyRows ++ proofRow mutation.proof

def Statement.rows : Statement → List TableRow
  | query q => q.rows
  | mutation m => m.rows

/-! ## 2. Drawing -/

namespace Table

/-- The lines of a cell. -/
def cellLines (text : String) : List String := (text.toList.splitOn '\n').map String.ofList

/-- The columns the widest line of the cells takes. -/
def widthOf (cells : List String) : Nat :=
  (cells.flatMap cellLines).foldl (fun width line => max width (Text.columns line)) 0

/-- A text filled up with spaces. -/
def padded (width : Nat) (text : String) : String :=
  text ++ String.ofList (List.replicate (width - Text.columns text) ' ')

/-- A horizontal line: its ends, its stroke and its middle. -/
def rule (ends stroke middle : Char) (left right : Nat) : String :=
  String.ofList
    (ends :: List.replicate (left + 2) stroke ++ middle :: List.replicate (right + 2) stroke ++
      [ends])

/-- The lines of one row. -/
def rowLines (left right : Nat) (row : TableRow) : List String :=
  let clause := cellLines row.clause
  let value := cellLines row.value
  (List.range (max clause.length value.length)).map fun i =>
    "| " ++ padded left (clause.getD i "") ++ " | " ++ padded right (value.getD i "") ++ " |"

/-- The whole table, without a line break at its end. -/
def draw (rows : List TableRow) : String :=
  let header : TableRow := ⟨"Clause", "Value"⟩
  let left := widthOf ((header :: rows).map (·.clause))
  let right := widthOf ((header :: rows).map (·.value))
  let edge := rule '+' '-' '+' left right
  let body := (rows.map (rowLines left right)).intersperse [rule '|' '-' '+' left right]
  "\n".intercalate
    ([edge] ++ rowLines left right header ++ [rule '+' '=' '=' left right] ++ body.flatten ++
      [edge])

end Table

/-- A statement as a table. -/
def Statement.table (statement : Statement) : String := Table.draw statement.rows

end HexadQuery
