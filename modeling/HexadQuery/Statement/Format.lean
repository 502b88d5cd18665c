/-
# Output formats

The three ways a tree is shown: as indented JSON, as a table, or as the canonical statement.
-/
import HexadQuery.Statement.Table
import HexadQuery.Statement.Wire
import HexadQuery.Text.Case

namespace HexadQuery

inductive OutputFormat where
  | json
  | table
  | vql
  deriving DecidableEq

namespace OutputFormat

def name : OutputFormat → String
  | json => "json"
  | table => "table"
  | vql => "vql"

/-- The format with this name in any casing. -/
def ofName? (name : String) : Option OutputFormat :=
  [json, table, vql].find? fun format => format.name == Text.lowered name

/-- What an unknown format name is answered with. -/
def unknownMessage (name : String) : String := String.join ["Unknown output format: ", name]

end OutputFormat

/-- A tree in an output format, without a line break at its end. -/
def Parsed.format (parsed : Parsed) : OutputFormat → String
  | .json => parsed.toJson.pretty 0
  | .table => parsed.toStatement.table
  | .vql => parsed.toStatement.render

end HexadQuery
