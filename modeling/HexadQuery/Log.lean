/-
# Log entries

What the program tells about its work, apart from its answers.  An entry has a level, and a
threshold lets through the entries at least as grave as itself.

Entries carry no time and no origin.  What is logged where is part of the model, because the
warnings of a lenient reading are the only trace a dropped SELECT item leaves.
-/
namespace HexadQuery

/-- How grave an entry is, gravest first. -/
inductive LogLevel where
  | error
  | warn
  | info
  | debug
  | trace
  deriving DecidableEq

namespace LogLevel

def label : LogLevel → String
  | error => "ERROR"
  | warn => "WARN"
  | info => "INFO"
  | debug => "DEBUG"
  | trace => "TRACE"

/-- The distance from the gravest level. -/
def rank : LogLevel → Nat
  | error => 0
  | warn => 1
  | info => 2
  | debug => 3
  | trace => 4

end LogLevel

structure LogEntry where
  level : LogLevel
  message : String
  deriving DecidableEq

namespace LogEntry

/-- Whether the entry passes a threshold; no threshold lets nothing through. -/
def passes (threshold : Option LogLevel) (entry : LogEntry) : Bool :=
  match threshold with
  | some level => entry.level.rank ≤ level.rank
  | none => false

/-- The entry as a line of a log. -/
def line (entry : LogEntry) : String := entry.level.label ++ " " ++ entry.message

end LogEntry

end HexadQuery
