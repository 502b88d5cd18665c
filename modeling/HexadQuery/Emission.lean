/-
# What a program emits

Texts for its two output streams and log entries, in order.  Log entries go to the error stream as
lines, those that pass the threshold.

Whoever acts here returns emissions, and only the outermost layer writes them.  So what a command
prints can be compared and reasoned about as a list, and where two streams are interleaved the
order is that of the list.
-/
import HexadQuery.Log

namespace HexadQuery

inductive Emission where
  | out (text : String)
  | err (text : String)
  | log (entry : LogEntry)
  deriving DecidableEq

namespace Emission

/-- A line of output. -/
def outLine (text : String) : Emission := .out (text ++ "\n")

/-- A line of error output. -/
def errLine (text : String) : Emission := .err (text ++ "\n")

/-- What goes to the output stream. -/
def outText : List Emission → String
  | [] => ""
  | .out text :: later => text ++ outText later
  | _ :: later => outText later

/-- What goes to the error stream under a threshold. -/
def errText (threshold : Option LogLevel) : List Emission → String
  | [] => ""
  | .err text :: later => text ++ errText threshold later
  | .log entry :: later =>
    (if entry.passes threshold then entry.line ++ "\n" else "") ++ errText threshold later
  | .out _ :: later => errText threshold later

end Emission

end HexadQuery
