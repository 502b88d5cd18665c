/-
# What a reading notes on its way

A reading answers with a tree or an error.  Beside that it notes what it did with the parts it did
not keep, and what it accepted.  Events are noted whether or not the reading succeeds later; only
dropped SELECT items are warnings.

The source writes these to its log where they happen.  Here they are data and in order, so that
what a lenient reading drops can be stated; a message is made of an event only when it is logged.
-/
import HexadQuery.Log

namespace HexadQuery

/-- Something a reading did that its answer does not show. -/
inductive Event where
  | droppedItem (piece : String) (position : Nat)
  | selectListRead (modalities projections aggregates : Nat)
  | skippedGroupItem (piece : String)
  | skippedOrderItem (piece : String)
  | unclosedQuote
  | insertRead (payloads : Nat)
  | updateRead (id : String) (assignments : Nat)
  | statementAccepted (kind : String)
  | queryAccepted (modalities proofs : Nat)
  | mutationAccepted (keyword : String)
  | slipstreamAccepted
  | dependentAccepted (proofs : Nat)
  | rendered (text : String)
  deriving DecidableEq

namespace Event

def level : Event → LogLevel
  | droppedItem .. => .warn
  | selectListRead .. | skippedGroupItem _ | skippedOrderItem _ | unclosedQuote => .trace
  | insertRead _ | updateRead .. => .trace
  | statementAccepted _ | queryAccepted .. | mutationAccepted _ => .debug
  | slipstreamAccepted | dependentAccepted _ | rendered _ => .debug

def message : Event → String
  | droppedItem piece p =>
    String.join ["Dropping unrecognized SELECT item '", piece, "' at position ", p.repr]
  | selectListRead modalities projections aggregates =>
    String.join ["SELECT list: ", modalities.repr, " modalities, ", projections.repr,
      " projections, ", aggregates.repr, " aggregates"]
  | skippedGroupItem piece => String.join ["Skipping GROUP BY item '", piece, "'"]
  | skippedOrderItem piece => String.join ["Skipping ORDER BY item '", piece, "'"]
  | unclosedQuote => "Unclosed quote in SET span; splitting without quotes"
  | insertRead payloads => String.join ["INSERT with ", payloads.repr, " modality payloads"]
  | updateRead id assignments =>
    String.join ["UPDATE ", id, " with ", assignments.repr, " assignments"]
  | statementAccepted kind => String.join ["Successfully parsed ", kind, " statement into AST"]
  | queryAccepted modalities proofs =>
    String.join ["Successfully parsed query into AST: ", modalities.repr, " modalities, ",
      proofs.repr, " proofs"]
  | mutationAccepted keyword =>
    String.join ["Successfully parsed ", keyword, " mutation into AST"]
  | slipstreamAccepted => "Successfully parsed slipstream query into AST"
  | dependentAccepted proofs =>
    String.join ["Successfully parsed dependent-type query into AST with ", proofs.repr, " proofs"]
  | rendered text => String.join ["AST: ", text]

/-- The event as a log entry. -/
def entry (event : Event) : LogEntry := ⟨event.level, event.message⟩

end Event

end HexadQuery
