/-
# The console

A session reads lines.  While no statement is open, a line may be a command: leaving, help,
clearing the screen, choosing the entry grammar or the output format.  Any other line opens or
continues a statement, and a line that ends in a semicolon completes it; so a command word inside
an open statement is just part of the statement.

A session is a state and a step.  `handle_repl` is one loop that prompts, edits, reads, evaluates
and prints; here `step` is what the loop does with a line and `run` is the loop over all the lines
there are, with what they print as a list of emissions.  Reading and writing lines is not done
here, and neither are prompts or the history, which leave no trace in what a session prints without
a terminal.

The buffer holds the lines of the open statement, each with a newline behind it, and no statement
is open exactly if it is empty.  That is how the source tells the two apart too, so a blank line
inside a statement counts as text and a blank line outside one does not.
-/
import HexadQuery.Emission
import HexadQuery.Grammar.Action
import HexadQuery.Statement.Format
import HexadQuery.Statement.Validation
import HexadQuery.Text.Erasure

namespace HexadQuery.Console

/-! ## 1. Sessions -/

/-- The open statement's text so far, and the current choices. -/
structure Session where
  buffer : String := ""
  action : Action := .statement
  format : OutputFormat := .table
  deriving DecidableEq

/-- What a line leads to. -/
structure Step where
  session : Session
  emissions : List Emission
  ended : Bool := false

/-- What a session says when it starts. -/
def greeting (config : Config) : List Emission :=
  [.outLine "VQL", .outLine "Type 'help' for commands, 'exit' or 'quit' to exit",
    .outLine "Multi-line statements supported - use ';' to terminate"] ++
    if config.isStrict then [.outLine "Strict SELECT mode"] else []

/-- What a session says when it ends. -/
def farewell : List Emission := [.outLine "Goodbye!"]

/-- The help text. -/
def help : List Emission :=
  ["Available commands:",
    "  help  - Show this help message",
    "  exit/quit  - Exit the VQL console",
    "  clear  - Clear the screen",
    String.join ["  action <name>  - Switch entry grammar (parse, parseSlipstream, ",
      "parseDependentType, parseMutation, parseStatement)"],
    "  format <name>  - Switch output format (table, json, vql)",
    "",
    "Statement syntax:",
    "  Multi-line statements are supported",
    "  Terminate statements with semicolon (;)",
    "",
    "VQL examples:",
    "  SELECT GRAPH, VECTOR.embedding FROM HEXAD entity-42;",
    "  SELECT COUNT(*) FROM STORE papers GROUP BY DOCUMENT.category;",
    "  INSERT HEXAD WITH DOCUMENT(title=Foo) PROOF TYPE_SCHEMA (schemaV1);",
    "  DELETE HEXAD entity-7;"].map .outLine

/-- The control sequences that clear a terminal. -/
def clearScreen : Emission := .out "\x1b[2J\x1b[1;1H"

/-! ## 2. Commands -/

/-- What a line means while no statement is open. -/
inductive Command where
  | leave
  | help
  | clear
  | chooseAction (name : String)
  | chooseFormat (name : String)
  | nothing
  | statement
  deriving DecidableEq

/-- The command a line spells, in any casing.  A choice takes one word and ignores the rest; the
other commands stand alone, so `exit now` opens a statement.  The line is brought into small
letters first, which may change its words beyond ASCII. -/
def Command.ofLine (line : String) : Command :=
  match Text.words (Text.lowered (Text.trim line)) with
  | [] => .nothing
  | ["exit"] => .leave
  | ["quit"] => .leave
  | ["help"] => .help
  | ["clear"] => .clear
  | "action" :: name :: _ => .chooseAction name
  | "format" :: name :: _ => .chooseFormat name
  | _ => .statement

/-! ## 3. Statements -/

/-- Whether a line completes the open statement.  Only its last character counts that is not
blank: a semicolon inside a quoted text at the end of a line completes the statement as well. -/
def completes (line : String) : Bool := (Text.trim line).toList.getLast? == some ';'

/-- The statement in a buffer: without the semicolons at its end, and trimmed. -/
def statementOf (buffer : String) : String :=
  String.ofList
    (Text.trimChars (Text.cutTrailing ';' (Text.trimChars buffer.toList)))

/-- Read and show a statement. -/
def evaluate (config : Config) (action : Action) (format : OutputFormat) (statement : String) :
    List Emission :=
  let outcome := parse config action statement
  outcome.events.map (fun event => .log event.entry) ++
    match outcome.result with
    | .error error => [.errLine ("Parse error: " ++ error.message)]
    | .ok parsed =>
      (match parsed.toStatement.validate config.registry with
        | .error unknown => [.outLine ("Warning: " ++ unknown.message)]
        | .ok _ => []) ++
      [.outLine (parsed.format format)]

/-- Add a line to the open statement, and evaluate it if the line completes it. -/
def extend (config : Config) (session : Session) (line : String) : Step :=
  let buffer := session.buffer ++ line ++ "\n"
  if completes line then
    ⟨{ session with buffer := "" },
      evaluate config session.action session.format (statementOf buffer), false⟩
  else ⟨{ session with buffer }, [], false⟩

/-- Carry out a line that stands alone. -/
def command (config : Config) (session : Session) (line : String) : Step :=
  match Command.ofLine line with
  | .leave => ⟨session, farewell, true⟩
  | .help => ⟨session, help, false⟩
  | .clear => ⟨session, [clearScreen], false⟩
  | .chooseAction name =>
    match Action.ofName? name with
    | some action => ⟨{ session with action }, [.outLine ("Action set to " ++ action.name)], false⟩
    | none => ⟨session, [.errLine (Action.unknownMessage name)], false⟩
  | .chooseFormat name =>
    match OutputFormat.ofName? name with
    | some format =>
      ⟨{ session with format }, [.outLine (String.join ["Output format set to ", name])], false⟩
    | none => ⟨session, [.errLine (OutputFormat.unknownMessage name)], false⟩
  | .nothing => ⟨session, [], false⟩
  | .statement => extend config session line

/-- Read one line.  The buffer decides alone whether the line can be a command. -/
def step (config : Config) (session : Session) (line : String) : Step :=
  if session.buffer = "" then command config session line else extend config session line

/-! ## 4. Whole sessions -/

/-- What a line that is not a text is answered with; it ends the session. -/
def notText : List Emission :=
  [.errLine (String.join ["Error: Io(Error \x7b kind: InvalidData, ",
    "message: \"stream did not contain valid UTF-8\" \x7d)"])]

/-- What a session emits for lines as typed. -/
def run (config : Config) (session : Session) : List (Option String) → List Emission
  | [] => farewell
  | none :: _ => notText
  | some line :: lines =>
    let next := step config session (Text.applyBackspaces line)
    next.emissions ++ if next.ended then [] else run config next.session lines

end HexadQuery.Console
