/-
# Running a command

What a program call emits and the code it ends with, given the files and the input it can read.
Nothing here reads or writes: `Main.lean` does.
-/
import HexadQuery.Bridge
import HexadQuery.Cli.Usage
import HexadQuery.Console

namespace HexadQuery.Cli

/-! ## 1. The world -/

/-- What a call can read: a file by its path, or the reason it cannot be read, and the bytes of
its input. -/
structure World where
  file : String → Except String String
  input : List UInt8

/-- What a call leaves behind. -/
structure Report where
  emissions : List Emission
  code : UInt32 := 0

/-- A failed call: the message goes to the error stream. -/
def Report.failure (emissions : List Emission) (message : String) : Report :=
  ⟨emissions ++ [.errLine ("Error: " ++ message)], 1⟩

/-! ## 2. Commands -/

/-- The configuration that options ask for: the file's or the default one, made strict and
extended as the options say. -/
def ReadingOptions.config (options : ReadingOptions) (file : String → Except String String) :
    Except ConfigError Config := do
  let config ←
    match options.configPath with
    | some path => Config.loadFile (file path)
    | none => pure {}
  let config := if options.strict then config.withMode .strict else config
  config.extend options.modalities

def programName : String := "vql 0.0.1"

/-- The program and what it knows by itself. -/
def versionText : List Emission :=
  [.outLine programName,
    .outLine (String.join ["Built-in modalities: ", commaList (Modality.builtins.map (·.name))]),
    .outLine ("Actions: " ++ commaList (Action.all.map Action.name))]

/-- Read one statement, check its modalities if asked to, and show it. -/
def runParse (config : Config) (statement : String) (action : Action) (format : OutputFormat)
    (validate : Bool) : Report :=
  let outcome := parse config action statement
  let log := outcome.events.map fun event => Emission.log event.entry
  match outcome.result with
  | .error error => .failure log error.message
  | .ok parsed =>
    let shown : Report := ⟨log ++ [.outLine (parsed.format format)], 0⟩
    if validate then
      match parsed.toStatement.validate config.registry with
      | .error unknown => .failure log unknown.message
      | .ok _ => shown
    else shown

/-- What a bridge logs before it ends. -/
def bridgeTotal (answered : Nat) : LogEntry :=
  ⟨.info, String.join ["Bridge answered ", answered.repr, " requests"]⟩

/-- Answer the input as a bridge. -/
def runBridge (config : Config) (input : List UInt8) : Report :=
  let service := Bridge.serveBytes config input
  let emissions := service.lines.map Emission.outLine ++ service.log.map Emission.log
  if service.complete then ⟨emissions ++ [.log (bridgeTotal service.answers.length)], 0⟩
  else .failure emissions Bridge.notText

/-- Read the input as a console session. -/
def runRepl (config : Config) (input : List UInt8) : Report :=
  ⟨Console.greeting config ++ Console.run config {} (Text.textLines input), 0⟩

/-- Run a command that reads statements once its configuration is there. -/
def withConfig (world : World) (options : ReadingOptions) (run : Config → Report) : Report :=
  match options.config world.file with
  | .ok config => run config
  | .error error => .failure [] error.message

/-- Run a command. -/
def Command.run (world : World) : Command → Report
  | version => ⟨versionText, 0⟩
  | parse statement action format validate options =>
    withConfig world options fun config => runParse config statement action format validate
  | repl options => withConfig world options fun config => runRepl config world.input
  | bridge options => withConfig world options fun config => runBridge config world.input

/-! ## 3. Whole calls -/

/-- How the program is called. -/
def usage : String :=
  "\n".intercalate [
    "Usage: vql [-l LEVEL] [-v] <version | parse | repl | bridge | help>",
    "  parse STATEMENT [-a ACTION] [-f FORMAT] [--validate] [reading options]",
    "  repl [reading options]",
    "  bridge [reading options]",
    "Reading options: [--strict] [-m NAME]... [-c FILE]"]

def UsageError.message : UsageError → String
  | help | helpForMissingCommand => usage
  | version => programName
  | missingCommand => "error: a command is required"
  | unknownCommand => "error: unknown command"
  | missingStatement => "error: a statement is required"
  | unknownArgument => "error: unexpected argument"
  | repeatedOption => "error: an option is given more than once"
  | invalidValue => "error: an option lacks its value or has none of the possible ones"
  | refusedValue => "error: an option has an invalid value"
  | unwantedValue => "error: a flag takes no value"

/-- Asking for help or the version is answered on the output stream; anything else that is wrong
with the arguments ends the call with code 2. -/
def UsageError.report (error : UsageError) : Report :=
  match error with
  | .help | .version => ⟨[.outLine error.message], 0⟩
  | _ => ⟨[.errLine error.message], 2⟩

/-- A program call: what it leaves behind, and the threshold of its log. -/
def call (world : World) (arguments : List String) : Report × Option LogLevel :=
  match readArguments arguments with
  | .ok invocation => (invocation.command.run world, invocation.threshold)
  | .error error => (error.report, some .warn)

end HexadQuery.Cli
