/-
# The command line

What the arguments of a program call ask for.  Arguments are read from left to right on two
levels, the program's and then its command's; options of a level may stand anywhere in it.  An
option that takes a value takes it from the same argument (`--format=vql`, `-fvql`) or from the
next one, and the value is checked when the next argument has been looked at.

Options of the program may also be given on the command's level, where they win.
-/
import HexadQuery.Grammar.Action
import HexadQuery.Statement.Format

namespace HexadQuery.Cli

/-! ## 1. What is asked for -/

/-- The options that say how statements are read. -/
structure ReadingOptions where
  strict : Bool := false
  modalities : List String := []
  configPath : Option String := none
  deriving DecidableEq

inductive Command where
  | version
  | parse (statement : String) (action : Action) (format : OutputFormat) (validate : Bool)
      (options : ReadingOptions)
  | repl (options : ReadingOptions)
  | bridge (options : ReadingOptions)
  deriving DecidableEq

/-- A command and the threshold of the log; without one the log is silent. -/
structure Invocation where
  threshold : Option LogLevel
  command : Command
  deriving DecidableEq

/-- Why the arguments do not make an invocation.  Asking for help or the version is one of the
reasons. -/
inductive UsageError where
  | help
  | version
  | helpForMissingCommand
  | missingCommand
  | unknownCommand
  | missingStatement
  | unknownArgument
  | repeatedOption
  | invalidValue
  | refusedValue
  | unwantedValue
  deriving DecidableEq

/-! ## 2. Levels and options -/

/-- The program's level, or that of one of its commands. -/
inductive Level where
  | program
  | version
  | parse
  | repl
  | bridge
  deriving DecidableEq

/-- The level of a command word. -/
def Level.ofWord? : String → Option Level
  | "version" => some .version
  | "parse" => some .parse
  | "repl" => some .repl
  | "bridge" => some .bridge
  | _ => none

inductive Opt where
  | logLevel
  | verbose
  | help
  | version
  | action
  | format
  | validate
  | strict
  | modality
  | config
  deriving DecidableEq

namespace Opt

def all : List Opt :=
  [logLevel, verbose, help, version, action, format, validate, strict, modality, config]

def long : Opt → String
  | logLevel => "log-level"
  | verbose => "verbose"
  | help => "help"
  | version => "version"
  | action => "action"
  | format => "format"
  | validate => "validate"
  | strict => "strict"
  | modality => "modality"
  | config => "config"

def short? : Opt → Option Char
  | logLevel => some 'l'
  | verbose => some 'v'
  | help => some 'h'
  | version => some 'V'
  | action => some 'a'
  | format => some 'f'
  | modality => some 'm'
  | config => some 'c'
  | validate => none
  | strict => none

def takesValue : Opt → Bool
  | logLevel | action | format | modality | config => true
  | verbose | help | version | validate | strict => false

/-- Whether a level knows the option. -/
def isOn : Opt → Level → Bool
  | logLevel, _ => true
  | verbose, _ => true
  | help, _ => true
  | version, level => level == .program
  | action, level => level == .parse
  | format, level => level == .parse
  | validate, level => level == .parse
  | strict, level => level == .parse || level == .repl || level == .bridge
  | modality, level => level == .parse || level == .repl || level == .bridge
  | config, level => level == .parse || level == .repl || level == .bridge

def ofLong? (level : Level) (name : String) : Option Opt :=
  all.find? fun opt => opt.isOn level && opt.long == name

def ofShort? (level : Level) (letter : Char) : Option Opt :=
  all.find? fun opt => opt.isOn level && opt.short? == some letter

end Opt

/-! ## 3. Settings -/

/-- A threshold by its exact name. -/
def threshold? : String → Option (Option LogLevel)
  | "error" => some (some .error)
  | "warn" => some (some .warn)
  | "info" => some (some .info)
  | "debug" => some (some .debug)
  | "trace" => some (some .trace)
  | "off" => some none
  | _ => none

/-- What one level has been told so far.  `waiting` is an option that has been named, and its
value if that has come; it is not settled yet. -/
structure Settings where
  waiting : Option (Opt × Option String) := none
  threshold : Option (Option LogLevel) := none
  verbose : Bool := false
  action : Option Action := none
  format : Option OutputFormat := none
  validate : Bool := false
  reading : ReadingOptions := {}
  statement : Option String := none

namespace Settings

/-- Whether an option that may be given once has been given. -/
def has (settings : Settings) : Opt → Bool
  | .logLevel => settings.threshold.isSome
  | .verbose => settings.verbose
  | .help => false
  | .version => false
  | .action => settings.action.isSome
  | .format => settings.format.isSome
  | .validate => settings.validate
  | .strict => settings.reading.strict
  | .modality => false
  | .config => settings.reading.configPath.isSome

/-- Whether anything has been given. -/
def isUsed (settings : Settings) : Bool := Opt.all.any settings.has

/-- Settle an option with its value. -/
def withValue (settings : Settings) (opt : Opt) (value : String) : Except UsageError Settings :=
  if settings.has opt then .error .repeatedOption
  else
    let reading := settings.reading
    match opt with
    | .logLevel =>
      match threshold? value with
      | some threshold => .ok { settings with threshold := some threshold }
      | none => .error .invalidValue
    | .action =>
      match Action.ofName? value with
      | some action => .ok { settings with action := some action }
      | none => .error .refusedValue
    | .format =>
      match OutputFormat.ofName? value with
      | some format => .ok { settings with format := some format }
      | none => .error .refusedValue
    | .modality =>
      .ok { settings with
        reading := { reading with modalities := reading.modalities ++ [value] } }
    | .config =>
      if value = "" then .error .invalidValue
      else .ok { settings with reading := { reading with configPath := some value } }
    | _ => .error .unwantedValue

/-- Settle a flag. -/
def withFlag (settings : Settings) (opt : Opt) : Except UsageError Settings :=
  if settings.has opt then .error .repeatedOption
  else
    match opt with
    | .help => .error .help
    | .version => .error .version
    | .verbose => .ok { settings with verbose := true }
    | .validate => .ok { settings with validate := true }
    | .strict => .ok { settings with reading := { settings.reading with strict := true } }
    | _ => .error .invalidValue

/-- Settle the waiting option. -/
def settle (settings : Settings) : Except UsageError Settings :=
  match settings.waiting with
  | none => .ok settings
  | some (_, none) => .error .invalidValue
  | some (opt, some value) => { settings with waiting := none }.withValue opt value

/-- Name an option that takes its value from the next argument. -/
def await (settings : Settings) (opt : Opt) : Except UsageError Settings := do
  let settings ← settings.settle
  return { settings with waiting := some (opt, none) }

end Settings

/-! ## 4. Reading one argument -/

/-- An argument by its shape. -/
inductive Argument where
  | escape
  | long (name : String) (value : Option String)
  | short (letters : List Char)
  | word (text : String)

/-- The shape of an argument: `--` alone ends the options, and `-` alone is a word. -/
def Argument.ofText (text : String) : Argument :=
  match text.toList with
  | ['-', '-'] => .escape
  | '-' :: '-' :: cs =>
    match cs.span (· != '=') with
    | (name, '=' :: value) => .long (String.ofList name) (some (String.ofList value))
    | (name, _) => .long (String.ofList name) none
  | '-' :: c :: cs => .short (c :: cs)
  | _ => .word text

namespace Settings

/-- Read `--name` or `--name=value`. -/
def readLong (level : Level) (settings : Settings) (name : String) (value : Option String) :
    Except UsageError Settings :=
  match Opt.ofLong? level name with
  | none => .error .unknownArgument
  | some opt =>
    match opt.takesValue, value with
    | true, some value => do (← settings.settle).withValue opt value
    | true, none => settings.await opt
    | false, some _ => .error .unwantedValue
    | false, none => do (← settings.settle).withFlag opt

/-- Read a cluster of letters: flags, and at most one option with a value, which takes the rest
of the cluster if there is any, less an equals sign in front. -/
def readShort (level : Level) (settings : Settings) : List Char → Except UsageError Settings
  | [] => .ok settings
  | letter :: letters =>
    match Opt.ofShort? level letter with
    | none => .error .unknownArgument
    | some opt =>
      if opt.takesValue then
        match letters with
        | [] => settings.await opt
        | '=' :: value => do (← settings.settle).withValue opt (String.ofList value)
        | value => do (← settings.settle).withValue opt (String.ofList value)
      else do readShort level (← (← settings.settle).withFlag opt) letters

/-- Give a word to the option that waits for one. -/
def takeWord? (settings : Settings) (text : String) : Option Settings :=
  match settings.waiting with
  | some (opt, none) => some { settings with waiting := some (opt, some text) }
  | _ => none

/-- Take a word as the statement; only one is taken, and only on one level. -/
def withStatement (level : Level) (settings : Settings) (text : String) :
    Except UsageError Settings := do
  if level != .parse || settings.statement.isSome then .error .unknownArgument
  let settings ← settings.settle
  return { settings with statement := some text }

end Settings

/-! ## 5. Reading all of them -/

/-- Read the arguments of a command; `literal` tells that options have ended. -/
def readCommand (level : Level) (literal : Bool) (settings : Settings) :
    List String → Except UsageError Settings
  | [] => do
    let settings ← settings.settle
    if level == .parse && settings.statement.isNone then .error .missingStatement
    return settings
  | text :: texts =>
    if literal then do
      readCommand level true (← settings.withStatement level text) texts
    else
      match Argument.ofText text with
      | .escape => readCommand level true settings texts
      | .long name value => do readCommand level false (← settings.readLong level name value) texts
      | .short letters => do readCommand level false (← settings.readShort level letters) texts
      | .word text =>
        match settings.takeWord? text with
        | some settings => readCommand level false settings texts
        | none => do readCommand level false (← settings.withStatement level text) texts

/-- The command that a level and its settings make. -/
def commandOf (level : Level) (settings : Settings) : Command :=
  match level with
  | .parse =>
    .parse (settings.statement.getD "") (settings.action.getD .statement)
      (settings.format.getD .json) settings.validate settings.reading
  | .repl => .repl settings.reading
  | .bridge => .bridge settings.reading
  | .version | .program => .version

/-- The threshold that both levels make: the flag wins over the option, and for the option the
command's level wins over the program's. -/
def thresholdOf (outer inner : Settings) : Option LogLevel :=
  if outer.verbose || inner.verbose then some .debug
  else (inner.threshold.or outer.threshold).getD (some .warn)

/-- Answer the arguments after the word `help`, which name a command or nothing. -/
def helpTopic : List String → UsageError
  | [] => .help
  | [topic] => if topic = "help" || (Level.ofWord? topic).isSome then .help else .unknownCommand
  | _ => .unknownCommand

/-- Read the arguments from the program's level on. -/
def readProgram (literal : Bool) (settings : Settings) :
    List String → Except UsageError Invocation
  | [] => do
    let settings ← settings.settle
    .error (if settings.isUsed then .missingCommand else .helpForMissingCommand)
  | text :: texts =>
    if literal then
      .error
        (if text = "help" || (Level.ofWord? text).isSome then .unknownArgument
          else .unknownCommand)
    else
      match Argument.ofText text with
      | .escape => readProgram true settings texts
      | .long name value => do
        readProgram false (← settings.readLong .program name value) texts
      | .short letters => do readProgram false (← settings.readShort .program letters) texts
      | .word text =>
        match settings.takeWord? text with
        | some settings => readProgram false settings texts
        | none =>
          if text = "help" then .error (helpTopic texts)
          else
            match Level.ofWord? text with
            | none => .error .unknownCommand
            | some level => do
              let inner ← readCommand level false {} texts
              let outer ← settings.settle
              return ⟨thresholdOf outer inner, commandOf level inner⟩

/-- Read the arguments of a program call. -/
def readArguments (arguments : List String) : Except UsageError Invocation :=
  readProgram false {} arguments

end HexadQuery.Cli
