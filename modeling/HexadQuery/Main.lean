/-
# The program

Reads the arguments, the configuration file they name and the input, and writes what the call
emits.  A bridge and a console answer each line before they read the next.
-/
import HexadQuery.Cli.Run

namespace HexadQuery.Main

/-- The reason a file cannot be read. -/
def reasonOf : IO.Error → String
  | .noFileOrDirectory .. => "No such file or directory (os error 2)"
  | error => error.toString

/-- Read a file. -/
def readFile (path : String) : IO (Except String String) := do
  try return .ok (← IO.FS.readFile path)
  catch error => return .error (reasonOf error)

/-- The configuration file a command names. -/
def configPath? : Cli.Command → Option String
  | .version => none
  | .parse _ _ _ _ options => options.configPath
  | .repl options => options.configPath
  | .bridge options => options.configPath

/-- Write what was emitted, in order. -/
def write (threshold : Option LogLevel) (emissions : List Emission) : IO Unit := do
  let stdout ← IO.getStdout
  let stderr ← IO.getStderr
  for emission in emissions do
    stdout.putStr (Emission.outText [emission])
    stderr.putStr (Emission.errText threshold [emission])
  stdout.flush

/-- Read bytes up to a newline or the end of the input. -/
partial def readBytes (stream : IO.FS.Stream) (bytes : Array UInt8) : IO (Array UInt8) := do
  let next ← stream.read 1
  if next.isEmpty then return bytes
  let bytes := bytes ++ next.data
  if bytes.back? == some 0x0A then return bytes
  readBytes stream bytes

/-- Read one line, as `Text.textLines` cuts it; the end of the input has none. -/
def readLine : IO (Option (Option String)) := do
  let bytes ← readBytes (← IO.getStdin) #[]
  return (Text.textLines bytes.toList).head?

/-- Answer requests line by line. -/
partial def serve (config : Config) (threshold : Option LogLevel) (answered : Nat) : IO UInt32 := do
  match ← readLine with
  | none =>
    write threshold [.log (Bridge.closing answered), .log (Cli.bridgeTotal answered)]
    return 0
  | some none =>
    write threshold (Cli.Report.failure [] Bridge.notText).emissions
    return 1
  | some (some line) =>
    match Bridge.answerLine config line with
    | none => serve config threshold answered
    | some answer =>
      write threshold (answer.log.map .log ++ [.outLine answer.response.line])
      serve config threshold (answered + 1)

/-- Hold a console session. -/
partial def converse (config : Config) (threshold : Option LogLevel) (session : Console.Session) :
    IO UInt32 := do
  match ← readLine with
  | none => write threshold Console.farewell; return 0
  | some none => write threshold Console.notText; return 0
  | some (some line) =>
    let step := Console.step config session (Text.applyBackspaces line)
    write threshold step.emissions
    if step.ended then return 0
    converse config threshold step.session

end HexadQuery.Main

open HexadQuery HexadQuery.Main

/-- Run the program. -/
def main (arguments : List String) : IO UInt32 := do
  match Cli.readArguments arguments with
  | .error error =>
    write (some .warn) error.report.emissions
    return error.report.code
  | .ok ⟨threshold, command⟩ =>
    let content ←
      match configPath? command with
      | some path => readFile path
      | none => pure (.error "")
    let world : Cli.World := ⟨fun _ => content, []⟩
    let failed (error : ConfigError) : IO UInt32 := do
      write threshold (Cli.Report.failure [] error.message).emissions
      return 1
    match command with
    | .repl options =>
      match options.config world.file with
      | .error error => failed error
      | .ok config =>
        write threshold (Console.greeting config)
        converse config threshold {}
    | .bridge options =>
      match options.config world.file with
      | .error error => failed error
      | .ok config => serve config threshold 0
    | command =>
      let report := command.run world
      write threshold report.emissions
      return report.code
