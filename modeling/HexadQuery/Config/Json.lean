/-
# Configurations as JSON

A configuration is written as an object with its mode and the names of its modalities, and read
from such an object, from an array of the two, or from part of either; what is left out keeps its
default.  A registry alone is an array of names.

The readers follow what a derived deserialiser does with these two records, because its refusals
are part of the program's answers.  Three of its habits show: members are read in the order they
come, so that the first problem of the text is reported and not the first of the record; a member
nobody knows is skipped, and a member that comes twice is refused; and the array form takes the
fields in their order of declaration and may end early.

A registry is built once its array has been read to the end.  A bad name in it is therefore
reported only if the array itself is well-formed.
-/
import HexadQuery.Config
import HexadQuery.Json.Basic
import HexadQuery.Json.Reader

namespace HexadQuery

open Json

/-! ## 1. Writing -/

def Registry.toJson (registry : Registry) : Json := .arr (registry.names.map .str)

def Config.toJson (config : Config) : Json :=
  .obj [("select_mode", .str config.mode.name), ("modalities", config.registry.toJson)]

/-! ## 2. Reading a mode and a registry -/

/-- The mode with this name. -/
def readVariant (name : String) : Except JsonFault SelectMode :=
  match SelectMode.ofName? name with
  | some mode => .ok mode
  | none => .error (.unknownVariant name ["lenient", "strict"])

/-- The name of a mode.  Anything else is malformed here, whatever its type: a variant name is
looked for where an identifier stands, before types are compared. -/
def readModeName : Reader SelectMode := fun cs =>
  match skipSpace cs with
  | '"' :: cs => do
    let (name, rest) ← orMalformed (stringBody cs)
    return (← readVariant (String.ofList name), rest)
  | _ => .error .malformed

/-- A mode: its name, or an object with the name as key and null as value. -/
def readMode : Reader SelectMode := fun cs =>
  match skipSpace cs with
  | '\x7b' :: cs => do
    let (mode, rest) ← readModeName cs
    let (_, rest) ← readNull "unit" (← readColon rest)
    return (mode, ← closeObject rest)
  | cs => readModeName cs

/-- A registry: an array of names, which are registered once all of it has been read. -/
def readRegistry : Reader Registry := fun cs => do
  let (names, rest) ← readStrings cs
  match Registry.ofNames names with
  | .ok registry => return (registry, rest)
  | .error refused => .error (.invalidName refused)

/-! ## 3. Reading a configuration -/

/-- The members of a configuration read so far. -/
structure ConfigFields where
  mode : Option SelectMode := none
  registry : Option Registry := none

namespace ConfigFields

/-- Read one member. -/
def member (fields : ConfigFields) (key : String) : Reader ConfigFields := fun cs =>
  if key = "select_mode" then do
    let (mode, rest) ← readField key fields.mode readMode cs
    return ({ fields with mode := some mode }, rest)
  else if key = "modalities" then do
    let (registry, rest) ← readField key fields.registry readRegistry cs
    return ({ fields with registry := some registry }, rest)
  else do
    let (_, rest) ← skipField cs
    return (fields, rest)

/-- The configuration, with defaults for what is missing. -/
def config (fields : ConfigFields) : Config :=
  { mode := fields.mode.getD Config.lenient.mode
    registry := fields.registry.getD Config.lenient.registry }

/-- The object form, after its brace. -/
def ofObject : Reader Config := fun cs => do
  let (fields, rest) ← readMembers member true {} cs
  return (fields.config, ← closeObject rest)

/-- The array form, after its bracket. -/
def ofArray : Reader Config := fun cs => do
  match ← nextItem true cs with
  | none => return (config {}, ← closeArray cs)
  | some cs =>
    let (mode, cs) ← readMode cs
    match ← nextItem false cs with
    | none => return (config { mode := some mode }, ← closeArray cs)
    | some cs =>
      let (registry, cs) ← readRegistry cs
      return (config { mode := some mode, registry := some registry }, ← closeArray cs)

end ConfigFields

/-- Read a registry from a JSON text. -/
def Registry.ofJson (text : String) : Except JsonFault Registry := readText readRegistry text

/-- Read a configuration from a JSON text. -/
def Config.ofJson (text : String) : Except JsonFault Config :=
  readText (readRecord "struct ParserConfig" ConfigFields.ofObject ConfigFields.ofArray) text

/-! ## 4. Loading -/

/-- Why a configuration cannot be built. -/
inductive ConfigError where
  | invalidName (refused : InvalidName)
  | unreadable (reason : String)
  | invalidJson (fault : JsonFault)

def ConfigError.message : ConfigError → String
  | invalidName refused => refused.message
  | unreadable reason => String.join ["Failed to read configuration: ", reason]
  | invalidJson fault => String.join ["Failed to parse configuration: ", fault.message]

/-- Load a configuration from a text, as `from_json_str` does. -/
def Config.load (text : String) : Except ConfigError Config :=
  match Config.ofJson text with
  | .ok config => .ok config
  | .error fault => .error (.invalidJson fault)

/-- Load a configuration from what reading a file gave, its text or the reason for failure:
`from_path` with the file system in front of it. -/
def Config.loadFile : Except String String → Except ConfigError Config
  | .ok text => Config.load text
  | .error reason => .error (.unreadable reason)

/-- Extend a configuration. -/
def Config.extend (config : Config) (names : List String) : Except ConfigError Config :=
  match config.withModalities names with
  | .ok config => .ok config
  | .error refused => .error (.invalidName refused)

end HexadQuery
