/-
# Configurations

The two settings a reading depends on: how a SELECT list treats an item it does not recognise, and
which modalities it recognises by bare name.

The settings are of `ParserConfig`, and `SelectMode` is the first of them.  The default is lenient
with the built-in modalities.  A configuration is only ever extended: `with_modality` adds a name,
and `with_select_mode` replaces the mode.
-/
import HexadQuery.Registry

namespace HexadQuery

/-- What becomes of an unrecognised SELECT item: a lenient reading drops it and says so, a
strict one fails on it. -/
inductive SelectMode where
  | lenient
  | strict
  deriving DecidableEq

namespace SelectMode

def name : SelectMode → String
  | lenient => "lenient"
  | strict => "strict"

/-- The mode with this exact name. -/
def ofName? (name : String) : Option SelectMode :=
  [lenient, strict].find? fun mode => mode.name == name

end SelectMode

/-- The settings shared by every reading. -/
structure Config where
  mode : SelectMode := .lenient
  registry : Registry := .builtin
  deriving DecidableEq

namespace Config

/-- Built-in modalities, unrecognised items dropped. -/
def lenient : Config := {}

/-- Built-in modalities, unrecognised items refused. -/
def strict : Config := { mode := .strict }

/-- The configuration with one more modality. -/
def withModality (config : Config) (name : String) : Except InvalidName Config :=
  (config.registry.withModality name).map fun registry => { config with registry }

/-- The configuration with more modalities, added in order. -/
def withModalities (config : Config) (names : List String) : Except InvalidName Config :=
  names.foldlM withModality config

def withMode (config : Config) (mode : SelectMode) : Config := { config with mode }

def isStrict (config : Config) : Bool := config.mode == .strict

end Config

end HexadQuery
