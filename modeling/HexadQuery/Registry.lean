/-
# Registries

The modalities a deployment knows, in the order they were registered and without repetition.  A
bare name in a SELECT list is recognised through a registry (`resolve`), and validation checks
every other reference against one (`contains`).

Registering keeps the order, refuses a name that is not an identifier and ignores a name that is
already there in any casing: `register` answers whether the registry changed.  A list of names is
registered one by one (`ofNames`, the reading of a list from JSON), so the first name that is
refused is the one reported.

The list is a field here, so a registry with repetitions or with names that are not canonical can
be written down, although no sequence of calls builds one.  Where that matters a statement asks for
a registry that calls can reach; whether the order of the names shows is a question for the proofs,
and the answer is that it does not.
-/
import HexadQuery.Modality

namespace HexadQuery

/-- A name that cannot be registered because it is not an identifier. -/
structure InvalidName where
  name : String
  deriving DecidableEq

/-- What a refused name is answered with. -/
def InvalidName.message (refused : InvalidName) : String :=
  String.join ["Invalid modality name '", refused.name, "': expected [A-Za-z][A-Za-z0-9_]*"]

/-- The known modalities. -/
structure Registry where
  modalities : List Modality
  deriving DecidableEq

namespace Registry

/-- The registry of the built-in modalities. -/
def builtin : Registry := ⟨Modality.builtins⟩

/-- The registry that knows nothing. -/
def empty : Registry := ⟨[]⟩

/-- Whether a modality is registered. -/
def contains (registry : Registry) (modality : Modality) : Bool :=
  registry.modalities.contains modality

/-- The registered modality that a name spells in some casing. -/
def resolve? (registry : Registry) (name : String) : Option Modality :=
  registry.modalities.find? fun modality => Text.sameLetters modality.name name

/-- Add a name at the end; the flag tells whether the registry changed. -/
def register (registry : Registry) (name : String) : Except InvalidName (Bool × Registry) :=
  match Modality.parse? name with
  | none => .error ⟨name⟩
  | some modality =>
    if registry.contains modality then .ok (false, registry)
    else .ok (true, ⟨registry.modalities ++ [modality]⟩)

/-- The registry with one more name. -/
def withModality (registry : Registry) (name : String) : Except InvalidName Registry :=
  (registry.register name).map (·.2)

/-- The registry with more names, added in order; the first refused name ends it. -/
def withModalities (registry : Registry) (names : List String) : Except InvalidName Registry :=
  names.foldlM withModality registry

/-- The registry of a list of names. -/
def ofNames (names : List String) : Except InvalidName Registry := empty.withModalities names

/-- The canonical names, in order. -/
def names (registry : Registry) : List String := registry.modalities.map (·.name)

end Registry

end HexadQuery
