/-
# Modalities

A modality is one kind of representation of a hexad: its graph, its vector, its document.  The set
is open, so a modality is a name.  Names are kept in one canonical casing, a capital and then small
letters, and `Modality.ofName` brings any casing into it; two modalities are the same exactly if
their canonical names are.

`ofName` accepts every text and maps letters beyond ASCII as well: `ß` becomes `SS`.  `parse?`
accepts identifiers only, and those are what registries and the grammar let through, so the full
case mapping never shows in a statement that was read.  It is here because a modality can be named
past the grammar too.

The six built-in modalities are names like all others.  Nothing but the default registry treats
them specially.
-/
import HexadQuery.Text.Case
import HexadQuery.Text.Letters

namespace HexadQuery

/-- Whether a text is a letter followed by letters, digits and underscores, all of them ASCII. -/
def isIdentifier (name : String) : Bool :=
  match name.toList with
  | [] => false
  | c :: cs => c.isAlpha && cs.all fun d => d.isAlphanum || d == '_'

/-- A kind of representation, by its canonical name. -/
structure Modality where
  name : String
  deriving DecidableEq

namespace Modality

/-- The canonical casing of a name: its first character as a capital, the others small. -/
def canonical : List Char → List Char
  | [] => []
  | c :: cs => Text.upperOf c ++ cs.flatMap Text.lowerOf

/-- The modality with this name in any casing. -/
def ofName (name : String) : Modality := ⟨String.ofList (canonical name.toList)⟩

/-- The modality with this name, if the name is an identifier. -/
def parse? (name : String) : Option Modality :=
  if isIdentifier name then some (ofName name) else none

/-- The name as a statement writes it. -/
def keyword (modality : Modality) : String := Text.upper modality.name

def graph : Modality := ofName "Graph"
def vector : Modality := ofName "Vector"
def tensor : Modality := ofName "Tensor"
def semantic : Modality := ofName "Semantic"
def document : Modality := ofName "Document"
def temporal : Modality := ofName "Temporal"

/-- The modalities that need no registration. -/
def builtins : List Modality := [graph, vector, tensor, semantic, document, temporal]

end Modality

end HexadQuery
