/-
# Why a JSON text is refused

A text is either malformed or well-formed with the wrong shape.  Reading goes from left to right
and stops at the first problem, whichever of the two it is.

What exactly is malformed is not told: every such fault is one constructor.  A fault of shape says
what was found and what was expected, since its message is part of the answer to a request.
-/
import HexadQuery.Registry
import HexadQuery.Text.Quoted

namespace HexadQuery

/-- What stands where a value of another type is wanted. -/
inductive JsonKind where
  | null
  | boolean (value : Bool)
  | integer (value : Int)
  | float
  | string (text : String)
  | sequence
  | map

/-- A kind as a message names it.  The digits of a float are not repeated. -/
def JsonKind.describe : JsonKind → String
  | null => "null"
  | boolean true => "boolean `true`"
  | boolean false => "boolean `false`"
  | integer value => "integer `" ++ value.repr ++ "`"
  | float => "floating point `_`"
  | string text => "string " ++ Text.quoted text
  | sequence => "sequence"
  | map => "map"

/-- The first problem of a text. -/
inductive JsonFault where
  | malformed
  | wrongType (found : JsonKind) (expected : String)
  | outOfRange (value : Int) (expected : String)
  | unknownVariant (name : String) (expected : List String)
  | missingField (name : String)
  | duplicateField (name : String)
  | tooShort (length : Nat) (expected : String)
  | invalidName (refused : InvalidName)

namespace JsonFault

/-- Whether the text is malformed rather than of the wrong shape. -/
def isMalformed : JsonFault → Bool
  | malformed => true
  | _ => false

/-- A name between backticks. -/
def ticked (name : String) : String := "`" ++ name ++ "`"

def message : JsonFault → String
  | malformed => "malformed JSON"
  | wrongType found expected =>
    String.join ["invalid type: ", found.describe, ", expected ", expected]
  | outOfRange value expected =>
    String.join ["invalid value: integer ", ticked value.repr, ", expected ", expected]
  | unknownVariant name expected =>
    String.join ["unknown variant ", ticked name, ", expected ",
      " or ".intercalate (expected.map ticked)]
  | missingField name => String.join ["missing field ", ticked name]
  | duplicateField name => String.join ["duplicate field ", ticked name]
  | tooShort length expected =>
    String.join ["invalid length ", length.repr, ", expected ", expected]
  | invalidName refused => refused.message

end JsonFault

end HexadQuery
