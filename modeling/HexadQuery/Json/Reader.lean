/-
# Reading typed values from JSON

Each reader takes the characters that are left and yields a value and what is left after it, or the
first fault.  A reader asks for one type; what it finds instead goes into the fault, after it has
itself been read as far as its kind demands, so that a malformed value is never reported as one of
the wrong type.

Members that nobody asked for are skipped at any depth and checked for form only.

Arrays and objects are read by hand-over: `nextItem` and `nextKey` say where the next part starts
and leave the closing mark, which the caller takes when it has asked for all it wants.  That is how
a record can be read from an array that ends early, and it fixes which of two faults comes first.

The two recursions over parts, `stringItems` and `readMembers`, stop if a part took nothing; none
does, and that no reader of a part gives characters back is all that is needed to see it.  Skipping
recurses into the value it skips and is bounded by the length of the text.
-/
import HexadQuery.Json.Fault
import HexadQuery.Json.Lexeme
import HexadQuery.Json.Numeral

namespace HexadQuery.Json

/-- Reads a value from the front of a text. -/
abbrev Reader (α : Type) := List Char → Except JsonFault (α × List Char)

/-- Turn a malformed lexeme into the fault. -/
def orMalformed {α : Type} : Option α → Except JsonFault α
  | some a => .ok a
  | none => .error .malformed

/-! ## 1. What is there instead -/

/-- The kind of a number; one that no double holds is malformed. -/
def Numeral.kind (numeral : Numeral) : Except JsonFault JsonKind :=
  let value := numeral.magnitude
  if numeral.isWhole && !numeral.negative && value < UInt64.size then .ok (.integer value)
  else if numeral.isWhole && numeral.negative && 0 < value && value ≤ Nat.pow 2 63 then
    .ok (.integer (-value))
  else if numeral.overflows then .error .malformed
  else .ok .float

/-- The kind of the value at the front of a text. -/
def kindOf : List Char → Except JsonFault JsonKind
  | '"' :: cs => (orMalformed (stringBody cs)).map fun (text, _) => .string (String.ofList text)
  | '[' :: _ => .ok .sequence
  | '\x7b' :: _ => .ok .map
  | 'n' :: cs => (orMalformed (expect ['u', 'l', 'l'] cs)).map fun _ => .null
  | 't' :: cs => (orMalformed (expect ['r', 'u', 'e'] cs)).map fun _ => .boolean true
  | 'f' :: cs => (orMalformed (expect ['a', 'l', 's', 'e'] cs)).map fun _ => .boolean false
  | cs => do
    let (numeral, _) ← orMalformed (numeral? cs)
    numeral.kind

/-- Refuse the value at the front of a text. -/
def refuse {α : Type} (expected : String) (cs : List Char) : Except JsonFault α := do
  .error (.wrongType (← kindOf cs) expected)

/-! ## 2. Scalars -/

/-- A string, named `expected` where it is missing. -/
def readString (expected : String) : Reader String := fun cs =>
  match skipSpace cs with
  | '"' :: cs => (orMalformed (stringBody cs)).map fun (text, rest) => (String.ofList text, rest)
  | cs => refuse expected cs

/-- A natural number below 2^64. -/
def readUnsigned : Reader UInt64 := fun cs =>
  match numeral? (skipSpace cs) with
  | some (numeral, rest) => do
    match ← numeral.kind with
    | .integer value =>
      if 0 ≤ value then .ok (UInt64.ofNat value.toNat, rest)
      else .error (.outOfRange value "u64")
    | kind => .error (.wrongType kind "u64")
  | none => refuse "u64" (skipSpace cs)

/-- The word `null`. -/
def readNull (expected : String) : Reader Unit := fun cs =>
  match skipSpace cs with
  | 'n' :: cs => (orMalformed (expect ['u', 'l', 'l'] cs)).map fun rest => ((), rest)
  | cs => refuse expected cs

/-- A colon. -/
def readColon (cs : List Char) : Except JsonFault (List Char) :=
  match skipSpace cs with
  | ':' :: rest => .ok rest
  | _ => .error .malformed

/-! ## 3. Skipping -/

mutual

/-- Find the end of any value.  `fuel` bounds the number of values and members met, of which
there are fewer than characters. -/
def skipWithin : (fuel : Nat) → List Char → Option (List Char)
  | 0, _ => none
  | fuel + 1, cs =>
    match skipSpace cs with
    | '"' :: cs => skipString cs
    | 'n' :: cs => expect ['u', 'l', 'l'] cs
    | 't' :: cs => expect ['r', 'u', 'e'] cs
    | 'f' :: cs => expect ['a', 'l', 's', 'e'] cs
    | '[' :: cs =>
      match skipSpace cs with
      | ']' :: rest => some rest
      | cs => skipItems fuel cs
    | '\x7b' :: cs =>
      match skipSpace cs with
      | '\x7d' :: rest => some rest
      | cs => skipMembers fuel cs
    | cs => (numeral? cs).map (·.2)

/-- Find the end of an array whose next element starts here. -/
def skipItems : (fuel : Nat) → List Char → Option (List Char)
  | 0, _ => none
  | fuel + 1, cs =>
    match (skipWithin fuel cs).map skipSpace with
    | some (']' :: rest) => some rest
    | some (',' :: rest) => skipItems fuel rest
    | _ => none

/-- Find the end of an object whose next key starts here. -/
def skipMembers : (fuel : Nat) → List Char → Option (List Char)
  | 0, _ => none
  | fuel + 1, cs =>
    match skipSpace cs with
    | '"' :: cs =>
      match (skipString cs).map skipSpace with
      | some (':' :: cs) =>
        match (skipWithin fuel cs).map skipSpace with
        | some ('\x7d' :: rest) => some rest
        | some (',' :: rest) => skipMembers fuel rest
        | _ => none
      | _ => none
    | _ => none

end

/-- Skip a value. -/
def skipValue : Reader Unit := fun cs =>
  (orMalformed (skipWithin (2 * cs.length + 1) cs)).map fun rest => ((), rest)

/-! ## 4. Arrays -/

/-- Find the next element of an array, or its closing bracket, which stays.  `first` tells that
no element has been read. -/
def nextItem (first : Bool) (cs : List Char) : Except JsonFault (Option (List Char)) :=
  match skipSpace cs with
  | [] => .error .malformed
  | ']' :: _ => .ok none
  | c :: rest =>
    if first then .ok (some (c :: rest))
    else if c == ',' then
      match skipSpace rest with
      | [] => .error .malformed
      | ']' :: _ => .error .malformed
      | cs => .ok (some cs)
    else .error .malformed

/-- Take the closing bracket of an array. -/
def closeArray (cs : List Char) : Except JsonFault (List Char) :=
  match skipSpace cs with
  | ']' :: rest => .ok rest
  | _ => .error .malformed

/-- The strings of an array up to its closing bracket, which stays. -/
def stringItems (first : Bool) (cs : List Char) : Except JsonFault (List String × List Char) := do
  match ← nextItem first cs with
  | none => return ([], cs)
  | some item =>
    let (text, rest) ← readString "a string" item
    if rest.length < cs.length then
      let (texts, rest) ← stringItems false rest
      return (text :: texts, rest)
    else .error .malformed
termination_by cs.length

/-- An array of strings. -/
def readStrings : Reader (List String) := fun cs =>
  match skipSpace cs with
  | '[' :: cs => do
    let (texts, rest) ← stringItems true cs
    return (texts, ← closeArray rest)
  | cs => refuse "a sequence" cs

/-! ## 5. Objects and whole texts -/

/-- Find the next key of an object and what is left after it, or nothing at its closing brace,
which stays. -/
def nextKey (first : Bool) (cs : List Char) : Except JsonFault (Option (String × List Char)) :=
  let keyAt (cs : List Char) : Except JsonFault (Option (String × List Char)) :=
    match cs with
    | '"' :: cs =>
      (orMalformed (stringBody cs)).map fun (key, rest) => some (String.ofList key, rest)
    | _ => .error .malformed
  match skipSpace cs with
  | '\x7d' :: _ => .ok none
  | ',' :: rest => if first then .error .malformed else keyAt (skipSpace rest)
  | cs => if first then keyAt cs else .error .malformed

/-- Read members one by one into `state`.  `member` gets the key and what is left after it, from
the colon on. -/
def readMembers {σ : Type} (member : σ → String → Reader σ) (first : Bool) (state : σ)
    (cs : List Char) : Except JsonFault (σ × List Char) := do
  match ← nextKey first cs with
  | none => return (state, cs)
  | some (key, rest) =>
    let (state, rest) ← member state key rest
    if rest.length < cs.length then readMembers member false state rest else .error .malformed
termination_by cs.length

/-- Take the closing brace of an object. -/
def closeObject (cs : List Char) : Except JsonFault (List Char) :=
  match skipSpace cs with
  | '\x7d' :: rest => .ok rest
  | _ => .error .malformed

/-- Read the value of a member that must not have been given before. -/
def readField {α : Type} (name : String) (given : Option α) (read : Reader α) : Reader α :=
  fun cs => do
    if given.isSome then .error (.duplicateField name)
    read (← readColon cs)

/-- Skip the value of an unknown member. -/
def skipField : Reader Unit := fun cs => do skipValue (← readColon cs)

/-- A record: an object with its members in any order, or an array with them in this order. -/
def readRecord {α : Type} (expected : String) (object array : Reader α) : Reader α := fun cs =>
  match skipSpace cs with
  | '\x7b' :: cs => object cs
  | '[' :: cs => array cs
  | cs => refuse expected cs

/-- Read a whole text. -/
def readText {α : Type} (read : Reader α) (text : String) : Except JsonFault α := do
  let (a, rest) ← read text.toList
  if (skipSpace rest).isEmpty then return a else .error .malformed

end HexadQuery.Json
