/-
# Numerals of JSON

A numeral is a sign, digits, and perhaps a fraction and an exponent.  `numeral?` reads the longest
one at the front of a text.

A numeral too large for a double is refused where its value is looked at.  The value is formed the
quick way: as many leading digits as make a number below 2^64, that number as a double, times a
power of ten as a double.  Each of the three steps rounds, so near the largest double the verdict
differs from that on the exact value, in either direction.

The program asks for one kind of number, a natural below 2^64.  Everything else a numeral can be is
needed to say what was found in its place, or that it is malformed: `1e999` where a text is
expected is a malformed document and no float.
-/
namespace HexadQuery.Json

/-! ## 1. Reading -/

/-- A number as it is written. -/
structure Numeral where
  negative : Bool
  whole : List Char
  fraction : Option (List Char)
  exponent : Option (Bool × List Char)

/-- One or more digits. -/
def digits1 (cs : List Char) : Option (List Char × List Char) :=
  match cs.span Char.isDigit with
  | ([], _) => none
  | (digits, rest) => some (digits, rest)

/-- The digits before the point: a single zero, or digits that do not start with one. -/
def wholeDigits (cs : List Char) : Option (List Char × List Char) :=
  match digits1 cs with
  | some ('0' :: _ :: _, _) => none
  | read => read

/-- The digits after a point, if there is one. -/
def fractionDigits : List Char → Option (Option (List Char) × List Char)
  | '.' :: cs => (digits1 cs).map fun (digits, rest) => (some digits, rest)
  | cs => some (none, cs)

/-- The sign and digits of an exponent, if there is one; `true` is the minus. -/
def exponentDigits : List Char → Option (Option (Bool × List Char) × List Char)
  | [] => some (none, [])
  | mark :: cs =>
    if mark == 'e' || mark == 'E' then
      let (minus, cs) :=
        match cs with
        | '-' :: cs => (true, cs)
        | '+' :: cs => (false, cs)
        | cs => (false, cs)
      (digits1 cs).map fun (digits, rest) => (some (minus, digits), rest)
    else some (none, mark :: cs)

/-- A sign, if there is one; `true` is the minus. -/
def leadingMinus : List Char → Bool × List Char
  | '-' :: cs => (true, cs)
  | cs => (false, cs)

/-- Read a number. -/
def numeral? (cs : List Char) : Option (Numeral × List Char) := do
  let (negative, cs) := leadingMinus cs
  let (whole, cs) ← wholeDigits cs
  let (fraction, cs) ← fractionDigits cs
  let (exponent, cs) ← exponentDigits cs
  return (⟨negative, whole, fraction, exponent⟩, cs)

/-! ## 2. Values -/

namespace Numeral

/-- Whether the number is written without point and exponent. -/
def isWhole (numeral : Numeral) : Bool := numeral.fraction.isNone && numeral.exponent.isNone

/-- The digits before the point as a number. -/
def magnitude (numeral : Numeral) : Nat := Nat.ofDigitChars 10 numeral.whole 0

/-- The exponent as a number. -/
def power (numeral : Numeral) : Int :=
  match numeral.exponent with
  | none => 0
  | some (minus, digits) =>
    let value : Int := Nat.ofDigitChars 10 digits 0
    if minus then -value else value

end Numeral

/-! ## 3. Doubles -/

/-- The nearest multiple of `unit`, the even one of two. -/
def nearestMultiple (unit n : Nat) : Nat :=
  let below := n / unit
  let rest := n % unit
  let up := unit < 2 * rest || (unit == 2 * rest && below % 2 == 1)
  (if up then below + 1 else below) * unit

/-- Round to so many significant binary digits. -/
def roundToBits (bits n : Nat) : Nat :=
  if n < Nat.pow 2 bits then n else nearestMultiple (Nat.pow 2 (n.log2 + 1 - bits)) n

/-- The nearest double to a number in the range of doubles. -/
def nearestDouble (n : Nat) : Nat := roundToBits 53 n

/-- The least magnitude that rounds past the largest double. -/
def doubleLimit : Nat := Nat.pow 2 1024 - Nat.pow 2 970

/-- Append digits to a number as long as it stays below 2^64; the others are left. -/
def appendDigits (value : Nat) : List Char → Nat × List Char
  | [] => (value, [])
  | c :: cs =>
    let next := value * 10 + (c.toNat - 48)
    if next < UInt64.size then appendDigits next cs else (value, c :: cs)

namespace Numeral

/-- The leading digits that make a number below 2^64, and the power of ten to multiply it by.
Digits before the point that are left add to the power, and digits taken from behind it subtract
from it. -/
def leading (numeral : Numeral) : Nat × Int :=
  let fraction := numeral.fraction.getD []
  let (whole, above) := appendDigits 0 numeral.whole
  let (value, below) := appendDigits whole fraction
  (value, numeral.power + above.length - (fraction.length - below.length))

/-- Whether the number is too large for a double.  Powers of ten end with the 308th. -/
def overflows (numeral : Numeral) : Bool :=
  let (value, power) := numeral.leading
  value != 0 && decide (0 ≤ power) &&
    (decide (308 < power) ||
      decide (doubleLimit ≤ nearestDouble value * nearestDouble (Nat.pow 10 power.toNat)))

end Numeral

end HexadQuery.Json
