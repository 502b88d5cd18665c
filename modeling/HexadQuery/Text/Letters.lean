/-
# Texts up to the case of their ASCII letters

Keywords, action names and registered names are compared without regard to the case of the letters
A to Z and of no others: `İ` and `ı` are not spellings of `i` here.

`sameLetters` is an equivalence and stays a Boolean, because the grammar branches on it.  Proofs
use it as one: two texts that are the same letters are interchangeable wherever a keyword is looked
for.
-/
namespace HexadQuery.Text

/-- Write every ASCII letter as a capital; leave all else. -/
def upper (s : String) : String := String.ofList (s.toList.map Char.toUpper)

/-- Whether two texts differ at most in the case of ASCII letters. -/
def sameLetters (a b : String) : Bool :=
  a.toList.map Char.toLower == b.toList.map Char.toLower

@[simp] theorem sameLetters_refl (a : String) : sameLetters a a = true := by simp [sameLetters]

theorem sameLetters_comm (a b : String) : sameLetters a b = sameLetters b a := by
  simp only [sameLetters, Bool.beq_comm]

theorem sameLetters_trans {a b c : String} (h : sameLetters a b = true)
    (h' : sameLetters b c = true) : sameLetters a c = true := by
  simp only [sameLetters, beq_iff_eq] at *
  exact h.trans h'

end HexadQuery.Text
