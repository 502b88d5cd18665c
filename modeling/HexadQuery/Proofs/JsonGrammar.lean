/-
# Any value can be skipped

The grammar of JSON (RFC 8259) over characters, as a predicate: `IsValue` holds of the texts of
values, with blanks wherever the grammar allows them and nested to any depth.  What a string stands
for plays no part, and neither does the size of a number; skipping looks at the form alone.  It is
used for the members of an object that a reader does not know.

**The reader skips every value and stops right behind it** (`skipValue_append`).  A number has no
end of its own, so what is behind must not go on with it (`Stops`); in a text it is a blank, a
comma or a closing bracket.  The reader runs on fuel, and the length of the value is enough: each
call that spends fuel without taking a character is followed by one that takes a character.

The three inductive predicates are mutual, as the three functions of the reader are, and the proof
is one mutual induction over the grammar (`skipWithin_append` with `skipItems_append` and
`skipMembers_append`).  Arrays and objects without elements are rules of their own, because the
reader decides at the first character behind the bracket whether there are any.

Numbers take the most work, since four functions read a number in turn and each has to stop where
the next begins.  That is said once for each part: a part is read to its end if what follows can
not be taken for more of it, and what follows it in a number can not.
-/
import HexadQuery.Json.Reader
import HexadQuery.Proofs.JsonTexts

namespace HexadQuery.Json

/-! ## 1. The grammar

The productions of the RFC.  Blanks are attached to the elements and members they surround, so that
a value itself has none at its ends. -/

/-- Nothing but blanks. -/
def Gap (cs : List Char) : Prop := ∀ c ∈ cs, isSpace c = true

instance (cs : List Char) : Decidable (Gap cs) :=
  List.decidableBAll (fun c : Char => isSpace c = true) cs

/-- One or more digits. -/
def IsDigits (cs : List Char) : Prop := cs ≠ [] ∧ ∀ c ∈ cs, c.isDigit = true

/-- The digits ahead of a point: a zero, or digits that do not start with one. -/
def IsWhole (cs : List Char) : Prop := cs = ['0'] ∨ IsDigits cs ∧ cs.head? ≠ some '0'

/-- A point and digits, or nothing. -/
inductive IsFraction : List Char → Prop
  | none : IsFraction []
  | some {digits : List Char} : IsDigits digits → IsFraction ('.' :: digits)

/-- The mark of an exponent, perhaps a sign, and digits, or nothing. -/
inductive IsExponent : List Char → Prop
  | none : IsExponent []
  | some {mark : Char} {sign digits : List Char} : mark = 'e' ∨ mark = 'E' →
      sign ∈ [[], ['+'], ['-']] → IsDigits digits → IsExponent (mark :: (sign ++ digits))

/-- A number. -/
inductive IsNumber : List Char → Prop
  | mk {minus whole fraction exponent : List Char} : minus ∈ [[], ['-']] → IsWhole whole →
      IsFraction fraction → IsExponent exponent →
      IsNumber (minus ++ (whole ++ (fraction ++ exponent)))

/-- What stands between the quotes of a string. -/
inductive IsBody : List Char → Prop
  | nil : IsBody []
  | plain {c : Char} {cs : List Char} : c ≠ '"' → c ≠ '\\' → 0x20 ≤ c.toNat → IsBody cs →
      IsBody (c :: cs)
  | short {e : Char} {cs : List Char} : e ∈ ['"', '\\', '/', 'b', 'f', 'n', 'r', 't'] →
      IsBody cs → IsBody ('\\' :: e :: cs)
  | number {a b c d : Char} {cs : List Char} : (∀ x ∈ [a, b, c, d], (hexDigit? x).isSome) →
      IsBody cs → IsBody ('\\' :: 'u' :: a :: b :: c :: d :: cs)

mutual

/-- A value, without blanks around it. -/
inductive IsValue : List Char → Prop
  | null : IsValue ['n', 'u', 'l', 'l']
  | yes : IsValue ['t', 'r', 'u', 'e']
  | no : IsValue ['f', 'a', 'l', 's', 'e']
  | number {cs : List Char} : IsNumber cs → IsValue cs
  | string {cs : List Char} : IsBody cs → IsValue ('"' :: (cs ++ ['"']))
  | noItems {gap : List Char} : Gap gap → IsValue ('[' :: (gap ++ [']']))
  | array {cs : List Char} : IsItems cs → IsValue ('[' :: (cs ++ [']']))
  | noMembers {gap : List Char} : Gap gap → IsValue ('\x7b' :: (gap ++ ['\x7d']))
  | object {cs : List Char} : IsMembers cs → IsValue ('\x7b' :: (cs ++ ['\x7d']))

/-- The elements of an array that has some. -/
inductive IsItems : List Char → Prop
  | one {g h v : List Char} : Gap g → IsValue v → Gap h → IsItems (g ++ (v ++ h))
  | more {g h v cs : List Char} : Gap g → IsValue v → Gap h → IsItems cs →
      IsItems (g ++ (v ++ (h ++ ',' :: cs)))

/-- The members of an object that has some. -/
inductive IsMembers : List Char → Prop
  | one {g h i j key v : List Char} : Gap g → IsBody key → Gap h → Gap i → IsValue v → Gap j →
      IsMembers (g ++ '"' :: (key ++ '"' :: (h ++ ':' :: (i ++ (v ++ j)))))
  | more {g h i j key v cs : List Char} : Gap g → IsBody key → Gap h → Gap i → IsValue v → Gap j →
      IsMembers cs →
      IsMembers (g ++ '"' :: (key ++ '"' :: (h ++ ':' :: (i ++ (v ++ (j ++ ',' :: cs))))))

end

/-! ## 2. Blanks

Every function of the reader skips blanks first, so a gap ahead of a text is as good as none. -/

theorem gap_nil : Gap [] := List.forall_mem_nil _

/-- A gap is skipped up to what is behind it. -/
theorem skipSpace_gap {gap : List Char} (h : Gap gap) (rest : List Char) :
    skipSpace (gap ++ rest) = skipSpace rest := by
  rw [skipSpace, List.dropWhile_append_of_pos h, skipSpace]

/-- There is nothing to skip ahead of another character. -/
theorem skipSpace_cons {c : Char} (h : isSpace c = false) (rest : List Char) :
    skipSpace (c :: rest) = c :: rest := by
  rw [skipSpace, List.dropWhile_cons_of_neg (by simp [h])]

/-- A gap is skipped up to the character behind it. -/
theorem skipSpace_gap_cons {gap : List Char} {c : Char} (h : Gap gap) (hc : isSpace c = false)
    (rest : List Char) : skipSpace (gap ++ c :: rest) = c :: rest := by
  rw [skipSpace_gap h, skipSpace_cons hc]

/-- Skipping twice is skipping once. -/
theorem skipSpace_skipSpace (cs : List Char) : skipSpace (skipSpace cs) = skipSpace cs :=
  List.dropWhile_idempotent isSpace cs

/-! ## 3. Numbers

The parts of a number from the left: a minus, whole digits, a fraction, an exponent.  `Ends` is
what digits need behind them and `Stops` is what a number needs. -/

/-- What may stand behind a number: nothing that goes on with it. -/
def Stops (rest : List Char) : Prop :=
  ∀ c, rest.head? = some c → c.isDigit = false ∧ c ≠ '.' ∧ c ≠ 'e' ∧ c ≠ 'E'

/-- A character that goes on with no number. -/
theorem stops_cons {c : Char} (h : c.isDigit = false ∧ c ≠ '.' ∧ c ≠ 'e' ∧ c ≠ 'E')
    (rest : List Char) : Stops (c :: rest) := by
  intro d hd
  obtain rfl : c = d := by simpa using hd
  exact h

/-- The end of the text does not either. -/
theorem stops_nil : Stops [] := by
  intro c hc
  cases hc

/-- Nor does a gap, or what is behind an empty one. -/
theorem stops_gap {gap rest : List Char} (hgap : Gap gap) (hrest : Stops rest) :
    Stops (gap ++ rest) := by
  cases gap with
  | nil => exact hrest
  | cons c cs =>
    refine stops_cons ?_ (cs ++ rest)
    have hc : isSpace c = true := hgap c List.mem_cons_self
    simp only [isSpace, Bool.or_eq_true, beq_iff_eq] at hc
    rcases hc with ((rfl | rfl) | rfl) | rfl
    all_goals decide

/-- Digits are read up to what is not a digit. -/
theorem digits1_append {digits rest : List Char} (h : IsDigits digits) (hrest : Ends rest) :
    digits1 (digits ++ rest) = some (digits, rest) := by
  obtain ⟨hne, hdigits⟩ := h
  have htake : (digits ++ rest).takeWhile Char.isDigit = digits := by
    rw [List.takeWhile_append_of_pos hdigits]
    cases rest with
    | nil => simp
    | cons c cs => simp [hrest c rfl]
  have hdrop : (digits ++ rest).dropWhile Char.isDigit = rest := by
    rw [List.dropWhile_append_of_pos hdigits]
    cases rest with
    | nil => rfl
    | cons c cs => simp [hrest c rfl]
  obtain ⟨d, ds, rfl⟩ := List.exists_cons_of_ne_nil hne
  rw [digits1, List.span_eq_takeWhile_dropWhile, htake, hdrop]

theorem IsWhole.isDigits {whole : List Char} (h : IsWhole whole) : IsDigits whole := by
  rcases h with rfl | ⟨h, -⟩
  · exact ⟨by simp, by simp [Char.isDigit]⟩
  · exact h

/-- Whole digits are read to their end; a zero is not followed by others. -/
theorem wholeDigits_append {whole rest : List Char} (h : IsWhole whole) (hrest : Ends rest) :
    wholeDigits (whole ++ rest) = some (whole, rest) := by
  rw [wholeDigits, digits1_append h.isDigits hrest]
  rcases h with rfl | ⟨-, hzero⟩
  · rfl
  · split
    · rename_i hread
      obtain ⟨rfl, -⟩ := Prod.mk.inj (Option.some.inj hread)
      exact absurd rfl hzero
    · rfl

/-- Without a point there is no fraction. -/
theorem fractionDigits_of_head? {rest : List Char} (h : rest.head? ≠ some '.') :
    fractionDigits rest = some (none, rest) := by
  rw [fractionDigits]
  rintro cs rfl
  exact h rfl

theorem fractionDigits_append {fraction rest : List Char} (h : IsFraction fraction)
    (hends : Ends rest) (hpoint : rest.head? ≠ some '.') :
    ∃ read, fractionDigits (fraction ++ rest) = some (read, rest) := by
  cases h with
  | none => exact ⟨none, fractionDigits_of_head? hpoint⟩
  | @some digits hdigits =>
    refine ⟨some digits, ?_⟩
    rw [List.cons_append, fractionDigits, digits1_append hdigits hends]
    rfl

/-- Without a mark there is no exponent. -/
theorem exponentDigits_of_stops {rest : List Char} (h : Stops rest) :
    exponentDigits rest = some (none, rest) := by
  cases rest with
  | nil => rfl
  | cons c cs =>
    obtain ⟨-, -, he, hE⟩ := h c rfl
    simp [exponentDigits, he, hE]

theorem exponentDigits_append {exponent rest : List Char} (h : IsExponent exponent)
    (hrest : Stops rest) : ∃ read, exponentDigits (exponent ++ rest) = some (read, rest) := by
  cases h with
  | none => exact ⟨none, exponentDigits_of_stops hrest⟩
  | @some mark sign digits hmark hsign hdigits =>
    have hends : Ends rest := fun c hc => (hrest c hc).1
    have hread := digits1_append hdigits hends
    have hbool : (mark == 'e' || mark == 'E') = true := by simpa using hmark
    unfold exponentDigits
    simp only [List.cons_append, hbool, if_true]
    simp only [List.mem_cons, List.not_mem_nil, or_false] at hsign
    rcases hsign with rfl | rfl | rfl
    · obtain ⟨d, ds, rfl⟩ := List.exists_cons_of_ne_nil hdigits.1
      have hd : d.isDigit = true := hdigits.2 d List.mem_cons_self
      have hminus : d ≠ '-' := by rintro rfl; exact absurd hd (by decide)
      have hplus : d ≠ '+' := by rintro rfl; exact absurd hd (by decide)
      refine ⟨some (false, d :: ds), ?_⟩
      rw [List.cons_append] at hread
      simp [hread, hminus, hplus]
    · exact ⟨some (false, digits), by simp [hread]⟩
    · exact ⟨some (true, digits), by simp [hread]⟩

/-- What follows the digits of a number does not go on with them. -/
theorem ends_fraction_append {fraction rest : List Char} (h : IsFraction fraction)
    (hrest : Ends rest) : Ends (fraction ++ rest) := by
  cases h with
  | none => exact hrest
  | some => exact ends_cons (by decide) _

theorem ends_exponent_append {exponent rest : List Char} (h : IsExponent exponent)
    (hrest : Ends rest) : Ends (exponent ++ rest) := by
  cases h with
  | none => exact hrest
  | some hmark =>
    rcases hmark with rfl | rfl
    all_goals exact ends_cons (by decide) _

theorem head?_exponent_append {exponent rest : List Char} (h : IsExponent exponent)
    (hrest : Stops rest) : (exponent ++ rest).head? ≠ some '.' := by
  cases h with
  | none =>
    intro hpoint
    exact (hrest '.' hpoint).2.1 rfl
  | some hmark =>
    rcases hmark with rfl | rfl
    all_goals simp

theorem leadingMinus_digits {whole : List Char} (h : IsDigits whole) (rest : List Char) :
    leadingMinus (whole ++ rest) = (false, whole ++ rest) := by
  obtain ⟨c, cs, rfl⟩ := List.exists_cons_of_ne_nil h.1
  rw [leadingMinus]
  intro _ heq
  obtain ⟨rfl, -⟩ := List.cons.inj heq
  exact absurd (h.2 '-' List.mem_cons_self) (by decide)

/-- **A number is read to its end.**  The digits, the fraction and the exponent are each taken as
far as they go, and what follows a number is no part of one. -/
theorem numeral?_append {cs rest : List Char} (h : IsNumber cs) (hrest : Stops rest) :
    ∃ numeral, numeral? (cs ++ rest) = some (numeral, rest) := by
  obtain @⟨minus, whole, fraction, exponent, hminus, hwhole, hfraction, hexponent⟩ := h
  have hends : Ends rest := fun c hc => (hrest c hc).1
  have hsign : ∃ negative, leadingMinus (minus ++ (whole ++ (fraction ++ (exponent ++ rest)))) =
      (negative, whole ++ (fraction ++ (exponent ++ rest))) := by
    simp only [List.mem_cons, List.not_mem_nil, or_false] at hminus
    rcases hminus with rfl | rfl
    · exact ⟨false, leadingMinus_digits hwhole.isDigits _⟩
    · exact ⟨true, rfl⟩
  obtain ⟨negative, hsign⟩ := hsign
  have hread := wholeDigits_append hwhole
    (ends_fraction_append hfraction (ends_exponent_append hexponent hends))
  obtain ⟨f, hf⟩ := fractionDigits_append hfraction (ends_exponent_append hexponent hends)
    (head?_exponent_append hexponent hrest)
  obtain ⟨e, he⟩ := exponentDigits_append hexponent hrest
  refine ⟨⟨negative, whole, f, e⟩, ?_⟩
  simp only [numeral?, List.append_assoc, hsign, hread, hf, he, Option.bind_eq_bind,
    Option.bind_some]
  rfl

/-- The decimal digits of a positive number do not start with a zero. -/
theorem head?_toDigits (n : Nat) (h : 0 < n) : (Nat.toDigits 10 n).head? ≠ some '0' := by
  induction n using Nat.strongRecOn with
  | ind n ih =>
    by_cases hlt : n < 10
    · have hdigit : ∀ m : Fin 10, 0 < m.val → Nat.digitChar m.val ≠ '0' := by decide
      rw [Nat.toDigits_of_lt_base hlt]
      simpa using hdigit ⟨n, hlt⟩ h
    · rw [Nat.toDigits_of_base_le (by decide) (by omega), List.head?_append_of_ne_nil]
      · exact ih (n / 10) (by omega) (by omega)
      · exact Nat.toDigits_ne_nil

/-- Decimal digits as they are written are whole digits. -/
theorem isWhole_repr (n : Nat) : IsWhole n.repr.toList := by
  rw [Nat.toList_repr]
  rcases Nat.eq_zero_or_pos n with rfl | h
  · exact Or.inl rfl
  · refine Or.inr ⟨⟨Nat.toDigits_ne_nil, ?_⟩, head?_toDigits n h⟩
    intro c hc
    exact Nat.isDigit_of_mem_toDigits (by decide) (by decide) hc

theorem isNumber_repr (n : Nat) : IsNumber n.repr.toList := by
  have h := @IsNumber.mk [] n.repr.toList [] [] (by simp) (isWhole_repr n) .none .none
  simpa using h

/-- **The decimal digits of a number are read back.**  They are a number without sign, fraction
and exponent. -/
theorem numeral?_repr (n : Nat) {rest : List Char} (hrest : Stops rest) :
    numeral? (n.repr.toList ++ rest) = some (⟨false, n.repr.toList, none, none⟩, rest) := by
  have hends : Ends rest := fun c hc => (hrest c hc).1
  have hpoint : rest.head? ≠ some '.' := fun hc => (hrest '.' hc).2.1 rfl
  simp only [numeral?, leadingMinus_digits (isWhole_repr n).isDigits,
    wholeDigits_append (isWhole_repr n) hends, fractionDigits_of_head? hpoint,
    exponentDigits_of_stops hrest, Option.bind_eq_bind, Option.bind_some]
  rfl

/-- A number starts with a minus or a digit. -/
theorem IsNumber.head {cs : List Char} (h : IsNumber cs) :
    ∃ c ds, cs = c :: ds ∧ (c = '-' ∨ c.isDigit = true) := by
  obtain @⟨minus, whole, fraction, exponent, hminus, hwhole, -, -⟩ := h
  simp only [List.mem_cons, List.not_mem_nil, or_false] at hminus
  rcases hminus with rfl | rfl
  · obtain ⟨c, ds, rfl⟩ := List.exists_cons_of_ne_nil hwhole.isDigits.1
    exact ⟨c, _, rfl, Or.inr (hwhole.isDigits.2 c List.mem_cons_self)⟩
  · exact ⟨'-', _, rfl, Or.inl rfl⟩

/-! ## 4. Strings

Only the closing quote matters, but an escaped quote is none, so escapes are looked at in full. -/

/-- **A string is skipped to its closing quote.**  The induction is on how the body was written:
a character, a short escape, or a number of four digits. -/
theorem skipString_append {cs : List Char} (h : IsBody cs) (rest : List Char) :
    skipString (cs ++ '"' :: rest) = some rest := by
  induction h with
  | nil => simp [skipString]
  | @plain c cs hquote hslash hc _ ih =>
    rw [List.cons_append, skipString]
    · have hlow : ¬ c.toNat < 32 := by omega
      simp [hlow, hslash, ih]
    · exact hquote
    · intro _ _ _ _ _ heq
      exact absurd heq hslash
    · intro _ _ heq
      exact absurd heq hslash
  | @short e cs he _ ih =>
    have hescaped : (escaped? e).isSome = true := by
      revert he
      simp only [List.mem_cons, List.not_mem_nil, or_false]
      rintro (rfl | rfl | rfl | rfl | rfl | rfl | rfl | rfl)
      all_goals rfl
    rw [List.cons_append, List.cons_append, skipString, if_pos hescaped, ih]
    rintro _ _ _ _ _ rfl
    cases hescaped
  | @number a b c d cs hhex _ ih =>
    have hsome : (hex4? a b c d).isSome = true := by
      obtain ⟨x, hx⟩ := Option.isSome_iff_exists.mp (hhex a (by simp))
      obtain ⟨y, hy⟩ := Option.isSome_iff_exists.mp (hhex b (by simp))
      obtain ⟨z, hz⟩ := Option.isSome_iff_exists.mp (hhex c (by simp))
      obtain ⟨w, hw⟩ := Option.isSome_iff_exists.mp (hhex d (by simp))
      simp [hex4?, hx, hy, hz, hw]
    simp only [List.cons_append]
    rw [skipString, if_pos hsome, ih]

/-! ## 5. Values

The induction.  Fuel is one more than needed at each level, and that is counted by the length of
the text, brackets included. -/

/-- No value starts with a blank or like the end of an array. -/
theorem IsValue.head {v : List Char} (h : IsValue v) :
    ∃ c cs, v = c :: cs ∧ isSpace c = false ∧ c ≠ ']' := by
  cases h with
  | null => exact ⟨'n', _, rfl, by decide⟩
  | yes => exact ⟨'t', _, rfl, by decide⟩
  | no => exact ⟨'f', _, rfl, by decide⟩
  | number h =>
    obtain ⟨c, cs, rfl, hc⟩ := h.head
    refine ⟨c, cs, rfl, ?_⟩
    rcases hc with rfl | hc
    · decide
    · have hclose : c ≠ ']' := by rintro rfl; exact absurd hc (by decide)
      have hspace : isSpace c = false := by
        by_contra hspace
        have hstops := @stops_gap [c] [] (by simpa [Gap] using hspace) stops_nil
        exact absurd hc (by simp [(hstops c rfl).1])
      exact ⟨hspace, hclose⟩
  | string => exact ⟨'"', _, rfl, by decide⟩
  | noItems => exact ⟨'[', _, rfl, by decide⟩
  | array => exact ⟨'[', _, rfl, by decide⟩
  | noMembers => exact ⟨'\x7b', _, rfl, by decide⟩
  | object => exact ⟨'\x7b', _, rfl, by decide⟩

/-- A gap ahead of a value costs no fuel. -/
theorem skipWithin_gap {gap : List Char} (h : Gap gap) (fuel : Nat) (rest : List Char) :
    skipWithin fuel (gap ++ rest) = skipWithin fuel rest := by
  cases fuel with
  | zero => rw [skipWithin, skipWithin]
  | succ fuel => rw [skipWithin, skipSpace_gap h, skipWithin]

/-- Nor does it matter whether the blanks were skipped before. -/
theorem skipWithin_skipSpace (fuel : Nat) (cs : List Char) :
    skipWithin fuel (skipSpace cs) = skipWithin fuel cs := by
  cases fuel with
  | zero => rw [skipWithin, skipWithin]
  | succ fuel => rw [skipWithin, skipSpace_skipSpace, skipWithin]

theorem skipItems_skipSpace (fuel : Nat) (cs : List Char) :
    skipItems fuel (skipSpace cs) = skipItems fuel cs := by
  cases fuel with
  | zero => rw [skipItems, skipItems]
  | succ fuel => rw [skipItems, skipWithin_skipSpace, skipItems]

theorem skipMembers_skipSpace (fuel : Nat) (cs : List Char) :
    skipMembers fuel (skipSpace cs) = skipMembers fuel cs := by
  cases fuel with
  | zero => rw [skipMembers, skipMembers]
  | succ fuel => rw [skipMembers, skipSpace_skipSpace, skipMembers]

/-- The text of a number is none of the other kinds of value. -/
theorem skipWithin_number {cs rest : List Char} (h : IsNumber cs) (hrest : Stops rest)
    (fuel : Nat) : skipWithin (fuel + 1) (cs ++ rest) = some rest := by
  obtain ⟨numeral, hread⟩ := numeral?_append h hrest
  obtain ⟨c, ds, rfl, hspace, -⟩ := (IsValue.number h).head
  obtain ⟨d, es, heq, hd⟩ := h.head
  obtain ⟨rfl, rfl⟩ := List.cons.inj heq
  have hne : ∀ x : Char, x ≠ '-' → x.isDigit = false → c ≠ x := by
    rintro x hminus hdigit rfl
    rcases hd with hd | hd
    · exact hminus hd
    · rw [hdigit] at hd
      cases hd
  rw [List.cons_append] at hread ⊢
  rw [skipWithin, skipSpace_cons hspace]
  simp [hread, hne '"', hne 'n', hne 't', hne 'f', hne '[', hne '\x7b']

/-- An object's first key is not its end. -/
theorem IsMembers.head {cs : List Char} (h : IsMembers cs) :
    ∃ gap ds, cs = gap ++ '"' :: ds ∧ Gap gap := by
  cases h with
  | one hgap => exact ⟨_, _, rfl, hgap⟩
  | more hgap => exact ⟨_, _, rfl, hgap⟩

/-- The first element of an array is not its end. -/
theorem IsItems.head {cs : List Char} (h : IsItems cs) :
    ∃ gap c ds, cs = gap ++ c :: ds ∧ Gap gap ∧ isSpace c = false ∧ c ≠ ']' := by
  cases h with
  | one hgap hv =>
    obtain ⟨c, ds, rfl, hspace, hclose⟩ := hv.head
    exact ⟨_, c, _, rfl, hgap, hspace, hclose⟩
  | more hgap hv =>
    obtain ⟨c, ds, rfl, hspace, hclose⟩ := hv.head
    exact ⟨_, c, _, rfl, hgap, hspace, hclose⟩

/-- An array with elements is skipped as its elements are. -/
theorem skipWithin_items {cs : List Char} (h : IsItems cs) (fuel : Nat) (rest : List Char) :
    skipWithin (fuel + 1) ('[' :: (cs ++ rest)) = skipItems fuel (cs ++ rest) := by
  obtain ⟨gap, c, ds, rfl, hgap, hspace, hclose⟩ := h.head
  rw [skipWithin, skipSpace_cons (by decide), ← skipItems_skipSpace]
  simp only [List.append_assoc, List.cons_append, skipSpace_gap_cons hgap hspace]
  split
  · rename_i heq
    exact absurd (List.cons.inj heq).1 hclose
  · rfl

/-- An object with members is skipped as its members are. -/
theorem skipWithin_members {cs : List Char} (h : IsMembers cs) (fuel : Nat) (rest : List Char) :
    skipWithin (fuel + 1) ('\x7b' :: (cs ++ rest)) = skipMembers fuel (cs ++ rest) := by
  obtain ⟨gap, ds, rfl, hgap⟩ := h.head
  rw [skipWithin, skipSpace_cons (by decide), ← skipMembers_skipSpace]
  simp only [List.append_assoc, List.cons_append, skipSpace_gap_cons hgap (c := '"') rfl]
  rfl

/-- What may stand behind an element: a comma or the closing bracket, perhaps after blanks. -/
theorem stops_gap_cons {gap : List Char} {c : Char} (h : Gap gap) (hc : c ∈ [',', ']', '\x7d'])
    (rest : List Char) : Stops (gap ++ c :: rest) := by
  refine stops_gap h (stops_cons ?_ rest)
  simp only [List.mem_cons, List.not_mem_nil, or_false] at hc
  rcases hc with rfl | rfl | rfl
  all_goals decide

mutual

/-- **A value is skipped to its end**, given as much fuel as it has characters.  The parts of a
value are shorter by its brackets, so there is fuel for them. -/
theorem skipWithin_append {v : List Char} (h : IsValue v) {fuel : Nat} {rest : List Char}
    (hfuel : v.length ≤ fuel) (hrest : Stops rest) : skipWithin fuel (v ++ rest) = some rest := by
  obtain ⟨fuel, rfl⟩ : ∃ n, fuel = n + 1 := by
    obtain ⟨c, cs, rfl, -⟩ := h.head
    rw [List.length_cons] at hfuel
    exact ⟨fuel - 1, by omega⟩
  match h with
  | .null => rfl
  | .yes => rfl
  | .no => rfl
  | .number hnumber => exact skipWithin_number hnumber hrest fuel
  | .string hbody =>
    rw [List.cons_append, List.append_assoc, skipWithin, skipSpace_cons (by decide)]
    exact skipString_append hbody rest
  | .noItems hgap =>
    rw [List.cons_append, List.append_assoc, skipWithin, skipSpace_cons (by decide)]
    simp only [List.singleton_append, skipSpace_gap_cons hgap (c := ']') rfl]
  | .array hitems =>
    simp only [List.length_cons, List.length_append, List.length_nil] at hfuel
    rw [List.cons_append, List.append_assoc, skipWithin_items hitems]
    exact skipItems_append hitems (by omega)
  | .noMembers hgap =>
    rw [List.cons_append, List.append_assoc, skipWithin, skipSpace_cons (by decide)]
    simp only [List.singleton_append, skipSpace_gap_cons hgap (c := '\x7d') rfl]
  | .object hmembers =>
    simp only [List.length_cons, List.length_append, List.length_nil] at hfuel
    rw [List.cons_append, List.append_assoc, skipWithin_members hmembers]
    exact skipMembers_append hmembers (by omega)

/-- The elements of an array, up to the closing bracket. -/
theorem skipItems_append {cs : List Char} (h : IsItems cs) {fuel : Nat} {rest : List Char}
    (hfuel : cs.length < fuel) : skipItems fuel (cs ++ ']' :: rest) = some rest := by
  obtain ⟨fuel, rfl⟩ : ∃ n, fuel = n + 1 := ⟨fuel - 1, by omega⟩
  match h with
  | .one hg hv hh =>
    simp only [List.length_append] at hfuel
    simp only [List.append_assoc]
    rw [skipItems, skipWithin_gap hg,
      skipWithin_append hv (by omega) (stops_gap_cons hh (by decide) rest), Option.map_some,
      skipSpace_gap_cons hh (by decide)]
    rfl
  | .more hg hv hh hitems =>
    simp only [List.length_append, List.length_cons] at hfuel
    simp only [List.append_assoc, List.cons_append]
    rw [skipItems, skipWithin_gap hg,
      skipWithin_append hv (by omega) (stops_gap_cons hh (by decide) _), Option.map_some,
      skipSpace_gap_cons hh (by decide)]
    exact skipItems_append hitems (by omega)

/-- The members of an object, up to the closing brace. -/
theorem skipMembers_append {cs : List Char} (h : IsMembers cs) {fuel : Nat} {rest : List Char}
    (hfuel : cs.length < fuel) : skipMembers fuel (cs ++ '\x7d' :: rest) = some rest := by
  obtain ⟨fuel, rfl⟩ : ∃ n, fuel = n + 1 := ⟨fuel - 1, by omega⟩
  match h with
  | .one hg hkey hh hi hv hj =>
    simp only [List.length_append, List.length_cons] at hfuel
    simp only [List.append_assoc, List.cons_append]
    rw [skipMembers, skipSpace_gap_cons hg (by decide)]
    simp only [skipString_append hkey, Option.map_some, skipSpace_gap_cons hh (c := ':') rfl]
    rw [skipWithin_gap hi, skipWithin_append hv (by omega) (stops_gap_cons hj (by decide) rest),
      Option.map_some, skipSpace_gap_cons hj (by decide)]
    rfl
  | .more hg hkey hh hi hv hj hmembers =>
    simp only [List.length_append, List.length_cons] at hfuel
    simp only [List.append_assoc, List.cons_append]
    rw [skipMembers, skipSpace_gap_cons hg (by decide)]
    simp only [skipString_append hkey, Option.map_some, skipSpace_gap_cons hh (c := ':') rfl]
    rw [skipWithin_gap hi, skipWithin_append hv (by omega) (stops_gap_cons hj (by decide) _),
      Option.map_some, skipSpace_gap_cons hj (by decide)]
    exact skipMembers_append hmembers (by omega)

end

/-- **Any value is skipped**, with blanks ahead of it.  There is fuel for twice the length of the
text, which is more than any value in it needs. -/
theorem skipValue_append {gap v rest : List Char} (hgap : Gap gap) (h : IsValue v)
    (hrest : Stops rest) : skipValue (gap ++ (v ++ rest)) = .ok ((), rest) := by
  have hfuel : v.length ≤ 2 * (gap ++ (v ++ rest)).length + 1 := by
    simp only [List.length_append]
    omega
  rw [skipValue, skipWithin_gap hgap, skipWithin_append h hfuel hrest]
  rfl

end HexadQuery.Json
