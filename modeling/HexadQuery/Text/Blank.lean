/-
# Blank characters

What separates words, and what is cut from the ends of a text.  The class is the White_Space
property of Unicode: it holds the no-break spaces and the ideographic space, and it does not hold
the zero-width space, the byte-order mark or the information separators U+001C to U+001F.

`trimChars` and `trim` cut both ends and leave blanks inside a text alone; `wordsFrom` cuts a text
into its words and keeps the place of each.

Words are found from the end of the text: `wordsFrom` has the words of the rest and asks whether
the character ahead touches the first of them.  The recursion is on the text and carries nothing,
where a scan from the front would carry the word that is open.
-/
namespace HexadQuery.Text

/-! ## 1. The class -/

/-- Whether a character is blank. -/
def isBlank (c : Char) : Bool :=
  let n := c.toNat
  (0x9 ≤ n && n ≤ 0xD) || n == 0x20 || n == 0x85 || n == 0xA0 || n == 0x1680 ||
    (0x2000 ≤ n && n ≤ 0x200A) || n == 0x2028 || n == 0x2029 || n == 0x202F || n == 0x205F ||
    n == 0x3000

/-! ## 2. Trimming -/

/-- Cut the blanks at the front. -/
def trimFront (cs : List Char) : List Char := cs.dropWhile isBlank

/-- Cut the blanks at the end. -/
def trimBack (cs : List Char) : List Char := (cs.reverse.dropWhile isBlank).reverse

/-- Cut the blanks at both ends. -/
def trimChars (cs : List Char) : List Char := trimBack (trimFront cs)

/-- Cut the blanks at both ends of a text. -/
def trim (s : String) : String := String.ofList (trimChars s.toList)

/-- Cut every trailing copy of `mark`. -/
def cutTrailing (mark : Char) (cs : List Char) : List Char :=
  (cs.reverse.dropWhile (· == mark)).reverse

/-! ## 3. Words -/

/-- A maximal run of characters that are not blank, and the bytes of text ahead of it. -/
structure Word where
  offset : Nat
  chars : List Char

/-- Put a character that is not blank ahead of the words after it: it belongs to the first of
them if no blank parts the two, and is a word of its own otherwise. -/
def prepend (offset : Nat) (c : Char) (touches : Bool) (later : List Word) : List Word :=
  match touches, later with
  | true, word :: more => ⟨offset, c :: word.chars⟩ :: more
  | _, _ => ⟨offset, [c]⟩ :: later

/-- The words of a text in order, where `offset` bytes stand ahead of the text. -/
def wordsFrom (offset : Nat) : List Char → List Word
  | [] => []
  | c :: cs =>
    let later := wordsFrom (offset + c.utf8Size) cs
    if isBlank c then later
    else prepend offset c (cs.head?.any fun d => !isBlank d) later

/-- A word has characters, and none of them is blank. -/
theorem chars_of_mem_wordsFrom : ∀ (cs : List Char) (offset : Nat), ∀ w ∈ wordsFrom offset cs,
    w.chars ≠ [] ∧ ∀ c ∈ w.chars, isBlank c = false
  | [], _, w, h => by simp [wordsFrom] at h
  | c :: cs, offset, w, h => by
    have ih := chars_of_mem_wordsFrom cs (offset + c.utf8Size)
    rw [wordsFrom] at h
    by_cases hc : isBlank c = true
    · exact ih w (by simpa [hc] using h)
    · have hblank : isBlank c = false := by simpa using hc
      simp only [hblank, Bool.false_eq_true, if_false, prepend] at h
      split at h
      · rename_i _ v more _ hlater
        rcases List.mem_cons.mp h with rfl | h
        · refine ⟨by simp, ?_⟩
          intro d hd
          rcases List.mem_cons.mp hd with rfl | hd
          · exact hblank
          · exact (ih v (by rw [hlater]; exact List.mem_cons_self)).2 d hd
        · exact ih w (by rw [hlater]; exact List.mem_cons_of_mem _ h)
      · rcases List.mem_cons.mp h with rfl | h
        · exact ⟨by simp, by simp [hblank]⟩
        · exact ih w h

/-- The words of a text. -/
def words (s : String) : List String := (wordsFrom 0 s.toList).map fun w => String.ofList w.chars

end HexadQuery.Text
