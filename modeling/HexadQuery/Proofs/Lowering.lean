/-
# Small letters word by word

Writing a text in small letters writes each of its words in small letters (`words_lowered`).  Two
facts about the tables carry this: blanks are their own small forms (`lowerOf_blank`), and no other
character has a blank among its small forms (`solid_lowerOf`).  Both are read off spans of code
points that hold no blank (`Span.isClear`), so the tables are gone through once.

A capital sigma looks at its neighbours, so a text is not lowered character by character: at the
end of a word it becomes another letter than inside.  But what it looks for is a character with
case, looking through some that have none, and a blank is neither: a blank ends the search on
either side (`meetsCased_append_blank`).  So the parts of a text that a blank parts are lowered
apart (`loweredAfter_append_blank`), and the rest is an induction over the words.

This is needed where a text is lowered as a whole and then looked at word by word, as the console
does with a line that may be a command.
-/
import HexadQuery.Proofs.Words
import HexadQuery.Text.Case

namespace HexadQuery.Text

/-! ## 1. The tables keep clear of blanks

A span is clear if no blank lies in it, which is a comparison of numbers.  Four tables are gone
through, each by evaluation; every later fact about a character is by comparing its number with the
span it was found in. -/

/-- The blanks as spans of code points. -/
def blankSpans : List Span :=
  [⟨0x9, 0xD⟩, ⟨0x20, 0x20⟩, ⟨0x85, 0x85⟩, ⟨0xA0, 0xA0⟩, ⟨0x1680, 0x1680⟩, ⟨0x2000, 0x200A⟩,
    ⟨0x2028, 0x2029⟩, ⟨0x202F, 0x202F⟩, ⟨0x205F, 0x205F⟩, ⟨0x3000, 0x3000⟩]

/-- A blank lies in one of these spans. -/
theorem exists_blankSpan {c : Char} (h : isBlank c = true) :
    ∃ blanks ∈ blankSpans, blanks.first ≤ c.toNat ∧ c.toNat ≤ blanks.last := by
  simp only [isBlank, Bool.or_eq_true, Bool.and_eq_true, decide_eq_true_eq, beq_iff_eq] at h
  simp only [blankSpans, List.exists_mem_cons_iff, List.not_mem_nil, false_and, exists_false]
  omega

namespace Span

/-- Whether no blank lies in the span. -/
def isClear (span : Span) : Bool :=
  blankSpans.all fun blanks => blanks.last < span.first || span.last < blanks.first

/-- A character of a clear span is no blank. -/
theorem not_blank {span : Span} (h : span.isClear = true) {c : Char}
    (hfirst : span.first ≤ c.toNat) (hlast : c.toNat ≤ span.last) : isBlank c = false := by
  rw [Bool.eq_false_iff]
  intro hblank
  obtain ⟨blanks, hmem, hbounds⟩ := exists_blankSpan hblank
  have hapart := List.all_eq_true.mp h blanks hmem
  simp only [Bool.or_eq_true, decide_eq_true_eq] at hapart
  omega

/-- A number that no character has makes U+0000, which is no blank either. -/
theorem not_blank_ofNat {span : Span} (h : span.isClear = true) {n : Nat}
    (hfirst : span.first ≤ n) (hlast : n ≤ span.last) : isBlank (Char.ofNat n) = false := by
  by_cases hvalid : n.isValidChar
  · have hn : (Char.ofNat n).toNat = n := by
      rw [Char.ofNat, dif_pos hvalid]
      rfl
    exact not_blank h (by omega) (by omega)
  · rw [Char.ofNat, dif_neg hvalid]
    decide

/-- So no blank is found in a table of clear spans. -/
theorem covers_blank {spans : List Span} (h : ∀ span ∈ spans, span.isClear = true) {b : Char}
    (hb : isBlank b = true) : covers spans b = false := by
  rw [covers, List.any_eq_false]
  intro span hspan
  rw [Bool.and_eq_true, decide_eq_true_eq, decide_eq_true_eq]
  rintro ⟨hfirst, hlast⟩
  rw [not_blank (h span hspan) hfirst hlast] at hb
  cases hb

end Span

/-- A sigma does not look through a blank. -/
theorem clear_lookedThrough : ∀ span ∈ lookedThroughSpans, span.isClear = true := by
  decide +kernel

/-- And a blank is nothing it looks for. -/
theorem clear_cased : ∀ span ∈ casedSpans, span.isClear = true := by
  decide +kernel

/-- The letters with spellings of their own, and the spellings. -/
theorem clear_spellings : ∀ entry ∈ lowerSpellings,
    Span.isClear ⟨entry.letter, entry.letter⟩ = true ∧
      entry.spelling ≠ [] ∧ ∀ n ∈ entry.spelling, Span.isClear ⟨n, n⟩ = true := by
  decide +kernel

/-- The runs of letters, and their images. -/
theorem clear_runs : ∀ run ∈ lowerRuns, Span.isClear ⟨run.first, run.last⟩ = true ∧
    Span.isClear ⟨run.image, run.image + (run.last - run.first)⟩ = true := by
  decide +kernel

/-- A letter of a run and its image have the same place in their runs. -/
theorem imageOf?_eq_some {run : CaseRun} {n m : Nat} (h : run.imageOf? n = some m) :
    run.first ≤ n ∧ n ≤ run.last ∧ m = run.image + (n - run.first) := by
  simp only [CaseRun.imageOf?, Option.ite_none_right_eq_some, Bool.and_eq_true,
    decide_eq_true_eq, Option.some.injEq] at h
  exact ⟨h.1.1.1, h.1.1.2, h.2.symm⟩

/-! ## 2. Small forms of one character

ASCII goes by the library and is decided, everything else by the tables. -/

/-- In ASCII, the small form of a blank is the blank, and of no other character a blank. -/
theorem toLower_ascii : ∀ n : Fin 128, isBlank (Char.ofNat n).toLower = isBlank (Char.ofNat n) ∧
    (isBlank (Char.ofNat n) = true → (Char.ofNat n).toLower = Char.ofNat n) := by
  decide +kernel

/-- A blank is its own small form. -/
theorem lowerOf_blank {b : Char} (hb : isBlank b = true) : lowerOf b = [b] := by
  rw [lowerOf]
  split
  · next hascii =>
    have hlower := (toLower_ascii ⟨b.toNat, hascii⟩).2
    rw [Char.ofNat_toNat] at hlower
    rw [hlower hb]
  · -- a blank beyond ASCII is in none of the two tables
    have hspelling : lowerSpellings.find? (·.letter == b.toNat) = none := by
      refine List.find?_eq_none.mpr fun entry hentry hletter => ?_
      have hle : entry.letter = b.toNat := beq_iff_eq.mp hletter
      have hclear := Span.not_blank (clear_spellings entry hentry).1 hle.le hle.ge
      rw [hb] at hclear
      cases hclear
    have hrun : lowerRuns.findSome? (·.imageOf? b.toNat) = none := by
      refine List.findSome?_eq_none_iff.mpr fun run hrun => ?_
      refine Option.eq_none_iff_forall_ne_some.mpr fun m himage => ?_
      obtain ⟨hfirst, hlast, -⟩ := imageOf?_eq_some himage
      have hclear := Span.not_blank (clear_runs run hrun).1 hfirst hlast
      rw [hb] at hclear
      cases hclear
    rw [otherCase, hspelling, hrun]

/-- Letters beyond ASCII have small forms, and none of these is a blank. -/
theorem solid_otherCase {c : Char} (hc : isBlank c = false) :
    otherCase lowerSpellings lowerRuns c ≠ [] ∧
      ∀ d ∈ otherCase lowerSpellings lowerRuns c, isBlank d = false := by
  rw [otherCase]
  split
  · next entry hentry =>
    obtain ⟨-, hne, hspelling⟩ := clear_spellings entry (List.mem_of_find?_eq_some hentry)
    refine ⟨by simpa using hne, ?_⟩
    intro d hd
    obtain ⟨n, hn, rfl⟩ := List.mem_map.mp hd
    exact Span.not_blank_ofNat (hspelling n hn) le_rfl le_rfl
  · split
    · next n himage =>
      refine ⟨List.cons_ne_nil _ _, ?_⟩
      obtain ⟨run, hrun, hn⟩ := List.exists_of_findSome?_eq_some himage
      obtain ⟨hfirst, hlast, rfl⟩ := imageOf?_eq_some hn
      intro d hd
      rw [List.mem_singleton.mp hd]
      exact Span.not_blank_ofNat (clear_runs run hrun).2 (Nat.le_add_right _ _)
        (Nat.add_le_add_left (Nat.sub_le_sub_right hlast _) _)
    · refine ⟨List.cons_ne_nil _ _, ?_⟩
      intro d hd
      rwa [List.mem_singleton.mp hd]

/-- What is no blank has small forms, and none of these is a blank. -/
theorem solid_lowerOf {c : Char} (hc : isBlank c = false) :
    lowerOf c ≠ [] ∧ ∀ d ∈ lowerOf c, isBlank d = false := by
  rw [lowerOf]
  split
  · next hascii =>
    have hlower := (toLower_ascii ⟨c.toNat, hascii⟩).1
    rw [Char.ofNat_toNat] at hlower
    refine ⟨List.cons_ne_nil _ _, ?_⟩
    intro d hd
    rw [List.mem_singleton.mp hd, hlower, hc]
  · exact solid_otherCase hc

/-! ## 3. Blanks between the parts of a text

`loweredAfter before cs` carries what stands ahead, the nearest character first, so a blank in it
hides what is further off. -/

/-- A search that comes to a blank has ended. -/
theorem meetsCased_append_blank {b : Char} (hb : isBlank b = true) (cs ds : List Char) :
    meetsCased (cs ++ b :: ds) = meetsCased cs := by
  have hthrough := Span.covers_blank clear_lookedThrough hb
  have hcased := Span.covers_blank clear_cased hb
  rw [meetsCased, meetsCased, List.dropWhile_append,
    List.dropWhile_cons_of_neg (by simp [hthrough])]
  cases cs.dropWhile (Span.covers lookedThroughSpans) with
  | nil => exact hcased
  | cons c more => rfl

/-- What stands ahead of a blank does not matter behind it. -/
theorem loweredAfter_behind_blank {b : Char} (hb : isBlank b = true) (before : List Char) :
    ∀ (behind cs : List Char),
      loweredAfter (behind ++ b :: before) cs = loweredAfter behind cs
  | _, [] => rfl
  | behind, c :: cs => by
    have ih := loweredAfter_behind_blank hb before (c :: behind) cs
    rw [List.cons_append] at ih
    rw [loweredAfter, loweredAfter, meetsCased_append_blank hb, ih]

/-- What stands behind a blank does not matter ahead of it. -/
theorem loweredAfter_append {b : Char} (hb : isBlank b = true) (ds : List Char) :
    ∀ before cs : List Char, loweredAfter before (cs ++ b :: ds) =
      loweredAfter before cs ++ loweredAfter (cs.reverse ++ before) (b :: ds)
  | before, [] => rfl
  | before, c :: cs => by
    rw [List.cons_append, loweredAfter, loweredAfter, meetsCased_append_blank hb,
      loweredAfter_append hb ds (c :: before) cs, List.reverse_cons]
    simp

/-- **A text is lowered part by part**, where a blank parts it.  Only a capital sigma looks at
its neighbours, and on either side it looks no further than a blank. -/
theorem loweredAfter_append_blank {b : Char} (hb : isBlank b = true) (cs ds : List Char) :
    loweredAfter [] (cs ++ b :: ds) = loweredAfter [] cs ++ b :: loweredAfter [] ds := by
  have hbehind := loweredAfter_behind_blank hb cs.reverse [] ds
  rw [List.nil_append] at hbehind
  have hsigma : b ≠ 'Σ' := by
    rintro rfl
    exact absurd hb (by decide)
  rw [loweredAfter_append hb, List.append_nil, loweredAfter, if_neg (by simpa using hsigma),
    lowerOf_blank hb, hbehind]
  rfl

/-- A word stays free of blanks. -/
theorem solid_loweredAfter : ∀ (before : List Char) {cs : List Char},
    (∀ c ∈ cs, isBlank c = false) → ∀ d ∈ loweredAfter before cs, isBlank d = false
  | _, [], _ => List.forall_mem_nil _
  | before, c :: cs, h => by
    obtain ⟨hc, hcs⟩ := List.forall_mem_cons.mp h
    rw [loweredAfter]
    refine List.forall_mem_append.mpr ⟨?_, solid_loweredAfter (c :: before) hcs⟩
    split
    · split <;> simp [isBlank]
    · exact (solid_lowerOf hc).2

/-- And it does not vanish. -/
theorem loweredAfter_ne_nil (before : List Char) {c : Char} (h : isBlank c = false)
    (cs : List Char) : loweredAfter before (c :: cs) ≠ [] := by
  rw [loweredAfter]
  split
  · exact List.cons_ne_nil _ _
  · exact List.append_ne_nil_of_left_ne_nil (solid_lowerOf h).1 _

/-- **The words of a text in small letters are its words in small letters.** -/
theorem charWords_loweredAfter (cs : List Char) :
    charWords (loweredAfter [] cs) = (charWords cs).map (loweredAfter []) := by
  induction hlength : cs.length using Nat.strongRecOn generalizing cs with
  | ind n ih =>
    by_cases hblank : ∃ b ∈ cs, isBlank b = true
    · -- A blank cuts the text into two shorter ones.
      obtain ⟨b, hmem, hb⟩ := hblank
      obtain ⟨as, bs, rfl⟩ := List.append_of_mem hmem
      simp only [List.length_append, List.length_cons] at hlength
      rw [loweredAfter_append_blank hb, charWords_append_blank hb, charWords_append_blank hb,
        ih as.length (by omega) as rfl, ih bs.length (by omega) bs rfl, List.map_append]
    · have hsolid : ∀ c ∈ cs, isBlank c = false := by simpa using hblank
      cases cs with
      | nil => rfl
      | cons c cs =>
        have hc := hsolid c List.mem_cons_self
        have hword : IsWord (c :: cs) := ⟨List.cons_ne_nil _ _, hsolid⟩
        have hlowered : IsWord (loweredAfter [] (c :: cs)) :=
          ⟨loweredAfter_ne_nil [] hc cs, solid_loweredAfter [] hsolid⟩
        rw [hword.charWords, hlowered.charWords, List.map_singleton]

/-- The same for texts. -/
theorem words_lowered (s : String) : words (lowered s) = (words s).map lowered := by
  rw [words_eq, words_eq, lowered, String.toList_ofList, charWords_loweredAfter, List.map_map,
    List.map_map]
  refine List.map_congr_left fun cs _ => ?_
  simp [lowered]

end HexadQuery.Text
