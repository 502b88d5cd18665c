/-
# The words of a text

A text is read word by word, and every text a tree holds is made of words again.  This module says
how words come out of joined texts: two texts with a blank between them have the words of the one
and then of the other (`words_append_space`), words joined by single spaces are the words of the
joined text (`words_joined`), and a text that is `Normal`, which has single spaces inside and no
blank at its ends, is its own words joined (`joined_words`).  What is put behind a text without a
blank meets its last word, and no other (`exists_charWords_append`).

Whatever is cut out of joined words and trimmed is normal (`Spaced.trim`).  That is why fields,
values, payloads and contracts survive being written and read again: the grammar joins the words of
a span by single spaces, cuts the joined text somewhere and trims what it cut, and the printer puts
the piece back between texts of its own.

The difficulty is small and comes up everywhere.  `wordsFrom` is a recursion from the end of the
text, so the natural step lemmas are about a character put in front: it is blank, it stands apart
from what follows, or it touches the first word that follows (`charWords_cons_blank`,
`charWords_cons_apart`, `charWords_cons_touching`).  No other module unfolds the recursion, and
every fact about words is one of the three at each character.

Nothing here counts bytes: where a word stands in the text plays no part, and the first lemmas say
that offsets may be ignored.
-/
import HexadQuery.Token
import Mathlib.Data.List.Chain
import Mathlib.Data.List.TakeWhile

namespace HexadQuery.Text

/-! ## 1. Words as lists of characters

Statements are about `charWords`, lists of lists of characters, because the tools for lists apply
to those.  The last section carries the results over to texts. -/

/-- The words of a text, by their characters. -/
def charWords (cs : List Char) : List (List Char) := (wordsFrom 0 cs).map (·.chars)

/-- A word: it has characters, and none of them is blank. -/
structure IsWord (cs : List Char) : Prop where
  ne_nil : cs ≠ []
  solid : ∀ c ∈ cs, isBlank c = false

instance (cs : List Char) : Decidable (IsWord cs) :=
  decidable_of_iff (cs ≠ [] ∧ cs.all (fun c => !isBlank c) = true)
    ⟨fun h => ⟨h.1, fun c hc => by simpa using List.all_eq_true.mp h.2 c hc⟩,
      fun h => ⟨h.ne_nil, List.all_eq_true.mpr fun c hc => by simp [h.solid c hc]⟩⟩

theorem isBlank_space : isBlank ' ' = true := by decide

/-- What a character is put ahead of counts by its characters alone. -/
theorem map_chars_prepend {offset offset' : Nat} {c : Char} {touches : Bool}
    {later later' : List Word} (h : later.map (·.chars) = later'.map (·.chars)) :
    (prepend offset c touches later).map (·.chars) =
      (prepend offset' c touches later').map (·.chars) := by
  cases touches with
  | false => simp [prepend, h]
  | true =>
    cases later with
    | nil =>
      rw [List.map_eq_nil_iff.mp (h.symm.trans List.map_nil)]
      rfl
    | cons w ws =>
      obtain ⟨v, vs, rfl, hv, hvs⟩ := List.map_eq_cons_iff.mp h.symm
      simp [prepend, hv, hvs]

/-- The offset at which a text starts does not change its words. -/
theorem map_chars_wordsFrom : ∀ (cs : List Char) (offset : Nat),
    (wordsFrom offset cs).map (·.chars) = charWords cs
  | [], _ => rfl
  | c :: cs, offset => by
    have h := (map_chars_wordsFrom cs (offset + c.utf8Size)).trans
      (map_chars_wordsFrom cs (0 + c.utf8Size)).symm
    simp only [charWords, wordsFrom]
    split
    · exact h
    · exact map_chars_prepend h

@[simp] theorem charWords_nil : charWords [] = [] := rfl

theorem charWords_cons_blank {c : Char} (h : isBlank c = true) (cs : List Char) :
    charWords (c :: cs) = charWords cs := by
  rw [← map_chars_wordsFrom (c :: cs) 0, wordsFrom, if_pos h, map_chars_wordsFrom]

/-- A character ahead of a blank, or at the end, is a word of its own. -/
theorem charWords_cons_apart {c : Char} (h : isBlank c = false) {cs : List Char}
    (hcs : ∀ d, cs.head? = some d → isBlank d = true) : charWords (c :: cs) = [c] :: charWords cs := by
  have htouch : (cs.head?.any fun d => !isBlank d) = false := by
    cases cs with
    | nil => rfl
    | cons d cs => simp [hcs d rfl]
  rw [← map_chars_wordsFrom (c :: cs) 0, wordsFrom, if_neg (by simp [h]), htouch]
  simp only [prepend, List.map_cons, map_chars_wordsFrom]

/-- A character that touches a word belongs to it. -/
theorem charWords_cons_touching {c d : Char} (h : isBlank c = false) (h' : isBlank d = false)
    {cs w : List Char} {ws : List (List Char)} (hw : charWords (d :: cs) = w :: ws) :
    charWords (c :: d :: cs) = (c :: w) :: ws := by
  rw [← map_chars_wordsFrom (c :: d :: cs) 0, wordsFrom, if_neg (by simp [h])]
  have htouch : ((d :: cs).head?.any fun d => !isBlank d) = true := by simp [h']
  rw [htouch]
  obtain ⟨v, vs, hx, hv, hvs⟩ :=
    List.map_eq_cons_iff.mp ((map_chars_wordsFrom (d :: cs) (0 + c.utf8Size)).trans hw)
  rw [hx]
  simp [prepend, hv, hvs]

/-- A text that starts with a character that is not blank has a word. -/
theorem charWords_ne_nil {c : Char} (h : isBlank c = false) (cs : List Char) :
    charWords (c :: cs) ≠ [] := by
  rw [← map_chars_wordsFrom (c :: cs) 0, wordsFrom, if_neg (by simp [h])]
  unfold prepend
  split <;> simp

/-- **A blank parts words**: the words on its two sides do not meet. -/
theorem charWords_append_blank {b : Char} (hb : isBlank b = true) (ys : List Char) :
    ∀ xs : List Char, charWords (xs ++ b :: ys) = charWords xs ++ charWords ys
  | [] => charWords_cons_blank hb ys
  | c :: xs => by
    have ih := charWords_append_blank hb ys xs
    cases hc : isBlank c with
    | true => rw [List.cons_append, charWords_cons_blank hc, charWords_cons_blank hc, ih]
    | false =>
      -- what follows `c` decides whether it is a word of its own or begins the next word; the blank
      -- that is put behind `xs` follows it only if `xs` is empty
      cases xs with
      | nil =>
        rw [List.nil_append] at ih
        rw [List.cons_append, List.nil_append, charWords_cons_apart hc (by simp [hb]), ih,
          charWords_cons_apart hc (by simp)]
        rfl
      | cons d xs =>
        cases hd : isBlank d with
        | true =>
          rw [List.cons_append, charWords_cons_apart hc (by simp [hd]), ih,
            charWords_cons_apart hc (by simp [hd])]
          rfl
        | false =>
          obtain ⟨w, ws, hw⟩ := List.exists_cons_of_ne_nil (charWords_ne_nil hd xs)
          have hw' : charWords (d :: (xs ++ b :: ys)) = w :: (ws ++ charWords ys) := by
            rw [← List.cons_append, ih, hw]
            rfl
          rw [charWords_cons_touching hc hd hw]
          exact charWords_cons_touching hc hd hw'

/-- A text that touches a word belongs to it.  The front may be empty, and then nothing is said;
a front without blanks that is not empty is the start of the first word of the whole. -/
theorem charWords_append_touching {ks : List Char} (hks : ∀ k ∈ ks, isBlank k = false) {c : Char}
    (hc : isBlank c = false) {cs w : List Char} {ws : List (List Char)}
    (hw : charWords (c :: cs) = w :: ws) : charWords (ks ++ c :: cs) = (ks ++ w) :: ws := by
  induction ks with
  | nil => exact hw
  | cons k ks ih =>
    have htail := ih fun j hj => hks j (List.mem_cons_of_mem _ hj)
    have hk := hks k List.mem_cons_self
    cases ks with
    | nil => exact charWords_cons_touching hk hc htail
    | cons j ks => exact charWords_cons_touching hk (hks j (by simp)) htail

/-- A word is its only word. -/
theorem IsWord.charWords : ∀ {cs : List Char}, IsWord cs → charWords cs = [cs]
  | [], h => absurd rfl h.ne_nil
  | [c], h => charWords_cons_apart (h.solid c (by simp)) (by simp)
  | c :: d :: cs, h => by
    have hd : IsWord (d :: cs) := ⟨by simp, fun e he => h.solid e (List.mem_cons_of_mem _ he)⟩
    exact charWords_cons_touching (h.solid c (by simp)) (h.solid d (by simp)) hd.charWords

/-- A text without blanks has one word, itself, unless it is empty. -/
theorem charWords_of_solid {ks : List Char} (h : ∀ k ∈ ks, isBlank k = false) :
    charWords ks = if ks = [] then [] else [ks] := by
  split
  · next hnil => rw [hnil, charWords_nil]
  · next hne => exact IsWord.charWords ⟨hne, h⟩

/-- **What stands behind a text meets its last word only**, and the words ahead of that one stay.
The last word is empty here if the text ends in a blank. -/
theorem exists_charWords_append (cs : List Char) : ∃ (front : List (List Char)) (last : List Char),
    (∀ c ∈ last, isBlank c = false) ∧
      ∀ ks : List Char, charWords (cs ++ ks) = front ++ charWords (last ++ ks) := by
  -- the induction is on the end of the text, because what decides is the last character: a blank
  -- closes the last word, any other character makes it longer
  induction cs using List.reverseRecOn with
  | nil => exact ⟨[], [], by simp, fun _ => rfl⟩
  | append_singleton cs c ih =>
    cases hc : isBlank c with
    | true =>
      refine ⟨charWords cs, [], by simp, fun ks => ?_⟩
      rw [List.append_assoc, List.singleton_append, charWords_append_blank hc, List.nil_append]
    | false =>
      obtain ⟨front, last, hlast, happend⟩ := ih
      refine ⟨front, last ++ [c], ?_, fun ks => ?_⟩
      · intro k hk
        rcases List.mem_append.mp hk with hk | hk
        · exact hlast k hk
        · rw [List.mem_singleton.mp hk, hc]
      · rw [List.append_assoc, List.append_assoc, List.singleton_append, happend]

/-- What `charWords` yields are words. -/
theorem isWord_of_mem_charWords {cs w : List Char} (h : w ∈ charWords cs) : IsWord w := by
  obtain ⟨word, hword, rfl⟩ := List.mem_map.mp h
  obtain ⟨hne, hsolid⟩ := chars_of_mem_wordsFrom cs 0 word hword
  exact ⟨hne, hsolid⟩

/-- Words joined by single spaces are the words of the joined text. -/
theorem charWords_intercalate : ∀ {ws : List (List Char)}, (∀ w ∈ ws, IsWord w) →
    charWords ([' '].intercalate ws) = ws
  | [], _ => rfl
  | [w], h => by
    rw [List.intercalate_singleton]
    exact (h w (by simp)).charWords
  | w :: v :: ws, h => by
    rw [List.intercalate_cons_cons, List.append_assoc, List.singleton_append,
      charWords_append_blank isBlank_space, (h w (by simp)).charWords,
      charWords_intercalate fun u hu => h u (List.mem_cons_of_mem _ hu)]
    rfl

/-- Blanks at the end of a text have no part in its words, and neither have those at the front. -/
theorem charWords_append_blanks (cs : List Char) {bs : List Char}
    (h : ∀ b ∈ bs, isBlank b = true) : charWords (cs ++ bs) = charWords cs := by
  induction bs generalizing cs with
  | nil => rw [List.append_nil]
  | cons b bs ih =>
    have hbs := ih [] fun d hd => h d (List.mem_cons_of_mem _ hd)
    rw [charWords_append_blank (h b List.mem_cons_self), ← List.nil_append bs, hbs, charWords_nil,
      List.append_nil]

theorem charWords_blanks_append (cs : List Char) {bs : List Char}
    (h : ∀ b ∈ bs, isBlank b = true) : charWords (bs ++ cs) = charWords cs := by
  induction bs with
  | nil => rfl
  | cons b bs ih =>
    rw [List.cons_append, charWords_cons_blank (h b List.mem_cons_self)]
    exact ih fun d hd => h d (List.mem_cons_of_mem _ hd)

/-- The words of a text are its characters, without the blanks. -/
theorem flatten_charWords : ∀ cs : List Char,
    (charWords cs).flatten = cs.filter fun c => !isBlank c
  | [] => rfl
  | c :: cs => by
    have ih := flatten_charWords cs
    cases hc : isBlank c with
    | true => rw [charWords_cons_blank hc, ih, List.filter_cons_of_neg (by simp [hc])]
    | false =>
      rw [List.filter_cons_of_pos (by simp [hc]), ← ih]
      cases cs with
      | nil =>
        rw [charWords_cons_apart hc (by simp)]
        rfl
      | cons d cs =>
        cases hd : isBlank d with
        | true =>
          rw [charWords_cons_apart hc (by simp [hd])]
          rfl
        | false =>
          obtain ⟨w, ws, hw⟩ := List.exists_cons_of_ne_nil (charWords_ne_nil hd cs)
          rw [charWords_cons_touching hc hd hw, hw]
          rfl

/-- Words joined by single spaces, one after another. -/
theorem intercalate_append_words (front : List (List Char)) {ws : List (List Char)}
    (hne : ws ≠ []) :
    [' '].intercalate (front ++ ws) = front.flatMap (· ++ [' ']) ++ [' '].intercalate ws := by
  induction front with
  | nil => rfl
  | cons w front ih =>
    rw [List.cons_append, List.intercalate_cons_of_ne_nil (by simp [hne]), ih]
    simp

/-- What touches the front of a text is ahead of its first word. -/
theorem intercalate_charWords_append {ks tail : List Char} (hks : ∀ k ∈ ks, isBlank k = false)
    (htail : ∀ c, tail.head? = some c → isBlank c = false) :
    [' '].intercalate (charWords (ks ++ tail)) = ks ++ [' '].intercalate (charWords tail) := by
  cases tail with
  | nil =>
    rw [List.append_nil, charWords_of_solid hks]
    split
    · next hnil => rw [hnil]; rfl
    · rw [List.intercalate_singleton, charWords_nil, List.intercalate_nil, List.append_nil]
  | cons c cs =>
    obtain ⟨w, ws, hw⟩ := List.exists_cons_of_ne_nil (charWords_ne_nil (htail c rfl) cs)
    rw [charWords_append_touching hks (htail c rfl) hw, hw]
    cases ws with
    | nil => simp
    | cons v ws => simp [List.intercalate_cons_cons]

/-- A text that no blank starts keeps its first character when it is cut into words and these are
joined again. -/
theorem head?_intercalate_charWords {c : Char} (hc : isBlank c = false) (cs : List Char) :
    ([' '].intercalate (charWords (c :: cs))).head? = some c := by
  cases cs with
  | nil =>
    rw [charWords_cons_apart hc (by simp)]
    rfl
  | cons d cs =>
    cases hd : isBlank d with
    | true =>
      rw [charWords_cons_apart hc (by simp [hd])]
      cases charWords (d :: cs) <;> rfl
    | false =>
      obtain ⟨w, ws, hw⟩ := List.exists_cons_of_ne_nil (charWords_ne_nil hd cs)
      rw [charWords_cons_touching hc hd hw, List.intercalate_cons_cons_left]
      rfl

/-! ## 2. Texts with single spaces

The texts that cutting and joining give back.  `Spaced` is what a piece of joined words is wherever
it is cut, `Normal` is what trimming makes of it.  Both are said of neighbours and ends, and not as
"the words joined", so that they can be checked of a text that was never cut. -/

/-- Blanks stand alone in the text, and each of them is a space. -/
structure Spaced (cs : List Char) : Prop where
  /-- no tabs and no line breaks -/
  spaces : ∀ c ∈ cs, isBlank c = true → c = ' '
  /-- no two blanks stand together -/
  apart : cs.IsChain fun a b => isBlank a = true → isBlank b = false

/-- A spaced text that no blank starts or ends. -/
structure Normal (cs : List Char) : Prop extends Spaced cs where
  /-- the text starts with no blank -/
  head : ∀ c, cs.head? = some c → isBlank c = false
  /-- and ends with none -/
  last : ∀ c, cs.getLast? = some c → isBlank c = false

/-- What is cut out of a spaced text is spaced. -/
theorem Spaced.within {cs ds : List Char} (h : Spaced cs) (hd : ds <:+: cs) : Spaced ds :=
  ⟨fun c hc => h.spaces c (hd.subset hc), List.IsChain.infix h.apart hd⟩

/-- The form in which a trimmed text uses it: what is left when both ends are cut off. -/
theorem Spaced.middle {as bs cs : List Char} (h : Spaced (as ++ bs ++ cs)) : Spaced bs :=
  h.within ⟨as, cs, rfl⟩

/-- **A normal text is its words joined by single spaces.**  The induction is on the text, one
character at a time; a blank takes the character behind it along, which is none. -/
theorem Normal.intercalate_charWords : ∀ {cs : List Char}, Normal cs →
    [' '].intercalate (charWords cs) = cs
  | [], _ => rfl
  | [c], h => by
    rw [charWords_cons_apart (h.head c rfl) (by simp)]
    rfl
  | c :: d :: cs, h => by
    have hc := h.head c rfl
    cases hd : isBlank d with
    | false =>
      have htail : Normal (d :: cs) :=
        ⟨h.toSpaced.within (List.suffix_cons c _).isInfix, by simp [hd], fun e he =>
          h.last e (by rw [List.getLast?_cons_cons]; exact he)⟩
      obtain ⟨w, ws, hw⟩ := List.exists_cons_of_ne_nil (charWords_ne_nil hd cs)
      have ih := htail.intercalate_charWords
      rw [charWords_cons_touching hc hd hw, List.intercalate_cons_cons_left, ← hw, ih]
    | true =>
      have hspace : d = ' ' := h.spaces d (by simp) hd
      obtain ⟨e, es, rfl⟩ : ∃ e es, cs = e :: es := by
        cases cs with
        | nil => exact absurd (h.last d rfl) (by simp [hd])
        | cons e es => exact ⟨e, es, rfl⟩
      have he : isBlank e = false := by
        have := h.apart
        simp only [List.isChain_cons_cons] at this
        exact this.2.1 hd
      have htail : Normal (e :: es) :=
        ⟨h.toSpaced.within ⟨[c, d], [], by simp⟩, by simp [he], fun f hf =>
          h.last f (by rw [List.getLast?_cons_cons, List.getLast?_cons_cons]; exact hf)⟩
      have ih := htail.intercalate_charWords
      rw [charWords_cons_apart hc (by simp [hd]), charWords_cons_blank hd,
        List.intercalate_cons_of_ne_nil (charWords_ne_nil he es), ih, hspace]
      rfl

/-- Two normal texts put together make one; where they touch there is no blank. -/
theorem Normal.append {as bs : List Char} (ha : Normal as) (hb : Normal bs) :
    Normal (as ++ bs) := by
  refine ⟨⟨?_, ?_⟩, ?_, ?_⟩
  · intro c hc
    rcases List.mem_append.mp hc with hc | hc
    · exact ha.spaces c hc
    · exact hb.spaces c hc
  · refine List.isChain_append.mpr ⟨ha.apart, hb.apart, ?_⟩
    intro c hc d _ hblank
    rw [ha.last c hc] at hblank
    exact absurd hblank (by simp)
  · intro c hc
    rw [List.head?_append] at hc
    cases hh : as.head? with
    | none => exact hb.head c (by simpa [hh] using hc)
    | some d => exact ha.head c (by simpa [hh] using hc)
  · intro c hc
    rw [List.getLast?_append] at hc
    cases hh : bs.getLast? with
    | none => exact ha.last c (by simpa [hh] using hc)
    | some d => exact hb.last c (by simpa [hh] using hc)

/-- Two normal texts joined by a space make a normal text, if both have characters. -/
theorem Normal.append_space {as bs : List Char} (ha : Normal as) (hb : Normal bs)
    (hna : as ≠ []) (hnb : bs ≠ []) : Normal (as ++ ' ' :: bs) := by
  obtain ⟨b, bs, rfl⟩ := List.exists_cons_of_ne_nil hnb
  refine ⟨⟨?_, ?_⟩, ?_, ?_⟩
  · intro c hc hblank
    rcases List.mem_append.mp hc with hc | hc
    · exact ha.spaces c hc hblank
    · rcases List.mem_cons.mp hc with rfl | hc
      · rfl
      · exact hb.spaces c hc hblank
  · -- of two neighbours that meet here one is the space; the other is an end of a normal text
    refine List.isChain_append.mpr ⟨ha.apart, ?_, ?_⟩
    · rw [List.isChain_cons_cons]
      exact ⟨fun _ => hb.head b rfl, hb.apart⟩
    · intro c hc d _ hblank
      rw [ha.last c hc] at hblank
      exact absurd hblank (by simp)
  · intro c hc
    obtain ⟨a, as, rfl⟩ := List.exists_cons_of_ne_nil hna
    exact ha.head c hc
  · intro c hc
    rw [List.getLast?_append, List.getLast?_cons_cons] at hc
    rw [List.getLast?_eq_some_getLast (l := b :: bs) (by simp)] at hc
    exact hb.last c (by rw [List.getLast?_eq_some_getLast (l := b :: bs) (by simp)]; simpa using hc)

/-- The empty text is normal, so a clause with nothing in it needs no case of its own. -/
theorem normal_nil : Normal [] := ⟨⟨by simp, List.IsChain.nil⟩, by simp, by simp⟩

/-- A word has no blank at all, so it is normal for want of a counterexample. -/
theorem IsWord.normal {cs : List Char} (h : IsWord cs) : Normal cs := by
  refine ⟨⟨?_, ?_⟩, ?_, ?_⟩
  · intro c hc hblank
    exact absurd hblank (by simp [h.solid c hc])
  · refine List.Pairwise.isChain (List.pairwise_of_forall_mem_list ?_)
    exact fun a _ b hb _ => h.solid b hb
  · exact fun c hc => h.solid c (List.mem_of_mem_head? hc)
  · exact fun c hc => h.solid c (List.mem_of_mem_getLast? hc)

/-- Joined words are normal. -/
theorem normal_intercalate : ∀ {ws : List (List Char)}, (∀ w ∈ ws, IsWord w) →
    Normal ([' '].intercalate ws)
  | [], _ => normal_nil
  | [w], h => by
    rw [List.intercalate_singleton]
    exact (h w (by simp)).normal
  | w :: v :: ws, h => by
    rw [List.intercalate_cons_cons, List.append_assoc, List.singleton_append]
    have hw := h w (by simp)
    have hv := h v (by simp)
    refine hw.normal.append_space
      (normal_intercalate fun u hu => h u (List.mem_cons_of_mem _ hu)) hw.ne_nil ?_
    intro hnil
    have := charWords_intercalate fun u hu => h u (List.mem_cons_of_mem _ hu)
    rw [hnil] at this
    exact absurd this (by simp)

/-! ## 3. Trimming

Trimming is two `dropWhile`s, one of them on the reversed list.  The section turns that into one
statement, a text is blanks, the trimmed text and blanks (`exists_trimChars_eq`), and what else
there is to know follows from it and from what the ends of a trimmed text are. -/

/-- Trimming cuts blanks off the two ends and nothing else. -/
theorem exists_trimChars_eq (cs : List Char) : ∃ as bs, cs = as ++ trimChars cs ++ bs ∧
    (∀ c ∈ as, isBlank c = true) ∧ ∀ c ∈ bs, isBlank c = true := by
  have hfront : cs.takeWhile isBlank ++ trimFront cs = cs := List.takeWhile_append_dropWhile
  have hback := List.takeWhile_append_dropWhile (p := isBlank) (l := (trimFront cs).reverse)
  refine ⟨cs.takeWhile isBlank, ((trimFront cs).reverse.takeWhile isBlank).reverse, ?_, ?_, ?_⟩
  · have h := congrArg List.reverse hback
    rw [List.reverse_append, List.reverse_reverse] at h
    rw [List.append_assoc, trimChars, trimBack, h, hfront]
  · exact fun c hc => List.mem_takeWhile_imp hc
  · exact fun c hc => List.mem_takeWhile_imp (List.mem_reverse.mp hc)

/-- The character at which dropping blanks stops is not blank. -/
theorem isBlank_head?_dropWhile {cs : List Char} {c : Char}
    (h : (cs.dropWhile isBlank).head? = some c) : isBlank c = false := by
  have := List.head?_dropWhile_not isBlank cs
  rw [h] at this
  exact this

/-- A trimmed text does not end in a blank. -/
theorem isBlank_getLast?_trimChars {cs : List Char} {c : Char}
    (h : (trimChars cs).getLast? = some c) : isBlank c = false := by
  rw [trimChars, trimBack, List.getLast?_reverse] at h
  exact isBlank_head?_dropWhile h

/-- A trimmed text does not start with a blank. -/
theorem isBlank_head?_trimChars {cs : List Char} {c : Char}
    (h : (trimChars cs).head? = some c) : isBlank c = false := by
  have hsub : trimBack (trimFront cs) <+: trimFront cs := by
    rw [← List.reverse_suffix, trimBack, List.reverse_reverse]
    exact List.dropWhile_suffix _
  obtain ⟨more, hmore⟩ := hsub
  have hfront : (trimFront cs).head? = some c → isBlank c = false := isBlank_head?_dropWhile
  refine hfront ?_
  rw [← hmore, List.head?_append]
  change (trimChars cs).head?.or more.head? = some c
  rw [h]
  rfl

/-- Blanks around a trimmed text are trimmed away. -/
theorem trimChars_append_blanks {as cs bs : List Char} (hne : cs ≠ [])
    (hhead : ∀ c, cs.head? = some c → isBlank c = false)
    (hlast : ∀ c, cs.getLast? = some c → isBlank c = false) (has : ∀ c ∈ as, isBlank c = true)
    (hbs : ∀ c ∈ bs, isBlank c = true) : trimChars (as ++ cs ++ bs) = cs := by
  obtain ⟨c, cs, rfl⟩ := List.exists_cons_of_ne_nil hne
  obtain ⟨d, ds, hd⟩ : ∃ d ds, (c :: cs).reverse = d :: ds :=
    List.exists_cons_of_ne_nil (by simp)
  have hblank : isBlank d = false := hlast d (by rw [← List.head?_reverse, hd]; rfl)
  have hfront : trimFront (as ++ (c :: cs) ++ bs) = (c :: cs) ++ bs := by
    rw [trimFront, List.append_assoc, List.dropWhile_append_of_pos has, List.cons_append,
      List.dropWhile_cons, if_neg (by simp [hhead c rfl])]
  rw [trimChars, hfront, trimBack, List.reverse_append,
    List.dropWhile_append_of_pos fun e he => hbs e (List.mem_reverse.mp he), hd,
    List.dropWhile_cons, if_neg (by simp [hblank]), ← hd, List.reverse_reverse]

/-- A text that no blank starts or ends is trimmed. -/
theorem trimChars_eq_self {cs : List Char} (hhead : ∀ c, cs.head? = some c → isBlank c = false)
    (hlast : ∀ c, cs.getLast? = some c → isBlank c = false) : trimChars cs = cs := by
  by_cases hne : cs = []
  · rw [hne]
    rfl
  · have h := trimChars_append_blanks hne hhead hlast (List.forall_mem_nil _) (List.forall_mem_nil _)
    rwa [List.nil_append, List.append_nil] at h

/-- A normal text is trimmed. -/
theorem Normal.trim {cs : List Char} (h : Normal cs) : trimChars cs = cs :=
  trimChars_eq_self h.head h.last

/-- A text trims to nothing exactly when it is blank throughout. -/
theorem trimChars_eq_nil_iff {cs : List Char} :
    trimChars cs = [] ↔ ∀ c ∈ cs, isBlank c = true := by
  constructor
  · intro h c hc
    obtain ⟨as, bs, heq, has, hbs⟩ := exists_trimChars_eq cs
    rw [heq, h, List.append_nil] at hc
    rcases List.mem_append.mp hc with hc | hc
    · exact has c hc
    · exact hbs c hc
  · intro h
    rw [List.eq_nil_iff_forall_not_mem]
    intro c hc
    obtain ⟨as, bs, heq, -, -⟩ := exists_trimChars_eq cs
    obtain ⟨d, ds, hd⟩ := List.exists_cons_of_ne_nil (List.ne_nil_of_mem hc)
    have hhead : (trimChars cs).head? = some d := by rw [hd]; rfl
    have hblank : isBlank d = false := isBlank_head?_trimChars hhead
    have hmem : d ∈ cs := by
      rw [heq, hd]
      simp
    exact absurd (h d hmem) (by simp [hblank])

/-- What is cut out of a spaced text and trimmed is normal. -/
theorem Spaced.trim {cs : List Char} (h : Spaced cs) : Normal (trimChars cs) := by
  obtain ⟨as, bs, heq, -, -⟩ := exists_trimChars_eq cs
  refine ⟨?_, fun c => isBlank_head?_trimChars, fun c => isBlank_getLast?_trimChars⟩
  rw [heq] at h
  exact h.middle

/-- **A spaced text, trimmed, is its words joined by single spaces.**  Trimming leaves a normal
text with the same words. -/
theorem Spaced.trim_eq {cs : List Char} (h : Spaced cs) :
    trimChars cs = [' '].intercalate (charWords cs) := by
  obtain ⟨as, bs, heq, has, hbs⟩ := exists_trimChars_eq cs
  have hwords : charWords cs = charWords (trimChars cs) := by
    conv_lhs => rw [heq]
    rw [charWords_append_blanks _ hbs, charWords_blanks_append _ has]
  rw [hwords, h.trim.intercalate_charWords]

/-- Trimming leaves a text that starts with two characters starting with them.  What is trimmed
at the end are blanks, which the first two characters are not. -/
theorem exists_trimChars_cons {c d : Char} (hc : isBlank c = false) (hd : isBlank d = false)
    (cs : List Char) : ∃ more, trimChars (c :: d :: cs) = c :: d :: more := by
  obtain ⟨as, bs, heq, has, hbs⟩ := exists_trimChars_eq (c :: d :: cs)
  have hne : ∀ {e : Char} {es : List Char}, isBlank e = false → bs ≠ e :: es := by
    rintro e es he rfl
    exact absurd (hbs e List.mem_cons_self) (by simp [he])
  obtain rfl : as = [] := by
    cases as with
    | nil => rfl
    | cons a as =>
      obtain rfl : c = a := (List.cons.inj heq).1
      exact absurd (has c List.mem_cons_self) (by simp [hc])
  match htrim : trimChars (c :: d :: cs) with
  | [] => exact absurd (htrim ▸ heq).symm (hne hc)
  | [_] => exact absurd (List.tail_eq_of_cons_eq (htrim ▸ heq)).symm (hne hd)
  | a :: b :: ts =>
    rw [htrim] at heq
    have hhead : c = a := (List.cons.inj heq).1
    have hnext : d = b := (List.cons.inj (List.cons.inj heq).2).1
    exact ⟨ts, by rw [hhead, hnext]⟩

/-- The last character of a trimmed text is the last one that is not blank. -/
theorem getLast?_trimChars (cs : List Char) :
    (trimChars cs).getLast? = (cs.reverse.dropWhile isBlank).head? := by
  have hfront : cs.reverse = (trimFront cs).reverse ++ (cs.takeWhile isBlank).reverse := by
    rw [← List.reverse_append, trimFront, List.takeWhile_append_dropWhile]
  have hblank : (cs.takeWhile isBlank).reverse.dropWhile isBlank = [] :=
    List.dropWhile_eq_nil_iff.mpr fun c hc => List.mem_takeWhile_imp (List.mem_reverse.mp hc)
  rw [trimChars, trimBack, List.getLast?_reverse, hfront, List.dropWhile_append, hblank]
  split
  · next hnil => rw [List.isEmpty_iff.mp hnil]
  · next hcons =>
    rw [List.head?_append_of_ne_nil _ (mt List.isEmpty_iff.mpr hcons)]

/-- Blanks behind a text are trimmed away, whatever the text. -/
theorem trimChars_append_right (cs : List Char) {bs : List Char}
    (h : ∀ b ∈ bs, isBlank b = true) : trimChars (cs ++ bs) = trimChars cs := by
  have hbs : bs.dropWhile isBlank = [] := List.dropWhile_eq_nil_iff.mpr h
  rw [trimChars, trimFront, List.dropWhile_append, hbs]
  split
  · next hnil => rw [trimChars, trimFront, List.isEmpty_iff.mp hnil]
  · rw [trimBack, List.reverse_append,
      List.dropWhile_append_of_pos fun b hb => h b (List.mem_reverse.mp hb)]
    rfl

section Map

variable {f : Char → Char}

/-- A change of characters that keeps blanks and others apart commutes with trimming. -/
theorem trimChars_map (h : ∀ c, isBlank (f c) = isBlank c) (cs : List Char) :
    trimChars (cs.map f) = (trimChars cs).map f := by
  have hf : isBlank ∘ f = isBlank := funext h
  simp only [trimChars, trimBack, trimFront, List.dropWhile_map, ← List.map_reverse, hf]

/-- The same for marks at the end, if the change keeps the mark and the others apart. -/
theorem cutTrailing_map {mark : Char} (h : ∀ c, (f c == mark) = (c == mark)) (cs : List Char) :
    cutTrailing mark (cs.map f) = (cutTrailing mark cs).map f := by
  have hf : (· == mark) ∘ f = (· == mark) := funext h
  simp only [cutTrailing, List.dropWhile_map, ← List.map_reverse, hf]

end Map

/-! ## 4. Texts

The same for texts, which is the form the other modules use. -/

/-- Words of a text by its characters: what opens every lemma of this section. -/
theorem words_eq (s : String) : words s = (charWords s.toList).map String.ofList := by
  simp only [words, charWords, List.map_map]
  rfl

/-- What `words` yields are words. -/
theorem isWord_of_mem_words {s w : String} (h : w ∈ words s) : IsWord w.toList := by
  rw [words_eq] at h
  obtain ⟨cs, hcs, rfl⟩ := List.mem_map.mp h
  rw [String.toList_ofList]
  exact isWord_of_mem_charWords hcs

/-- Trimming does not change the words. -/
theorem words_trim (s : String) : words (trim s) = words s := by
  obtain ⟨as, bs, hcut, has, hbs⟩ := exists_trimChars_eq s.toList
  rw [words_eq, words_eq, trim, String.toList_ofList]
  conv_rhs => rw [hcut, charWords_append_blanks _ hbs, charWords_blanks_append _ has]

/-- The words of two texts with a space between them. -/
theorem words_append_space (a b : String) : words (a ++ " " ++ b) = words a ++ words b := by
  simp only [words_eq, String.toList_append, List.append_assoc]
  rw [show (" " : String).toList = [' '] from rfl, List.singleton_append,
    charWords_append_blank isBlank_space, List.map_append]

/-- Texts that a blank parts, on either side of the cut. -/
theorem words_append {a b : String}
    (h : (∀ c, a.toList.getLast? = some c → isBlank c = true) ∨
      ∀ c, b.toList.head? = some c → isBlank c = true) : words (a ++ b) = words a ++ words b := by
  simp only [words_eq, String.toList_append, ← List.map_append]
  congr 1
  rcases h with h | h
  · rcases List.eq_nil_or_concat a.toList with ha | ⟨front, blank, ha⟩
    · rw [ha, List.nil_append, charWords_nil, List.nil_append]
    · have hblank : isBlank blank = true := h blank (by rw [ha, List.concat_eq_append]; simp)
      rw [ha, List.concat_eq_append, List.append_assoc, List.singleton_append,
        charWords_append_blank hblank, charWords_append_blank hblank, charWords_nil,
        List.append_nil]
  · cases hb : b.toList with
    | nil => rw [List.append_nil, charWords_nil, List.append_nil]
    | cons blank more =>
      have hblank : isBlank blank = true := h blank (by rw [hb]; rfl)
      rw [charWords_append_blank hblank, charWords_cons_blank hblank]

/-- A blank text has no words. -/
theorem words_of_blanks {blanks : String} (h : ∀ c ∈ blanks.toList, isBlank c = true) :
    words blanks = [] := by
  have hblanks := charWords_append_blanks [] h
  rw [List.nil_append, charWords_nil] at hblanks
  rw [words_eq, hblanks, List.map_nil]

/-- A word has one. -/
theorem words_of_isWord {s : String} (h : IsWord s.toList) : words s = [s] := by
  rw [words_eq, h.charWords, List.map_singleton, String.ofList_toList]

/-- **Words joined by single spaces are the words of the joined text.**  No word is empty and
none has a blank, so the spaces put in are where words end. -/
theorem words_joined {ws : List String} (h : ∀ w ∈ ws, IsWord w.toList) :
    words (" ".intercalate ws) = ws := by
  have hws : ∀ w ∈ ws.map String.toList, IsWord w := by
    intro w hw
    obtain ⟨v, hv, rfl⟩ := List.mem_map.mp hw
    exact h v hv
  rw [words_eq, String.toList_intercalate]
  change (charWords ([' '].intercalate (ws.map String.toList))).map String.ofList = ws
  rw [charWords_intercalate hws, List.map_map]
  simp

/-- **A normal text is its words joined by single spaces.** -/
theorem joined_words {s : String} (h : Normal s.toList) : " ".intercalate (words s) = s := by
  rw [← String.toList_inj, String.toList_intercalate, words_eq, List.map_map]
  have : (String.toList ∘ String.ofList) = id := by
    funext cs
    simp
  rw [this, List.map_id]
  exact h.intercalate_charWords

/-- Joined words are normal, whatever the words. -/
theorem normal_joined {ws : List String} (h : ∀ w ∈ ws, IsWord w.toList) :
    Normal (" ".intercalate ws).toList := by
  rw [String.toList_intercalate]
  refine normal_intercalate ?_
  intro w hw
  obtain ⟨v, hv, rfl⟩ := List.mem_map.mp hw
  exact h v hv

end HexadQuery.Text

namespace HexadQuery

/-- The parts of a comma list stand in it. -/
theorem infix_intercalate {p : List Char} {ps : List (List Char)} (hp : p ∈ ps) :
    p <:+: [','].intercalate ps := by
  induction ps with
  | nil => exact absurd hp (by simp)
  | cons q ps ih =>
    by_cases hne : ps = []
    · subst hne
      exact ⟨[], [], by simp [List.mem_singleton.mp hp]⟩
    · rw [List.intercalate_cons_of_ne_nil hne]
      rcases List.mem_cons.mp hp with rfl | hp
      · exact ⟨[], [','] ++ [','].intercalate ps, by simp⟩
      · exact (ih hp).trans (List.suffix_append _ _).isInfix

/-- The tokens of a text are its words. -/
theorem map_text_tokenize (input : String) : (tokenize input).map (·.text) = Text.words input := by
  have h := List.zipIdx_map_fst 0 (Text.wordsFrom 0 input.toList)
  calc (tokenize input).map (·.text)
      = ((Text.wordsFrom 0 input.toList).zipIdx.map Prod.fst).map
          (fun w => String.ofList w.chars) := by
        simp only [tokenize, List.map_map]
        rfl
    _ = Text.words input := by rw [h, Text.words]

end HexadQuery
