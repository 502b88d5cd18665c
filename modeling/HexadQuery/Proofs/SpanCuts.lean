/-
# Cutting a span loses nothing

`cut` splits the characters of a span at the commas the scan meets at the top, and `piece?` trims a
segment and finds out which token it starts in.  Here the pieces are put back: a span, as the scan
meets it, is runs with gaps between them (`laidOut`), each run the text of one piece and each gap
blanks and separating commas met outside quotes and parentheses (`Parted`).

Two things have to be carried along.  A segment is cut off anywhere inside a token, so what it
holds are words of consecutive tokens only after its ends are trimmed (`eq_placed`, from
`exists_ofWords_suffix` and `exists_ofWords_prefix`).  And the blanks around a run are met at the
top because a separator was, or the start of the span: blanks keep the level
(`Scan.level_feedAll_blank`).  Behind the last run there are none, because a span does not end in a
space (`getLast?_ofWords`).

Conversely a span is parted in ONE way only: a gap ends the segment of the run ahead of it, at a
separator or with the span, and adds nothing to its piece (`Parted.pieces_eq`).

The end of a span is no cut: the last piece may leave a parenthesis open, or, where quotes count, a
quote.  Reading the span again without quotes is what `assignmentPieces` does in the second case.

In the source the two readings are one function, `split_assignments`, with a flag for quotes;
`assignment_pieces` calls it with quotes first.  It returns a piece as a text and the position of
the token it starts in, and errors about an assignment point there.  So positions are part of what
a cut has to get right: they are those of the tokens (`Parted.positions_sublist`), and the text of
a piece is what these tokens hold, a single space at each token end (`AssignmentPiece.placed`).

The characters of a span carry the position of their token, and the spaces between tokens carry
none.  The scan that meets them is kept beside each (`Scanned`), since whether a comma separates is
decided by the scan at that place and can not be seen from the comma.
-/
import HexadQuery.Proofs.AssignmentSpans
import HexadQuery.Proofs.TokenRuns

namespace HexadQuery

open Text

/-! ## 1. The scan over a span

`Scan.meets` is the run of the scan, written down.  The lemmas take it apart where the span is
taken apart: in front, into parts, at its first character. -/

/-- A character of a span, and the scan that meets it. -/
structure Scanned extends SpanChar where
  scan : Scan

/-- The characters of a span as a scan meets them. -/
def Scan.meets (scan : Scan) : List SpanChar → List Scanned
  | [] => []
  | c :: cs => ⟨c, scan⟩ :: (scan.feed c.char).meets cs

namespace Scanned

/-- Whether the character separates: a comma that is met outside quotes and parentheses. -/
def separates (m : Scanned) : Bool := m.char == ',' && m.scan.isTop

/-- Whether the character can stand between two pieces: a blank or a comma, met outside quotes and
parentheses. -/
def isOutside (m : Scanned) : Bool := m.scan.isTop && (isBlank m.char || m.char == ',')

end Scanned

namespace Scan

/-- Forgetting the scans leaves the span. -/
theorem map_meets (scan : Scan) (cs : List SpanChar) :
    (scan.meets cs).map (·.toSpanChar) = cs := by
  induction cs generalizing scan with
  | nil => rfl
  | cons c cs ih => rw [meets, List.map_cons, ih]

theorem map_char_meets (scan : Scan) (cs : List SpanChar) :
    (scan.meets cs).map (·.char) = SpanChar.chars cs := by
  conv_rhs => rw [SpanChar.chars, ← map_meets scan cs, List.map_map]
  rfl

/-- The first character is in the token it is in. -/
theorem bind_head?_meets (scan : Scan) (cs : List SpanChar) :
    (scan.meets cs).head?.bind (·.position) = cs.head?.bind (·.position) := by
  cases cs with
  | nil => rfl
  | cons c cs => rfl

/-- **The second part of a span is met by the scan that the first has left.**  So whether a comma
separates can be asked of a part of the span, with the scan that comes to it. -/
theorem meets_append (scan : Scan) (as bs : List SpanChar) :
    scan.meets (as ++ bs) = scan.meets as ++ (scan.feedAll (SpanChar.chars as)).meets bs := by
  induction as generalizing scan with
  | nil => rfl
  | cons c as ih =>
    rw [List.cons_append, meets, ih, meets, List.cons_append]
    rfl

/-- What holds of the characters has nothing to do with the scans. -/
theorem forall_mem_meets {scan : Scan} {cs : List SpanChar} {p : SpanChar → Prop} :
    (∀ m ∈ scan.meets cs, p m.toSpanChar) ↔ ∀ c ∈ cs, p c := by
  conv_rhs => rw [← map_meets scan cs]
  exact List.forall_mem_map.symm

/-- What holds of all that is met holds in both parts. -/
theorem forall_mem_meets_append {scan : Scan} {as bs : List SpanChar} {p : Scanned → Prop} :
    (∀ m ∈ scan.meets (as ++ bs), p m) ↔ (∀ m ∈ scan.meets as, p m) ∧
      ∀ m ∈ (scan.feedAll (SpanChar.chars as)).meets bs, p m := by
  rw [meets_append, List.forall_mem_append]

/-- Blanks are met on one level. -/
theorem isTop_of_mem_meets {cs : List SpanChar} (h : ∀ c ∈ cs, isBlank c.char = true)
    (scan : Scan) : ∀ m ∈ scan.meets cs, m.scan.isTop = scan.isTop := by
  induction cs generalizing scan with
  | nil => simp [meets]
  | cons c cs ih =>
    have hlevel := (level_feed_parts (parts_of_isBlank (h c List.mem_cons_self)) scan).isTop
    rintro m (_ | ⟨_, hm⟩)
    · rfl
    · rw [ih (fun d hd => h d (List.mem_cons_of_mem _ hd)) _ m hm, hlevel]

/-- So blanks behind a separator can stand between two pieces. -/
theorem isOutside_of_mem_meets {cs : List SpanChar} (h : ∀ c ∈ cs, isBlank c.char = true)
    {scan : Scan} (htop : scan.isTop = true) : ∀ m ∈ scan.meets cs, m.isOutside = true := by
  intro m hm
  have hblank : isBlank m.char = true := forall_mem_meets.mpr h m hm
  rw [Scanned.isOutside, isTop_of_mem_meets h scan m hm, htop, hblank]
  rfl

end Scan

/-! ## 2. Segments

From the cut to one segment at a time: up to the first separator, and from there on. -/

namespace SpanChar

/-- The pieces of the segments of a span. -/
def pieces (scan : Scan) (cs : List SpanChar) : List AssignmentPiece :=
  ((cut scan cs).1 :: (cut scan cs).2).filterMap piece?

/-- What does not separate stays in the first segment. -/
theorem cut_append {scan : Scan} {as : List SpanChar}
    (h : ∀ m ∈ scan.meets as, m.separates = false) (bs : List SpanChar) :
    cut scan (as ++ bs) = (as ++ (cut (scan.feedAll (chars as)) bs).1,
      (cut (scan.feedAll (chars as)) bs).2) := by
  induction as generalizing scan with
  | nil => rfl
  | cons c as ih =>
    obtain ⟨hc, has⟩ := List.forall_mem_cons.mp h
    have hsep : (c.char == ',' && scan.isTop) = false := hc
    rw [List.cons_append, cut, ih has]
    simp [hsep, chars]

/-- The piece of the first segment, if it has one, and the others. -/
theorem pieces_eq (scan : Scan) (cs : List SpanChar) : pieces scan cs =
    (piece? (cut scan cs).1).toList ++ (cut scan cs).2.filterMap piece? := by
  rw [pieces]
  cases hpiece : piece? (cut scan cs).1 with
  | none =>
    rw [List.filterMap_cons_none hpiece]
    rfl
  | some piece =>
    rw [List.filterMap_cons_some hpiece]
    rfl

/-- What does not separate is put ahead of the first piece behind it. -/
theorem pieces_append {scan : Scan} {as : List SpanChar}
    (h : ∀ m ∈ scan.meets as, m.separates = false) (bs : List SpanChar) :
    pieces scan (as ++ bs) = (piece? (as ++ (cut (scan.feedAll (chars as)) bs).1)).toList ++
      (cut (scan.feedAll (chars as)) bs).2.filterMap piece? := by
  rw [pieces_eq, cut_append h]

/-- A separator ends the first segment. -/
theorem cut_separator {scan : Scan} {c : SpanChar} (hc : c.char = ',') (htop : scan.isTop = true)
    (cs : List SpanChar) : cut scan (c :: cs) =
      ([], (cut (scan.feed ',') cs).1 :: (cut (scan.feed ',') cs).2) := by
  simp [cut, hc, htop]

/-- In a span nothing separates, or there is a first character that does. -/
theorem separator_cases (scan : Scan) (cs : List SpanChar) :
    (∀ m ∈ scan.meets cs, m.separates = false) ∨
    ∃ front c back, cs = front ++ c :: back ∧ (∀ m ∈ scan.meets front, m.separates = false) ∧
      c.char = ',' ∧ (scan.feedAll (chars front)).isTop = true := by
  induction cs generalizing scan with
  | nil => exact .inl (List.forall_mem_nil _)
  | cons c cs ih =>
    cases hsep : c.char == ',' && scan.isTop with
    | true =>
      obtain ⟨hc, htop⟩ := (Bool.and_eq_true _ _).mp hsep
      exact .inr ⟨[], c, cs, rfl, List.forall_mem_nil _, beq_iff_eq.mp hc, htop⟩
    | false =>
      have hhead : (⟨c, scan⟩ : Scanned).separates = false := hsep
      rcases ih (scan.feed c.char) with hall | ⟨front, d, back, rfl, hfront, hd, htop⟩
      · exact .inl (List.forall_mem_cons.mpr ⟨hhead, hall⟩)
      · exact .inr ⟨c :: front, d, back, rfl, List.forall_mem_cons.mpr ⟨hhead, hfront⟩, hd, htop⟩

/-- Blanks belong to no token. -/
theorem Placed.findSome?_blank {cs : List SpanChar} (h : Placed cs)
    (hblank : ∀ c ∈ cs, isBlank c.char = true) : cs.findSome? (·.position) = none :=
  List.findSome?_eq_none_iff.mpr fun c hc => (h c hc).mpr (hblank c hc)

/-- Both parts of a placed text are placed. -/
theorem placed_append {as bs : List SpanChar} : Placed (as ++ bs) ↔ Placed as ∧ Placed bs :=
  List.forall_mem_append

/-- A segment is blank, or it is a run with blanks around it, whose piece stands where the run
does.  Blanks have no position, so the position of the segment is one of the run. -/
theorem exists_run {cs : List SpanChar} (h : Placed cs) :
    (piece? cs = none ∧ ∀ c ∈ cs, isBlank c.char = true) ∨
    ∃ before run after position, cs = before ++ run ++ after ∧
      (∀ c ∈ before, isBlank c.char = true) ∧ (∀ c ∈ after, isBlank c.char = true) ∧
      run.head?.bind (·.position) = some position ∧
      (∃ c, run.getLast? = some c ∧ c.position ≠ none) ∧
      piece? cs = some ⟨String.ofList (chars run), position⟩ := by
  cases hposition : cs.findSome? (·.position) with
  | none =>
    refine .inl ⟨by rw [piece?, hposition]; rfl, fun c hc => ?_⟩
    exact (h c hc).mp (List.findSome?_eq_none_iff.mp hposition c hc)
  | some position =>
    right
    obtain ⟨front, back, hcs, hfront, hback⟩ := exists_trimChars_eq (chars cs)
    obtain ⟨left, after, rfl, hleft, rfl⟩ := List.map_eq_append_iff.mp hcs
    obtain ⟨before, run, rfl, rfl, hrun⟩ := List.map_eq_append_iff.mp hleft
    have hbefore : ∀ c ∈ before, isBlank c.char = true :=
      fun c hc => hfront _ (List.mem_map_of_mem hc)
    have hafter : ∀ c ∈ after, isBlank c.char = true :=
      fun c hc => hback _ (List.mem_map_of_mem hc)
    have hplaced : ∀ c ∈ run, isBlank c.char = false → c.position ≠ none := by
      intro c hc hsolid hnone
      have hblank := (h c (by simp [hc])).mp hnone
      rw [hsolid] at hblank
      cases hblank
    obtain ⟨hleft, hright⟩ := placed_append.mp h
    have hnone := (placed_append.mp hleft).1.findSome?_blank hbefore
    have hnone' := hright.findSome?_blank hafter
    rw [List.findSome?_append, List.findSome?_append, hnone, hnone', Option.none_or,
      Option.or_none] at hposition
    refine ⟨before, run, after, position, rfl, hbefore, hafter, ?_, ?_, ?_⟩
    · cases run with
      | nil => cases hposition
      | cons c run =>
        have hsolid : isBlank c.char = false := isBlank_head?_trimChars (by rw [← hrun]; rfl)
        obtain ⟨q, hq⟩ := Option.ne_none_iff_exists'.mp (hplaced c List.mem_cons_self hsolid)
        simpa [hq] using hposition
    · -- the run has a position, so it is not empty; its last character is no blank
      have hne : run ≠ [] := by
        rintro rfl
        cases hposition
      have hlast := List.getLast?_eq_some_getLast hne
      have htrim : (trimChars (chars (before ++ run ++ after))).getLast? =
          some (run.getLast hne).char := by
        rw [← hrun, List.getLast?_map, hlast]
        rfl
      exact ⟨run.getLast hne, hlast,
        hplaced _ (List.getLast_mem hne) (isBlank_getLast?_trimChars htrim)⟩
    · rw [piece?, List.findSome?_append, List.findSome?_append, hnone, hnone', Option.none_or,
        Option.or_none, hposition, chars, hrun]
      rfl

/-! ## 3. Words of consecutive tokens

What can be cut out of a span.  `ofWords` is a span by its words; a part of it that begins and ends
inside words is a span again, but for the space ahead. -/

/-- The characters of words on consecutive tokens, a space ahead of each. -/
def ofWords (position : Nat) : List (List Char) → List SpanChar
  | [] => []
  | word :: words =>
    ⟨' ', none⟩ :: ((word.map fun c => ⟨c, some position⟩) ++ ofWords (position + 1) words)

variable {words : List (List Char)} {position : Nat} {as bs : List SpanChar}

/-- A span begins with a space. -/
theorem head?_ofWords {c : SpanChar} (h : (ofWords position words).head? = some c) :
    c.position = none := by
  cases words with
  | nil => exact absurd h (by simp [ofWords])
  | cons word words =>
    obtain rfl : (⟨' ', none⟩ : SpanChar) = c := by simpa [ofWords] using h
    rfl

/-- What ends a span and starts inside a word is words again. -/
theorem exists_ofWords_suffix (hwords : ∀ w ∈ words, IsWord w)
    (h : ofWords position words = as ++ bs) (hbs : ∃ c, bs.head? = some c ∧ c.position ≠ none) :
    ∃ position' words', (∀ w ∈ words', IsWord w) ∧
      ⟨' ', none⟩ :: bs = ofWords position' words' := by
  obtain ⟨c, hc, hplaced⟩ := hbs
  induction words generalizing position as with
  | nil =>
    obtain ⟨-, rfl⟩ := List.append_eq_nil_iff.mp h.symm
    exact absurd hc (by simp)
  | cons word words ih =>
    obtain ⟨hword, hrest⟩ := List.forall_mem_cons.mp hwords
    cases as with
    | nil =>
      rw [List.nil_append] at h
      rw [← h] at hc
      exact absurd (head?_ofWords hc) hplaced
    | cons a as =>
      rw [ofWords, List.cons_append] at h
      rcases List.append_eq_append_iff.mp (List.tail_eq_of_cons_eq h) with
        ⟨zs, -, hzs⟩ | ⟨zs, hcut, rfl⟩
      · exact ih hrest hzs
      · -- it begins in this word, and the rest of the word is one
        obtain ⟨front, back, rfl, -, rfl⟩ := List.map_eq_append_iff.mp hcut
        have hne : back ≠ [] := by
          rintro rfl
          rw [List.map_nil, List.nil_append] at hc
          exact hplaced (head?_ofWords hc)
        have hback : IsWord back :=
          ⟨hne, fun c hc => hword.solid c (List.mem_append_right _ hc)⟩
        exact ⟨position, back :: words, List.forall_mem_cons.mpr ⟨hback, hrest⟩, rfl⟩

/-- What starts a span and ends inside a word is words again. -/
theorem exists_ofWords_prefix (hwords : ∀ w ∈ words, IsWord w)
    (h : ofWords position words = as ++ bs) (has : ∃ c, as.getLast? = some c ∧ c.position ≠ none) :
    ∃ words', (∀ w ∈ words', IsWord w) ∧ as = ofWords position words' := by
  obtain ⟨c, hc, hplaced⟩ := has
  induction words generalizing position as with
  | nil =>
    obtain ⟨rfl, -⟩ := List.append_eq_nil_iff.mp h.symm
    exact absurd hc (by simp)
  | cons word words ih =>
    obtain ⟨hword, hrest⟩ := List.forall_mem_cons.mp hwords
    cases as with
    | nil => exact absurd hc (by simp)
    | cons a as =>
      rw [ofWords, List.cons_append, List.cons.injEq] at h
      obtain ⟨rfl, h⟩ := h
      rcases List.append_eq_append_iff.mp h with ⟨zs, rfl, hzs⟩ | ⟨zs, hcut, rfl⟩
      · by_cases hnil : zs = []
        · refine ⟨[word], by simpa using hword, ?_⟩
          rw [hnil]
          rfl
        · rw [← List.cons_append, List.getLast?_append_of_ne_nil _ hnil] at hc
          obtain ⟨words', hwords', rfl⟩ := ih hrest hzs hc
          exact ⟨word :: words', List.forall_mem_cons.mpr ⟨hword, hwords'⟩, rfl⟩
      · -- it ends in this word, and its beginning is a word
        obtain ⟨front, back, rfl, rfl, -⟩ := List.map_eq_append_iff.mp hcut
        have hne : front ≠ [] := by
          rintro rfl
          obtain rfl : (⟨' ', none⟩ : SpanChar) = c := by simpa using hc
          exact hplaced rfl
        have hfront : IsWord front :=
          ⟨hne, fun c hc => hword.solid c (List.mem_append_left _ hc)⟩
        exact ⟨[front], by simpa using hfront, by simp [ofWords]⟩

/-- Its blanks are the spaces, and they have no position. -/
theorem placed_ofWords (hwords : ∀ w ∈ words, IsWord w) : Placed (ofWords position words) := by
  induction words generalizing position with
  | nil => simp [Placed, ofWords]
  | cons word words ih =>
    obtain ⟨hword, hrest⟩ := List.forall_mem_cons.mp hwords
    intro c hc
    rw [ofWords, List.mem_cons, List.mem_append] at hc
    rcases hc with rfl | hc | hc
    · simp [isBlank_space]
    · obtain ⟨d, hd, rfl⟩ := List.mem_map.mp hc
      simp [hword.solid d hd]
    · exact ih hrest c hc

/-- A span does not end in a space. -/
theorem getLast?_ofWords (hwords : ∀ w ∈ words, IsWord w) {c : SpanChar}
    (h : (ofWords position words).getLast? = some c) : c.position ≠ none := by
  induction words generalizing position with
  | nil => cases h
  | cons word words ih =>
    obtain ⟨hword, hrest⟩ := List.forall_mem_cons.mp hwords
    obtain ⟨d, word, rfl⟩ := List.exists_cons_of_ne_nil hword.ne_nil
    cases words with
    | nil =>
      have hmem : c ∈ (d :: word).map fun c => (⟨c, some position⟩ : SpanChar) := by
        refine List.mem_of_mem_getLast? ?_
        simpa [ofWords, List.getLast?_cons_cons] using h
      obtain ⟨e, -, rfl⟩ := List.mem_map.mp hmem
      simp
    | cons next words =>
      refine @ih (position + 1) hrest ?_
      rw [ofWords, ← List.cons_append, List.getLast?_append_of_ne_nil _ (by simp [ofWords])] at h
      exact h

/-- The words of a span.  The space ahead of each further word is a blank, so no two of them
meet. -/
theorem charWords_chars_ofWords (hwords : ∀ w ∈ words, IsWord w) :
    charWords (chars (ofWords position words)) = words := by
  induction words generalizing position with
  | nil => rfl
  | cons word words ih =>
    obtain ⟨hword, hrest⟩ := List.forall_mem_cons.mp hwords
    have hchars : chars (ofWords position (word :: words)) =
        ' ' :: (word ++ chars (ofWords (position + 1) words)) := by
      simp [chars, ofWords, Function.comp_def]
    rw [hchars, charWords_cons_blank isBlank_space]
    cases words with
    | nil => simpa [chars, ofWords] using hword.charWords
    | cons next words =>
      have hnext := @ih (position + 1) hrest
      rw [ofWords] at hnext ⊢
      rw [chars, List.map_cons, charWords_append_blank isBlank_space, hword.charWords,
        ← charWords_cons_blank isBlank_space]
      rw [chars, List.map_cons] at hnext
      rw [hnext]
      rfl

end SpanChar

/-- The characters of a piece and their tokens: its words belong to consecutive tokens, from the
token it starts in on, and a single space stands between two words. -/
def AssignmentPiece.placed (piece : AssignmentPiece) : List SpanChar :=
  (SpanChar.ofWords piece.position (charWords piece.text.toList)).tail

namespace SpanChar

variable {words : List (List Char)} {start : Nat}

/-- **What is cut out of a span between two characters of words** is placed like a piece.  Its
ends are characters of words, so what is left of the words at its ends are words, and the spaces
inside it are those between tokens. -/
theorem eq_placed (hwords : ∀ w ∈ words, IsWord w) {run : List SpanChar}
    (hrun : run <:+: ofWords start words) {position : Nat}
    (hhead : run.head?.bind (·.position) = some position)
    (hlast : ∃ c, run.getLast? = some c ∧ c.position ≠ none) :
    run = AssignmentPiece.placed ⟨String.ofList (chars run), position⟩ := by
  obtain ⟨as, bs, hcut⟩ := hrun
  obtain ⟨c, hc, hposition⟩ := Option.bind_eq_some_iff.mp hhead
  obtain ⟨run, rfl⟩ : ∃ rest, run = c :: rest := by
    cases run with
    | nil => cases hc
    | cons d run =>
      obtain rfl : d = c := by simpa using hc
      exact ⟨run, rfl⟩
  rw [List.append_assoc] at hcut
  obtain ⟨first, words', hwords', hends⟩ := exists_ofWords_suffix hwords hcut.symm
    ⟨c, rfl, by simp [hposition]⟩
  rw [List.cons_append, ← List.cons_append, ← List.cons_append] at hends
  obtain ⟨words'', hwords'', hbegins⟩ := exists_ofWords_prefix hwords' hends.symm
    (by simpa [List.getLast?_cons_cons] using hlast)
  have htexts : charWords (chars (c :: run)) = words'' := by
    rw [← @charWords_chars_ofWords _ first hwords'', ← hbegins]
    exact (charWords_cons_blank isBlank_space _).symm
  have hfirst : first = position := by
    cases words'' with
    | nil => cases hbegins
    | cons word words'' =>
      obtain ⟨d, word, rfl⟩ :=
        List.exists_cons_of_ne_nil (hwords'' _ List.mem_cons_self).ne_nil
      rw [ofWords, List.cons.injEq, List.map_cons, List.cons_append, List.cons.injEq] at hbegins
      rw [hbegins.2.1] at hposition
      exact Option.some.inj hposition
  rw [AssignmentPiece.placed, String.toList_ofList, htexts, ← hfirst, ← hbegins, List.tail_cons]

end SpanChar

/-! ## 4. Pieces and what is between them

The relation.  It is a statement about the characters with their scans, so that "separates" and
"outside" are said of characters and not of places. -/

/-- Pieces in a span: each is a run of characters, which are its text, in which nothing separates
and which starts outside quotes and parentheses, in the token the piece stands at.  What is ahead of
the first run, between two runs and behind the last are blanks and commas met outside; one of those
between two runs separates them. -/
inductive Parted : List Scanned → List (List Scanned × List Scanned) → List AssignmentPiece → Prop
  | nil {lead : List Scanned} (hlead : ∀ m ∈ lead, m.isOutside = true) : Parted lead [] []
  | cons {lead run gap : List Scanned} {rows : List (List Scanned × List Scanned)}
      {piece : AssignmentPiece} {pieces : List AssignmentPiece}
      (hlead : ∀ m ∈ lead, m.isOutside = true)
      (hrun : run.map (·.toSpanChar) = piece.placed)
      (htext : run.map (·.char) = piece.text.toList)
      (hposition : run.head?.bind (·.position) = some piece.position)
      (hstart : ∀ m, run.head? = some m → m.scan.isTop = true)
      (hinside : ∀ m ∈ run, m.separates = false)
      (hgap : rows ≠ [] → ∃ m ∈ gap, m.separates = true)
      (h : Parted gap rows pieces) : Parted lead ((run, gap) :: rows) (piece :: pieces)

namespace Parted

/-- More can lead that is met outside. -/
theorem append_lead {lead : List Scanned} {rows : List (List Scanned × List Scanned)}
    {pieces : List AssignmentPiece} (h : Parted lead rows pieces) {more : List Scanned}
    (hmore : ∀ m ∈ more, m.isOutside = true) : Parted (more ++ lead) rows pieces := by
  cases h with
  | nil hlead => exact .nil (List.forall_mem_append.mpr ⟨hmore, hlead⟩)
  | cons hlead hrun htext hposition hstart hinside hgap h =>
    exact .cons (List.forall_mem_append.mpr ⟨hmore, hlead⟩) hrun htext hposition hstart hinside
      hgap h

/-- A run with blanks ahead of it. -/
theorem of_run {scan : Scan} (htop : scan.isTop = true) {before run : List SpanChar}
    (hbefore : ∀ c ∈ before, isBlank c.char = true) {piece : AssignmentPiece}
    (hrun : run = piece.placed) (htext : SpanChar.chars run = piece.text.toList)
    (hposition : run.head?.bind (·.position) = some piece.position)
    (hinside : ∀ m ∈ scan.meets (before ++ run), m.separates = false)
    {gap : List Scanned} {rows : List (List Scanned × List Scanned)}
    {pieces : List AssignmentPiece} (hgap : rows ≠ [] → ∃ m ∈ gap, m.separates = true)
    (h : Parted gap rows pieces) :
    Parted (scan.meets before)
      (((scan.feedAll (SpanChar.chars before)).meets run, gap) :: rows) (piece :: pieces) := by
  have hblank : ∀ c ∈ SpanChar.chars before, isBlank c = true := List.forall_mem_map.mpr hbefore
  have hlevel := (Scan.level_feedAll_blank hblank scan).isTop
  have hinside' := (Scan.forall_mem_meets_append.mp hinside).2
  refine .cons (Scan.isOutside_of_mem_meets hbefore htop) ?_ ?_ ?_ ?_ hinside' hgap h
  · rw [Scan.map_meets, hrun]
  · rw [Scan.map_char_meets, htext]
  · rw [Scan.bind_head?_meets, hposition]
  · intro m hm
    cases run with
    | nil => cases hm
    | cons c run =>
      obtain rfl : (⟨c, scan.feedAll (SpanChar.chars before)⟩ : Scanned) = m := by
        simpa [Scan.meets] using hm
      exact hlevel.trans htop

end Parted

/-! ## 5. The pieces of a span

Existence: what is cut is parted.  A segment that is blank becomes a part of the gap around it. -/

namespace SpanChar

variable {words : List (List Char)} {start : Nat}

/-- A segment ahead of pieces: it is passed over if it is blank, and is one piece more otherwise. -/
theorem exists_parted_segment (hwords : ∀ w ∈ words, IsWord w) {scan : Scan}
    (htop : scan.isTop = true) {front : List SpanChar} (hfront : front <:+: ofWords start words)
    (hinside : ∀ m ∈ scan.meets front, m.separates = false)
    (hend : (∀ c, front.getLast? = some c → c.position ≠ none) ∨
      (scan.feedAll (chars front)).isTop = true)
    {gap : List Scanned} {rows : List (List Scanned × List Scanned)}
    {pieces : List AssignmentPiece} (hgap : rows ≠ [] → ∃ m ∈ gap, m.separates = true)
    (h : Parted gap rows pieces) :
    ∃ lead rows', laidOut lead rows' = scan.meets front ++ laidOut gap rows ∧
      Parted lead rows' ((piece? front).toList ++ pieces) := by
  have hplaced : Placed front := fun c hc => placed_ofWords hwords c (hfront.subset hc)
  rcases exists_run hplaced with
    ⟨hnone, hblank⟩ | ⟨before, run, after, position, rfl, hbefore, hafter, hhead, hlast, hpiece⟩
  · rw [hnone]
    exact ⟨_, rows, laidOut_append_lead _ _ _,
      h.append_lead (Scan.isOutside_of_mem_meets hblank htop)⟩
  · -- the blanks behind the run are met outside: there are none, or the scan is at the top there
    have houtside : ∀ m ∈ (scan.feedAll (chars (before ++ run))).meets after,
        m.isOutside = true := by
      rcases hend with hend | hend
      · cases hback : after.getLast? with
        | none => simp [List.getLast?_eq_none_iff.mp hback, Scan.meets]
        | some c =>
          have hmem := List.mem_of_mem_getLast? hback
          refine absurd ((hplaced c (by simp [hmem])).mpr (hafter c hmem)) (hend c ?_)
          rw [List.getLast?_append, hback]
          rfl
      · refine Scan.isOutside_of_mem_meets hafter ?_
        have hblank : ∀ c ∈ chars after, isBlank c = true := List.forall_mem_map.mpr hafter
        rw [← (Scan.level_feedAll_blank hblank _).isTop, ← Scan.feedAll_append]
        simpa [chars] using hend
    have hrun : run = AssignmentPiece.placed ⟨String.ofList (chars run), position⟩ :=
      eq_placed hwords (List.IsInfix.trans ⟨before, after, rfl⟩ hfront) hhead hlast
    rw [hpiece]
    have hinside' := (Scan.forall_mem_meets_append.mp hinside).1
    refine ⟨_, _, ?_, Parted.of_run htop hbefore hrun ?_ hhead hinside' ?_
      (h.append_lead houtside)⟩
    · rw [laidOut, laidOut_append_lead]
      simp [Scan.meets_append, chars, Scan.feedAll_append]
    · rw [String.toList_ofList]
    · intro hne
      obtain ⟨m, hm, hsep⟩ := hgap hne
      exact ⟨m, List.mem_append_right _ hm, hsep⟩

/-- **Cutting parts a span into its pieces.**  The induction is on what is left behind the next
separator, which the scan reaches at the top. -/
theorem exists_parted (hwords : ∀ w ∈ words, IsWord w) {scan : Scan} (htop : scan.isTop = true)
    {cs : List SpanChar} (hcs : cs <:+ ofWords start words) :
    ∃ lead rows, laidOut lead rows = scan.meets cs ∧ Parted lead rows (pieces scan cs) := by
  induction hn : cs.length using Nat.strong_induction_on generalizing scan cs with
  | _ n ih =>
    rcases separator_cases scan cs with
      hinside | ⟨front, c, back, rfl, hinside, hc, hsep⟩
    · -- the last segment: the span does not end in a blank
      have hlast : ∀ c, cs.getLast? = some c → c.position ≠ none := by
        intro c hc
        obtain ⟨as, hcs⟩ := hcs
        have hwhole : (ofWords start words).getLast? = some c := by
          rw [← hcs, List.getLast?_append, hc]
          rfl
        exact getLast?_ofWords hwords hwhole
      have hnone : Parted [] [] [] := .nil (List.forall_mem_nil _)
      obtain ⟨lead, rows, hlaid, h⟩ := exists_parted_segment hwords htop hcs.isInfix hinside
        (.inl hlast) (absurd rfl) hnone
      refine ⟨lead, rows, by rw [hlaid, laidOut, List.append_nil], ?_⟩
      have hpieces := pieces_append hinside []
      rw [cut, List.append_nil] at hpieces
      rw [hpieces]
      exact h
    · have hback : back <:+ ofWords start words :=
        List.IsSuffix.trans ⟨front ++ [c], by simp⟩ hcs
      have hfront : front <:+: ofWords start words :=
        List.IsInfix.trans ⟨[], c :: back, by simp⟩ hcs.isInfix
      have htop' : ((scan.feedAll (chars front)).feed ',').isTop = true := by
        rw [(Scan.level_feed_parts (by decide) _).isTop, hsep]
      obtain ⟨lead, rows, hlaid, h⟩ := ih back.length (by rw [← hn]; simp; omega) htop' hback rfl
      -- the separator joins the gap ahead of what follows
      have hcomma : ∀ m ∈ [(⟨c, scan.feedAll (chars front)⟩ : Scanned)], m.isOutside = true := by
        simp [Scanned.isOutside, hc, hsep]
      obtain ⟨lead', rows', hlaid', h'⟩ := exists_parted_segment hwords htop hfront hinside
        (.inr hsep) (fun _ => ⟨_, List.mem_cons_self, by simp [Scanned.separates, hc, hsep]⟩)
        (h.append_lead hcomma)
      refine ⟨lead', rows', ?_, ?_⟩
      · rw [hlaid', Scan.meets_append, Scan.meets, hc, ← hlaid]
        exact congrArg _ (laidOut_append_lead [_] lead rows)
      · rwa [pieces_append hinside, cut_separator hc hsep, List.append_nil]

end SpanChar

/-! ## 6. Pieces that part a span

Uniqueness: what is parted is what is cut.  The relation is taken apart from the front, and each
run is found to be the first segment but for blanks. -/

namespace Scanned

/-- What is met outside and does not separate is blank. -/
theorem isBlank_of_isOutside {m : Scanned} (h : m.isOutside = true) (hsep : m.separates = false) :
    isBlank m.char = true := by
  obtain ⟨htop, hkind⟩ := (Bool.and_eq_true _ _).mp h
  rcases (Bool.or_eq_true _ _).mp hkind with hblank | hcomma
  · exact hblank
  · rw [separates, hcomma, htop] at hsep
    cases hsep

end Scanned

namespace SpanChar

variable {scan : Scan} {as bs cs : List SpanChar}

/-- A span that is met in two parts. -/
theorem exists_meets_append {xs ys : List Scanned} (h : scan.meets cs = xs ++ ys) :
    ∃ as bs, cs = as ++ bs ∧ scan.meets as = xs ∧ (scan.feedAll (chars as)).meets bs = ys := by
  induction xs generalizing scan cs with
  | nil => exact ⟨[], cs, rfl, rfl, h⟩
  | cons x xs ih =>
    cases cs with
    | nil => cases h
    | cons c cs =>
      rw [Scan.meets, List.cons_append, List.cons.injEq] at h
      obtain ⟨rfl, h⟩ := h
      obtain ⟨as, bs, rfl, rfl, rfl⟩ := ih h
      exact ⟨c :: as, bs, rfl, rfl, rfl⟩

/-- Blanks without a token are no part of a piece. -/
theorem piece?_append_blank (hplaced : Placed bs) (hblank : ∀ c ∈ bs, isBlank c.char = true)
    (as : List SpanChar) : piece? (as ++ bs) = piece? as := by
  rw [piece?, piece?, List.findSome?_append, hplaced.findSome?_blank hblank, Option.or_none,
    List.map_append, trimChars_append_right _ (List.forall_mem_map.mpr hblank)]

/-- Neither are blanks in front. -/
theorem piece?_blank_append (hplaced : Placed as) (hblank : ∀ c ∈ as, isBlank c.char = true)
    (bs : List SpanChar) : piece? (as ++ bs) = piece? bs := by
  have hchars : ∀ c ∈ as.map (·.char), isBlank c = true := List.forall_mem_map.mpr hblank
  rw [piece?, piece?, List.findSome?_append, hplaced.findSome?_blank hblank, Option.none_or,
    List.map_append, trimChars, trimChars, trimFront, trimFront,
    List.dropWhile_append_of_pos hchars]

/-- What is met outside ahead of a span adds no piece.  A separator ends a segment that holds
nothing. -/
theorem pieces_outside_append (hplaced : Placed as) (h : ∀ m ∈ scan.meets as, m.isOutside = true)
    (bs : List SpanChar) : pieces scan (as ++ bs) = pieces (scan.feedAll (chars as)) bs := by
  induction as generalizing scan with
  | nil => rfl
  | cons c as ih =>
    obtain ⟨hc, has⟩ := List.forall_mem_cons.mp h
    obtain ⟨hfirst, hrest⟩ := List.forall_mem_cons.mp hplaced
    have hnext : pieces (scan.feed c.char) (as ++ bs) =
        pieces (scan.feedAll (chars (c :: as))) bs := ih hrest has
    rw [← hnext]
    cases hsep : (⟨c, scan⟩ : Scanned).separates with
    | true =>
      obtain ⟨hcomma, htop⟩ := (Bool.and_eq_true _ _).mp hsep
      rw [List.cons_append, pieces, cut_separator (beq_iff_eq.mp hcomma) htop,
        ← beq_iff_eq.mp hcomma]
      rfl
    | false =>
      have hblank : isBlank (⟨c, scan⟩ : Scanned).char = true :=
        Scanned.isBlank_of_isOutside hc hsep
      have hone : ∀ d ∈ [c], isBlank d.char = true := List.forall_mem_singleton.mpr hblank
      have hplaced : Placed [c] := List.forall_mem_singleton.mpr hfirst
      have hinside : ∀ m ∈ scan.meets [c], m.separates = false := by
        rw [Scan.meets, Scan.meets]
        exact List.forall_mem_singleton.mpr hsep
      rw [← List.singleton_append, List.append_assoc, pieces_append hinside,
        piece?_blank_append hplaced hone, pieces_eq]
      rfl

/-- The first segment of a span that is met outside up to a separator, or to its end, is blank. -/
theorem cut_outside_append (h : ∀ m ∈ scan.meets as, m.isOutside = true)
    (hbs : (∃ m ∈ scan.meets as, m.separates = true) ∨ bs = []) :
    ∀ c ∈ (cut scan (as ++ bs)).1, isBlank c.char = true := by
  have hblank : ∀ {cs : List SpanChar}, (∀ m ∈ scan.meets cs, m.isOutside = true) →
      (∀ m ∈ scan.meets cs, m.separates = false) → ∀ c ∈ cs, isBlank c.char = true := by
    intro cs houtside hinside
    exact Scan.forall_mem_meets.mp fun m hm =>
      Scanned.isBlank_of_isOutside (houtside m hm) (hinside m hm)
  rcases separator_cases scan as with hinside | ⟨front, c, back, rfl, hinside, hc, htop⟩
  · rcases hbs with ⟨m, hm, hsep⟩ | rfl
    · rw [hinside m hm] at hsep
      cases hsep
    · rw [cut_append hinside, cut, List.append_nil]
      exact hblank h hinside
  · rw [List.append_assoc, cut_append hinside, List.cons_append, cut_separator hc htop,
      List.append_nil]
    exact hblank (Scan.forall_mem_meets_append.mp h).1 hinside

/-- A run is a piece of its own if what is met outside behind it reaches a separator, or the end of
the span. -/
theorem pieces_run_append (hinside : ∀ m ∈ scan.meets as, m.separates = false)
    (hplaced : Placed (bs ++ cs))
    (houtside : ∀ m ∈ (scan.feedAll (chars as)).meets bs, m.isOutside = true)
    (hend : (∃ m ∈ (scan.feedAll (chars as)).meets bs, m.separates = true) ∨ cs = []) :
    pieces scan (as ++ (bs ++ cs)) =
      (piece? as).toList ++ pieces (scan.feedAll (chars as)) (bs ++ cs) := by
  have hblank := cut_outside_append houtside hend
  have hfirst : Placed (cut (scan.feedAll (chars as)) (bs ++ cs)).1 := fun c hc =>
    hplaced c (mem_of_mem_cut List.mem_cons_self hc)
  have hnone : piece? (cut (scan.feedAll (chars as)) (bs ++ cs)).1 = none := by
    rw [piece?, hfirst.findSome?_blank hblank]
    rfl
  rw [pieces_append hinside, piece?_append_blank hfirst hblank, pieces_eq _ (bs ++ cs), hnone]
  rfl

end SpanChar

/-- What is laid out starts with its lead, and is nothing else without rows. -/
theorem exists_laidOut_eq {α : Type} (lead : List α) (rows : List (List α × List α)) :
    ∃ behind, laidOut lead rows = lead ++ behind ∧ (rows = [] → behind = []) := by
  cases rows with
  | nil => exact ⟨[], by rw [laidOut, List.append_nil], fun _ => rfl⟩
  | cons row rows => exact ⟨row.1 ++ laidOut row.2 rows, by simp [laidOut], by simp⟩

namespace Parted

variable {lead : List Scanned} {rows : List (List Scanned × List Scanned)}
  {pieces : List AssignmentPiece}

/-- What leads is met outside. -/
theorem lead_outside (h : Parted lead rows pieces) : ∀ m ∈ lead, m.isOutside = true := by
  cases h with
  | nil hlead => exact hlead
  | cons hlead => exact hlead

/-- The piece of a run is found again. -/
theorem piece?_run {run : List SpanChar} {piece : AssignmentPiece}
    (htext : SpanChar.chars run = piece.text.toList)
    (hposition : run.head?.bind (·.position) = some piece.position)
    (htrimmed : trim piece.text = piece.text) : SpanChar.piece? run = some piece := by
  have hfirst : run.findSome? (·.position) = some piece.position := by
    cases run with
    | nil => cases hposition
    | cons c run => rw [List.findSome?_cons, show c.position = some piece.position from hposition]
  rw [SpanChar.piece?, hfirst, ← SpanChar.chars, htext, ← trim, htrimmed]
  rfl

/-- **Trimmed pieces that part a span are those it is cut into.**  The induction is on the pieces;
the segment of a piece ends in the gap behind it, at the separator or with the span. -/
theorem pieces_eq (h : Parted lead rows pieces) {scan : Scan} {cs : List SpanChar}
    (hcs : laidOut lead rows = scan.meets cs) (hplaced : SpanChar.Placed cs)
    (htrimmed : ∀ piece ∈ pieces, trim piece.text = piece.text) :
    SpanChar.pieces scan cs = pieces := by
  induction h generalizing scan cs with
  | nil hlead =>
    have houtside : ∀ m ∈ scan.meets cs, m.isOutside = true := hcs ▸ hlead
    have hnone := SpanChar.pieces_outside_append hplaced houtside []
    rw [List.append_nil] at hnone
    rw [hnone]
    rfl
  | @cons lead run gap rows piece pieces hlead hrun htext hposition hstart hinside hgap h ih =>
    obtain ⟨behind, hbehind, hend⟩ := exists_laidOut_eq gap rows
    rw [laidOut, List.append_assoc] at hcs
    obtain ⟨as, more, rfl, rfl, hmore⟩ := SpanChar.exists_meets_append hcs.symm
    obtain ⟨bs, ds, rfl, rfl, hds⟩ := SpanChar.exists_meets_append hmore
    obtain ⟨gs, back, rfl, rfl, hback⟩ := SpanChar.exists_meets_append (hds.trans hbehind)
    obtain ⟨hfront, hmore⟩ := SpanChar.placed_append.mp hplaced
    have hrest := (SpanChar.placed_append.mp hmore).2
    obtain ⟨hpiece, hpieces⟩ := List.forall_mem_cons.mp htrimmed
    rw [Scan.map_char_meets] at htext
    rw [Scan.bind_head?_meets] at hposition
    have hseparated : (∃ m ∈ ((scan.feedAll (SpanChar.chars as)).feedAll
        (SpanChar.chars bs)).meets gs, m.separates = true) ∨ back = [] := by
      by_cases hrows : rows = []
      · rw [hend hrows] at hback
        exact .inr (by rw [← Scan.map_meets _ back, hback, List.map_nil])
      · exact .inl (hgap hrows)
    rw [SpanChar.pieces_outside_append hfront hlead,
      SpanChar.pieces_run_append hinside hrest h.lead_outside hseparated,
      piece?_run htext hposition hpiece, ih hds.symm hrest hpieces]
    rfl

end Parted

/-! ## 7. What the pieces keep

Consequences of being parted that can be said without runs and gaps, and the statement. -/

/-- The characters of a text that are not blank. -/
def solidChars (cs : List Char) : List Char := cs.filter fun c => !isBlank c

theorem solidChars_append (as bs : List Char) :
    solidChars (as ++ bs) = solidChars as ++ solidChars bs := List.filter_append ..

/-- What is left of a span without the commas that separate. -/
def unseparated (ms : List Scanned) : List Char := (ms.filter (!·.separates)).map (·.char)

theorem unseparated_append (as bs : List Scanned) :
    unseparated (as ++ bs) = unseparated as ++ unseparated bs := by
  rw [unseparated, List.filter_append, List.map_append]
  rfl

namespace Parted

variable {lead : List Scanned} {rows : List (List Scanned × List Scanned)}
  {pieces : List AssignmentPiece}

/-- Of what is met outside nothing is left but blanks. -/
theorem solidChars_unseparated_outside {ms : List Scanned} (h : ∀ m ∈ ms, m.isOutside = true) :
    solidChars (unseparated ms) = [] := by
  refine List.filter_eq_nil_iff.mpr fun c hc => ?_
  obtain ⟨m, hm, rfl⟩ := List.mem_map.mp hc
  obtain ⟨hmem, hsep⟩ := List.mem_filter.mp hm
  have hblank := Scanned.isBlank_of_isOutside (h m hmem) (by simpa using hsep)
  simp [hblank]

/-- **No character is lost** but blanks and the commas that separate.  What is laid out are the
runs, which are the pieces, and gaps, in which nothing else stands. -/
theorem solidChars_eq (h : Parted lead rows pieces) :
    (pieces.flatMap fun piece => solidChars piece.text.toList) =
      solidChars (unseparated (laidOut lead rows)) := by
  induction h with
  | nil hlead => exact (solidChars_unseparated_outside hlead).symm
  | @cons lead run gap rows piece pieces hlead hrun htext hposition hstart hinside hgap h ih =>
    have hkeep : unseparated run = piece.text.toList := by
      rw [unseparated, List.filter_eq_self.mpr fun m hm => by simp [hinside m hm], htext]
    rw [laidOut, unseparated_append, unseparated_append, solidChars_append, solidChars_append,
      solidChars_unseparated_outside hlead, hkeep, List.flatMap_cons, ih, List.nil_append]

/-- The positions of the pieces are found along the span. -/
theorem positions_sublist (h : Parted lead rows pieces) :
    (pieces.map (·.position)).Sublist ((laidOut lead rows).filterMap (·.position)) := by
  induction h with
  | nil hlead => exact List.nil_sublist _
  | @cons lead run gap rows piece pieces hlead hrun htext hposition hstart hinside hgap h ih =>
    obtain ⟨m, hm, hp⟩ := Option.bind_eq_some_iff.mp hposition
    obtain ⟨rest, rfl⟩ := List.head?_eq_some_iff.mp hm
    have hrow : (m :: rest).filterMap (·.position) =
        piece.position :: rest.filterMap (·.position) := List.filterMap_cons_some hp
    rw [laidOut, List.filterMap_append, List.filterMap_append, hrow, List.append_assoc,
      List.cons_append]
    exact ((ih.trans (List.sublist_append_right _ _)).cons_cons _).trans
      (List.sublist_append_right _ _)

end Parted

namespace SpanChar

/-- Positions do not decrease along a span. -/
theorem pairwise_ofWords (words : List (List Char)) (start : Nat) :
    ((ofWords start words).filterMap (·.position)).Pairwise (· ≤ ·) ∧
      ∀ p ∈ (ofWords start words).filterMap (·.position), start ≤ p := by
  induction words generalizing start with
  | nil => simp [ofWords]
  | cons word words ih =>
    obtain ⟨hpairwise, hle⟩ := ih (start + 1)
    have hcons : (ofWords start (word :: words)).filterMap (·.position) =
        word.map (fun _ => start) ++ (ofWords (start + 1) words).filterMap (·.position) := by
      simp [ofWords, List.filterMap_map]
    have hword : ∀ p ∈ word.map (fun _ => start), p = start := by simp
    rw [hcons]
    refine ⟨List.pairwise_append.mpr ⟨?_, hpairwise, ?_⟩, ?_⟩
    · exact List.pairwise_of_forall_mem_list fun p hp q hq =>
        ((hword p hp).trans (hword q hq).symm).le
    · intro p hp q hq
      rw [hword p hp]
      exact Nat.le_of_succ_le (hle q hq)
    · intro p hp
      rcases List.mem_append.mp hp with hp | hp
      · exact (hword p hp).ge
      · exact Nat.le_of_succ_le (hle p hp)

/-- The characters of tokens that follow one another. -/
theorem ofTokens_eq_ofWords {tokens : List Token} {start : Nat}
    (h : ∀ (i : Nat) (t : Token), tokens[i]? = some t → t.position = start + i) :
    ofTokens tokens = ofWords start (tokens.map (·.text.toList)) := by
  induction tokens generalizing start with
  | nil => rfl
  | cons token tokens ih =>
    have hfirst : token.position = start := h 0 token rfl
    have hrest := ih fun i t ht => (h (i + 1) t ht).trans (by omega : _ = start + 1 + i)
    rw [ofTokens, List.flatMap_cons, List.map_cons, ofWords, ← hrest, ofToken, hfirst]
    rfl

/-- A piece has a text, and it is trimmed. -/
theorem trimmed_of_piece? {cs : List SpanChar} (h : Placed cs) {piece : AssignmentPiece}
    (hpiece : piece? cs = some piece) : piece.text ≠ "" ∧ trim piece.text = piece.text := by
  have htext := map_text_piece? h
  rw [hpiece, pieceText?] at htext
  split at htext
  · cases htext
  · rename_i hsolid
    have heq : piece.text = String.ofList (trimChars (chars cs)) := Option.some.inj htext
    constructor
    · intro hempty
      rw [hempty] at heq
      have hnil : trimChars (chars cs) = [] := by
        rw [← String.toList_ofList (l := trimChars (chars cs)), ← heq]
        rfl
      exact hsolid (List.all_eq_true.mpr (trimChars_eq_nil_iff.mp hnil))
    · rw [trim, heq, String.toList_ofList, trimChars_eq_self (fun c => isBlank_head?_trimChars)
        fun c => isBlank_getLast?_trimChars]

end SpanChar

/-- What cutting a span keeps.  Each piece has a text, which is trimmed.  The characters of the
span, as the scan meets them, are the pieces and what is between them; so nothing but blanks and the
commas that separate is left out, and a later piece does not start in an earlier token. -/
structure KeepsSpan (quotes : Bool) (tokens : List Token) (pieces : List AssignmentPiece) :
    Prop where
  /-- no piece is empty or has blanks at its ends -/
  trimmed : ∀ piece ∈ pieces, piece.text ≠ "" ∧ trim piece.text = piece.text
  /-- the span is the pieces and what is between them -/
  parted : ∃ lead rows, laidOut lead rows = Scan.meets { quotes } (SpanChar.ofTokens tokens) ∧
    Parted lead rows pieces
  /-- no character is lost but blanks and the commas that separate -/
  kept : (pieces.flatMap fun piece => solidChars piece.text.toList) =
    solidChars (unseparated (Scan.meets { quotes } (SpanChar.ofTokens tokens)))
  /-- a later piece does not start in an earlier token -/
  ordered : pieces.Pairwise fun p q => p.position ≤ q.position

/-- The words of tokens that follow one another in a text. -/
theorem exists_ofTokens_eq_ofWords {input : String} {tokens : List Token}
    (h : tokens <:+: tokenize input) :
    ∃ start, SpanChar.ofTokens tokens = SpanChar.ofWords start (tokens.map (·.text.toList)) := by
  obtain ⟨as, bs, h⟩ := h
  refine ⟨as.length, SpanChar.ofTokens_eq_ofWords fun i t ht => ?_⟩
  refine (isTokenization_tokenize input).positions (as.length + i) t ?_
  obtain ⟨hi, -⟩ := List.getElem?_eq_some_iff.mp ht
  rw [← h, List.getElem?_append_left (by simpa using hi),
    List.getElem?_append_right (Nat.le_add_right _ _), Nat.add_sub_cancel_left, ht]

/-- Tokens of a text are words. -/
theorem isWord_of_infix_tokenize {input : String} {tokens : List Token}
    (h : tokens <:+: tokenize input) : ∀ t ∈ tokens, IsWord t.text.toList := by
  intro t ht
  refine isWord_of_mem_words (s := input) ?_
  rw [← map_text_tokenize]
  exact List.mem_map_of_mem (h.subset ht)

/-- **What is cut keeps what `KeepsSpan` says.**  All of it is read off the runs and gaps that
the cut parts the span into. -/
theorem keepsSpan_cutSpan {input : String} {tokens : List Token} (h : tokens <:+: tokenize input)
    (quotes : Bool) : KeepsSpan quotes tokens (cutSpan quotes tokens) := by
  have hwords := isWord_of_infix_tokenize h
  have hplaced := SpanChar.placed_ofTokens hwords
  obtain ⟨start, hspan⟩ := exists_ofTokens_eq_ofWords h
  have hcut : ∃ lead rows, laidOut lead rows = Scan.meets { quotes } (SpanChar.ofTokens tokens) ∧
      Parted lead rows (cutSpan quotes tokens) :=
    SpanChar.exists_parted (List.forall_mem_map.mpr hwords) rfl ⟨[], hspan⟩
  obtain ⟨lead, rows, hlaid, hparted⟩ := hcut
  constructor
  case trimmed =>
    intro piece hpiece
    obtain ⟨cs, hcs, hpiece⟩ := List.mem_filterMap.mp hpiece
    exact SpanChar.trimmed_of_piece? (fun c hc => hplaced c (SpanChar.mem_of_mem_cut hcs hc)) hpiece
  case parted => exact ⟨lead, rows, hlaid, hparted⟩
  case kept => rw [← hlaid, hparted.solidChars_eq]
  case ordered =>
    have hsub := hparted.positions_sublist
    -- the scans that meet the characters have no part in their positions
    have hpositions : (Scan.meets { quotes } (SpanChar.ofTokens tokens)).filterMap (·.position) =
        (SpanChar.ofTokens tokens).filterMap (·.position) := by
      conv_rhs => rw [← Scan.map_meets { quotes } (SpanChar.ofTokens tokens), List.filterMap_map]
      rfl
    rw [hlaid, hpositions, hspan] at hsub
    exact List.pairwise_map.mp ((SpanChar.pairwise_ofWords _ start).1.sublist hsub)

/-- **Cutting a span loses nothing**, whether quotes count or not: the pieces keep what
`KeepsSpan` says, which no other pieces do.  Quotes count unless the scan that counts them ends
inside one. -/
theorem cutSpan_loses_nothing {input : String} {tokens : List Token}
    (h : tokens <:+: tokenize input) :
    (∀ (quotes : Bool) (pieces : List AssignmentPiece),
      cutSpan quotes tokens = pieces ↔ KeepsSpan quotes tokens pieces) ∧
    assignmentPieces tokens =
      if (scanSpan { quotes := true } tokens).inQuote then cutSpan false tokens
      else cutSpan true tokens := by
  refine ⟨fun quotes pieces => ⟨?_, fun hkeeps => ?_⟩, ?_⟩
  · rintro rfl
    exact keepsSpan_cutSpan h quotes
  · obtain ⟨lead, rows, hlaid, hparted⟩ := hkeeps.parted
    exact hparted.pieces_eq hlaid (SpanChar.placed_ofTokens (isWord_of_infix_tokenize h))
      fun piece hpiece => (hkeeps.trimmed piece hpiece).2
  · rw [assignmentPieces, hasOpenQuote]
    cases (scanSpan { quotes := true } tokens).inQuote with
    | false => rfl
    | true => rfl

/-- The quote is never closed, so the comma behind `open` separates; the one between parentheses
does not. -/
theorem assignmentPieces_open_quote :
    let tokens := (tokenize "SET note='open, b=f(1, 2) ,").drop 1
    assignmentPieces tokens = [⟨"note='open", 1⟩, ⟨"b=f(1, 2)", 2⟩] ∧
      KeepsSpan false tokens [⟨"note='open", 1⟩, ⟨"b=f(1, 2)", 2⟩] := by
  intro tokens
  have hinfix : tokens <:+: tokenize "SET note='open, b=f(1, 2) ," := (List.drop_suffix 1 _).isInfix
  obtain ⟨hkeeps, hpieces⟩ := cutSpan_loses_nothing hinfix
  have hopen : (scanSpan { quotes := true } tokens).inQuote = true := by decide
  have hcut : cutSpan false tokens = [⟨"note='open", 1⟩, ⟨"b=f(1, 2)", 2⟩] := by decide
  exact ⟨by rw [hpieces, if_pos hopen, hcut], (hkeeps false _).mp hcut⟩

end HexadQuery
