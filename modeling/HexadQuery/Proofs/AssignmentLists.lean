/-
# Lists of assignments

One scan runs over the whole span of a SET, from the first assignment to the last, and decides at
each comma by the depth it has reached (`assignment_pieces`).  Two things follow that a list of
assignments would not suggest.

* A span is refused when it holds no word, but the assignments come from its pieces, and commas
  alone make none.  `update_assigns_iff` says that this is the only way to an UPDATE without
  assignments.
* The depth counts below zero.  A `)` that closes nothing leaves the scan one too low for the rest
  of the span, and the next pair of parentheses no longer shelters its commas: `b=f(1, 2)` is one
  assignment by itself and is cut in two behind `a=)`.

`Sheltered` is the condition under which the second does not happen: every comma that lies between
parentheses in its own text still does at the depth where that text begins in the list.
`parseMutation_assignments_iff` says that texts which are assignments by themselves make a list of
these assignments exactly then.  Quotes are no danger: a text that closes its quotes leaves none
open.

Both directions rest on the depths of the commas (`Scan.commaDepths`).  A scan that starts lower
finds the same depths, lowered by as much (`Scan.commaDepths_shift`), so it separates wherever the
text by itself does, and an additional separator is one more piece.  For the direction from a list
back to `Sheltered` it has to be seen that one more piece can not be read as the same assignments
after all.  A blank piece is passed over, so the number of pieces does not decide it.  The weight
does: a span weighs as much as its assignments and its separators (`SpellAll.weight_eq`), and the
weight of the span is given.

A text enters this argument as a `Segment`: its characters as the scan meets them, the pieces it is
cut into by itself and the assignment they spell.  Sections 1 to 3 are about segments and know
nothing of statements; 4 and 5 bring a list that is written with commas into this form, where a
blank ahead of a comma is one character more; 6 and 7 say what it means for an UPDATE.
-/
import HexadQuery.Proofs.MutationRoundTrip

namespace HexadQuery

/-! ## 1. The depths of the commas

Whether a comma separates is decided by its depth alone, once it is outside quotes.  So the list of
these depths holds all that matters of a text, and the number of its entries that are not positive
is the number of separators. -/

namespace Scan

/-- The scan ahead of a span, where quotes count. -/
def start : Scan := { quotes := true }

/-- The depths at which the commas outside quotes lie, in order. -/
def commaDepths (scan : Scan) : List Char → List Int
  | [] => []
  | c :: cs =>
    if c = ',' ∧ scan.inQuote = false then scan.depth :: commaDepths (scan.feed c) cs
    else commaDepths (scan.feed c) cs

/-- The commas of two texts, the second from where the first leaves the scan. -/
theorem commaDepths_append (scan : Scan) (as bs : List Char) :
    scan.commaDepths (as ++ bs) = scan.commaDepths as ++ (scan.feedAll as).commaDepths bs := by
  induction as generalizing scan with
  | nil => rfl
  | cons c as ih =>
    rw [List.cons_append, commaDepths, commaDepths, feedAll_cons]
    split
    · rw [ih, List.cons_append]
    · rw [ih]

/-- Scans in agreement find the commas at the same depths. -/
theorem Agree.commaDepths {s t : Scan} (h : Agree s t) (cs : List Char) :
    s.commaDepths cs = t.commaDepths cs := by
  induction cs generalizing s t with
  | nil => rfl
  | cons c cs ih => rw [Scan.commaDepths, Scan.commaDepths, h.inQuote, h.depth, ih (h.feed c)]

/-- Without a comma there is no depth to list. -/
theorem commaDepths_of_not_mem {cs : List Char} (h : ',' ∉ cs) (scan : Scan) :
    scan.commaDepths cs = [] := by
  induction cs generalizing scan with
  | nil => rfl
  | cons c cs ih =>
    have hc : ¬ (c = ',' ∧ scan.inQuote = false) := by
      rintro ⟨rfl, -⟩
      exact h List.mem_cons_self
    rw [commaDepths, if_neg hc, ih (fun hmem => h (List.mem_cons_of_mem _ hmem))]

/-- At top level is outside quotes and not below parentheses; a negative depth counts as top
level. -/
theorem isTop_iff (scan : Scan) :
    scan.isTop = true ↔ scan.inQuote = false ∧ scan.depth ≤ 0 := by
  simp [isTop]

/-- No comma separates exactly if all of them lie between parentheses. -/
theorem closed_iff {scan : Scan} {cs : List Char} :
    scan.Closed cs ↔ ∀ d ∈ scan.commaDepths cs, 0 < d := by
  induction cs generalizing scan with
  | nil => simp [Closed, commaDepths]
  | cons c cs ih =>
    rw [Closed, commaDepths, ih]
    by_cases hc : c = ',' ∧ scan.inQuote = false
    · have htop : (c = ',' → scan.isTop = false) ↔ 0 < scan.depth := by
        rw [← Bool.not_eq_true, isTop_iff]
        simp [hc.1, hc.2]
      rw [if_pos hc, htop, List.forall_mem_cons]
    · have htop : c = ',' → scan.isTop = false := by
        intro hcomma
        rw [← Bool.not_eq_true, isTop_iff]
        exact fun h => hc ⟨hcomma, h.1⟩
      rw [if_neg hc]
      exact and_iff_right htop

/-- The same scan at another depth. -/
def shift (scan : Scan) (n : Int) : Scan := { scan with depth := scan.depth + n }

/-- What a shift changes is the depth, and nothing that decides whether a quote opens. -/
@[simp] theorem depth_shift (scan : Scan) (n : Int) : (scan.shift n).depth = scan.depth + n := rfl

@[simp] theorem quotes_shift (scan : Scan) (n : Int) : (scan.shift n).quotes = scan.quotes := rfl

@[simp] theorem inSingle_shift (scan : Scan) (n : Int) :
    (scan.shift n).inSingle = scan.inSingle := rfl

@[simp] theorem inDouble_shift (scan : Scan) (n : Int) :
    (scan.shift n).inDouble = scan.inDouble := rfl

@[simp] theorem inQuote_shift (scan : Scan) (n : Int) : (scan.shift n).inQuote = scan.inQuote := rfl

@[simp] theorem startsValue_shift (scan : Scan) (n : Int) :
    (scan.shift n).startsValue = scan.startsValue := rfl

/-- A list starts with no shift. -/
theorem shift_zero (scan : Scan) : scan.shift 0 = scan := by simp [shift]

/-- **A character does not see how deep it is.** -/
theorem feed_shift (scan : Scan) (n : Int) (c : Char) :
    (scan.shift n).feed c = (scan.feed c).shift n := by
  have hnest : nest (scan.depth + n) c = nest scan.depth c + n := by
    have h := nest_eq_add (scan.depth + n) c
    have h' := nest_eq_add scan.depth c
    omega
  unfold feed
  rw [quotes_shift, inSingle_shift, inDouble_shift, startsValue_shift, inQuote_shift, depth_shift,
    hnest]
  split
  · rfl
  · split
    · rfl
    · split <;> rfl

/-- A text does not see it either. -/
theorem feedAll_shift (scan : Scan) (n : Int) (cs : List Char) :
    (scan.shift n).feedAll cs = (scan.feedAll cs).shift n := by
  induction cs generalizing scan with
  | nil => rfl
  | cons c cs ih => rw [feedAll_cons, feed_shift, ih, feedAll_cons]

/-- **A scan that starts lower finds every comma lower by as much.**  So what the scan of a list
finds is what the scan of each text finds by itself, moved by what the texts ahead have left. -/
theorem commaDepths_shift (scan : Scan) (n : Int) (cs : List Char) :
    (scan.shift n).commaDepths cs = (scan.commaDepths cs).map (· + n) := by
  induction cs generalizing scan with
  | nil => rfl
  | cons c cs ih =>
    rw [commaDepths, commaDepths, feed_shift, ih, inQuote_shift, depth_shift]
    split
    · rw [List.map_cons]
    · rfl

/-- The pieces are one more than the commas that separate. -/
theorem Cuts.length_eq {scan : Scan} {ps : List (List Char)} (h : scan.Cuts ps) (hne : ps ≠ []) :
    ps.length = (scan.commaDepths ([','].intercalate ps)).countP (· ≤ 0) + 1 := by
  have hclosed : ∀ {scan : Scan} {p : List Char}, scan.Closed p →
      (scan.commaDepths p).countP (· ≤ 0) = 0 := by
    intro scan p hp
    refine List.countP_eq_zero.mpr fun d hd => ?_
    have := closed_iff.mp hp d hd
    simpa using this
  induction ps generalizing scan with
  | nil => exact absurd rfl hne
  | cons p ps ih =>
    cases ps with
    | nil => rw [List.intercalate_singleton, hclosed h.1]; rfl
    | cons q ps =>
      obtain ⟨hquote, hdepth⟩ := (isTop_iff _).mp (h.2.1 (by simp))
      rw [List.intercalate_cons_cons, List.append_assoc, commaDepths_append, List.singleton_append,
        commaDepths, if_pos ⟨rfl, hquote⟩, List.countP_append, hclosed h.1,
        List.countP_cons_of_pos (by simpa using hdepth), List.length_cons,
        ih h.2.2 (List.cons_ne_nil q ps)]
      omega

/-- **What is cut is cut at a lower depth**, if the commas between parentheses stay there.  The
commas of the first piece are among those of all. -/
theorem Cuts.shift {s t : Scan} {n : Int} (hagree : Agree (s.shift n) t) (hn : n ≤ 0)
    {ps : List (List Char)} (h : s.Cuts ps)
    (hshelter : ∀ d ∈ s.commaDepths ([','].intercalate ps), 0 < d → 0 < d + n) : t.Cuts ps := by
  induction ps generalizing s t with
  | nil => trivial
  | cons p ps ih =>
    have hfeed : ((s.feedAll p).shift n).Agree (t.feedAll p) := by
      rw [← feedAll_shift]
      exact hagree.feedAll p
    have hnext : (((s.feedAll p).feed ',').shift n).Agree ((t.feedAll p).feed ',') := by
      rw [← feed_shift]
      exact hfeed.feed ','
    have hhead : ∀ d ∈ s.commaDepths p, d ∈ s.commaDepths ([','].intercalate (p :: ps)) := by
      intro d hd
      cases ps with
      | nil => simpa using hd
      | cons q ps =>
        rw [List.intercalate_cons_cons, List.append_assoc, commaDepths_append]
        exact List.mem_append_left _ hd
    have htail : ∀ d ∈ ((s.feedAll p).feed ',').commaDepths ([','].intercalate ps),
        0 < d → 0 < d + n := by
      intro d hd
      cases ps with
      | nil => simp [commaDepths] at hd
      | cons q ps =>
        refine hshelter d ?_
        rw [List.intercalate_cons_cons, List.append_assoc, commaDepths_append,
          List.singleton_append, commaDepths]
        refine List.mem_append_right _ ?_
        split
        · exact List.mem_cons_of_mem _ hd
        · exact hd
    refine ⟨?_, fun hne => ?_, ih hnext h.2.2 htail⟩
    · -- commas are at most as deep as before; those that were sheltered still are
      rw [closed_iff, ← hagree.commaDepths, commaDepths_shift]
      intro d hd
      obtain ⟨e, he, rfl⟩ := List.mem_map.mp hd
      exact hshelter e (hhead e he) (closed_iff.mp h.1 e he)
    · obtain ⟨hquote, hdepth⟩ := (isTop_iff _).mp (h.2.1 hne)
      rw [← hfeed.isTop, isTop_iff]
      exact ⟨hquote, by change (s.feedAll p).depth + n ≤ 0; omega⟩

/-- Pieces, a comma that separates, and further pieces. -/
theorem Cuts.append {scan : Scan} {ps qs : List (List Char)} (hne : ps ≠ []) (h : scan.Cuts ps)
    (htop : (scan.feedAll ([','].intercalate ps)).isTop = true)
    (h' : ((scan.feedAll ([','].intercalate ps)).feed ',').Cuts qs) : scan.Cuts (ps ++ qs) := by
  induction ps generalizing scan with
  | nil => exact absurd rfl hne
  | cons p ps ih =>
    cases ps with
    | nil =>
      rw [List.intercalate_singleton] at htop h'
      exact ⟨h.1, fun _ => htop, h'⟩
    | cons q ps =>
      have hfeed : scan.feedAll ([','].intercalate (p :: q :: ps)) =
          ((scan.feedAll p).feed ',').feedAll ([','].intercalate (q :: ps)) := by
        rw [List.intercalate_cons_cons, List.append_assoc, feedAll_append, List.singleton_append,
          feedAll_cons]
      rw [hfeed] at htop h'
      exact ⟨h.1, fun _ => h.2.1 (by simp), ih (List.cons_ne_nil q ps) h.2.2 htop h'⟩

/-- Whether quotes count is settled ahead of the span and stays. -/
theorem quotes_feedAll (scan : Scan) (cs : List Char) :
    (scan.feedAll cs).quotes = scan.quotes := by
  induction cs generalizing scan with
  | nil => rfl
  | cons c cs ih =>
    rw [feedAll_cons, ih]
    unfold feed
    dsimp only
    split
    · rfl
    · split
      · rfl
      · split <;> rfl

end Scan

/-- Lowering depths separates no fewer commas, and just as many only if none of them is new. -/
theorem countP_shift {n : Int} (hn : n ≤ 0) (ds : List Int) :
    ds.countP (· ≤ 0) ≤ (ds.map (· + n)).countP (· ≤ 0) ∧
      ((ds.map (· + n)).countP (· ≤ 0) = ds.countP (· ≤ 0) → ∀ d ∈ ds, 0 < d → 0 < d + n) := by
  induction ds with
  | nil => simp
  | cons d ds ih =>
    rw [List.map_cons, List.countP_cons, List.countP_cons]
    simp only [decide_eq_true_eq, List.forall_mem_cons]
    obtain ⟨hle, heq⟩ := ih
    by_cases hd : d ≤ 0
    · rw [if_pos hd, if_pos (by omega)]
      exact ⟨by omega, fun h => ⟨by omega, heq (by omega)⟩⟩
    · rw [if_neg hd]
      by_cases hdn : d + n ≤ 0
      · rw [if_pos hdn]
        exact ⟨by omega, fun h => by omega⟩
      · rw [if_neg hdn]
        exact ⟨by omega, fun h => ⟨by omega, heq (by omega)⟩⟩

/-! ## 2. Texts one behind the other

Segments in a list.  What one segment leaves for the next is the depth, and `Sheltered` adds the
depths up along the list. -/

/-- Every comma between parentheses of its own text is between parentheses at the depth where that
text begins: the depth that the texts ahead of it have left. -/
def Sheltered (lead : Int) : List (List Char) → Prop
  | [] => True
  | cs :: rest => (∀ d ∈ Scan.start.commaDepths cs, 0 < d → 0 < d + lead) ∧
      Sheltered (lead + (Scan.start.feedAll cs).depth) rest

instance decidableSheltered (lead : Int) : ∀ texts, Decidable (Sheltered lead texts)
  | [] => inferInstanceAs (Decidable True)
  | cs :: rest =>
    haveI := decidableSheltered (lead + (Scan.start.feedAll cs).depth) rest
    inferInstanceAs (Decidable (_ ∧ _))

/-- A text that by itself is cut into pieces which spell one assignment; it closes its quotes,
and its parentheses.  The pieces may be several, because blank ones do not count.  The depth at
the end may be negative, and this is the depth that the next segment starts at. -/
structure Segment where
  /-- the text, as the scan of a span meets it -/
  chars : List Char
  /-- what it is cut into by itself -/
  pieces : List (List Char)
  /-- the one assignment that its pieces spell -/
  assignment : Assignment
  ne_nil : pieces ≠ []
  /-- nothing but separating commas is between its pieces -/
  joined : chars = [','].intercalate pieces
  /-- a scan that starts at the top separates there, and inside no piece -/
  cuts : Scan.start.Cuts pieces
  spells : SpellAll pieces [assignment]
  /-- it closes its quotes, so the next segment is met outside -/
  quotes : (Scan.start.feedAll chars).inQuote = false
  /-- it closes its parentheses, and may close some that it has not opened -/
  depth : (Scan.start.feedAll chars).depth ≤ 0

namespace Segment

/-- The pieces with a comma behind each are the text with a comma behind it. -/
theorem ended_pieces (seg : Segment) : ended seg.pieces = seg.chars ++ [','] := by
  rw [seg.joined, intercalate_append_comma seg.ne_nil]

/-- Where a scan stands behind a segment, up to the depth it started at. -/
theorem agree (seg : Segment) {lead : Int} {t : Scan} (h : (Scan.start.shift lead).Ready t) :
    ((Scan.start.feedAll seg.chars).shift lead).Agree (t.feedAll seg.chars) := by
  rw [← Scan.feedAll_shift]
  exact h.agree.feedAll seg.chars

/-- Behind a segment a comma separates. -/
theorem isTop (seg : Segment) {lead : Int} (hlead : lead ≤ 0) {t : Scan}
    (h : (Scan.start.shift lead).Ready t) : (t.feedAll seg.chars).isTop = true := by
  rw [← (seg.agree h).isTop, Scan.isTop_iff, Scan.inQuote_shift, Scan.depth_shift]
  have := seg.depth
  exact ⟨seg.quotes, by omega⟩

/-- **A segment leaves a scan as at the start**, but for the depth. -/
theorem ready (seg : Segment) {lead : Int} {t : Scan} (h : (Scan.start.shift lead).Ready t) :
    (Scan.start.shift (lead + (Scan.start.feedAll seg.chars).depth)).Ready
      (t.feedAll (seg.chars ++ [','])) := by
  have hcomma : Scan.parts ',' = true := by decide
  have hquotes := seg.quotes
  rw [Scan.inQuote, Bool.or_eq_false_iff] at hquotes
  have hstart : (Scan.start.shift (lead + (Scan.start.feedAll seg.chars).depth)).Level
      ((Scan.start.feedAll seg.chars).shift lead) := by
    refine ⟨?_, ?_, hquotes.1.symm, hquotes.2.symm⟩
    · simp [Scan.start, Int.add_comm]
    · rw [Scan.quotes_shift, Scan.quotes_shift, Scan.quotes_feedAll]
  rw [Scan.feedAll_append]
  exact ⟨(hstart.trans (seg.agree h).toLevel).trans (Scan.level_feed_parts hcomma _).symm, rfl,
    Scan.startsValue_feed_parts hcomma _⟩

end Segment

/-- **Sheltered segments are cut as each of them is by itself.**  The induction is on the segments;
the scan stands at the start behind each of them, at the depth that is left. -/
theorem cuts_segments {segs : List Segment} {lead : Int} (hlead : lead ≤ 0) {t : Scan}
    (hready : (Scan.start.shift lead).Ready t)
    (h : Sheltered lead (segs.map Segment.chars)) : t.Cuts (segs.flatMap Segment.pieces) := by
  induction segs generalizing lead t with
  | nil => trivial
  | cons seg segs ih =>
    obtain ⟨hfirst, hrest⟩ := h
    have hdepth := seg.depth
    have hcuts : t.Cuts seg.pieces := seg.cuts.shift hready.agree hlead (seg.joined ▸ hfirst)
    have htop := seg.isTop hlead hready
    have hnext := ih (by omega) (seg.ready hready) hrest
    rw [Scan.feedAll_append] at hnext
    rw [seg.joined] at htop hnext
    exact hcuts.append seg.ne_nil htop hnext

/-- Segments leave a scan outside quotes, and not below parentheses. -/
theorem isTop_segments {segs : List Segment} {lead : Int} (hlead : lead ≤ 0) {t : Scan}
    (hready : (Scan.start.shift lead).Ready t) :
    (t.feedAll (ended (segs.map Segment.chars))).isTop = true := by
  induction segs generalizing lead t with
  | nil =>
    rw [List.map_nil, ended, List.flatMap_nil, Scan.feedAll_nil, ← hready.isTop, Scan.isTop_iff]
    exact ⟨rfl, by simpa [Scan.start] using hlead⟩
  | cons seg segs ih =>
    have hdepth := seg.depth
    rw [List.map_cons, ended, List.flatMap_cons, Scan.feedAll_append]
    exact ih (by omega) (seg.ready hready)

/-- **Segments have at least the pieces that each of them has**, and more if a comma is not
sheltered. -/
theorem length_segments {segs : List Segment} {lead : Int} (hlead : lead ≤ 0) {t : Scan}
    (hready : (Scan.start.shift lead).Ready t) :
    (segs.flatMap Segment.pieces).length ≤
        (t.commaDepths (ended (segs.map Segment.chars))).countP (· ≤ 0) ∧
      ((t.commaDepths (ended (segs.map Segment.chars))).countP (· ≤ 0) =
          (segs.flatMap Segment.pieces).length → Sheltered lead (segs.map Segment.chars)) := by
  induction segs generalizing lead t with
  | nil => exact ⟨Nat.zero_le _, fun _ => trivial⟩
  | cons seg segs ih =>
    have hdepth := seg.depth
    have hnext : lead + (Scan.start.feedAll seg.chars).depth ≤ 0 := by omega
    obtain ⟨hle, heq⟩ := ih hnext (seg.ready hready)
    obtain ⟨hfirst, hshelter⟩ := countP_shift hlead (Scan.start.commaDepths seg.chars)
    have hcount : (t.commaDepths (ended ((seg :: segs).map Segment.chars))).countP (· ≤ 0) =
        ((Scan.start.commaDepths seg.chars).map (· + lead)).countP (· ≤ 0) + 1 +
          ((t.feedAll (seg.chars ++ [','])).commaDepths
            (ended (segs.map Segment.chars))).countP (· ≤ 0) := by
      obtain ⟨hquote, htop⟩ := (Scan.isTop_iff _).mp (seg.isTop hlead hready)
      rw [List.map_cons, ended, List.flatMap_cons, Scan.commaDepths_append, Scan.commaDepths_append,
        ← hready.agree.commaDepths, Scan.commaDepths_shift, List.countP_append, List.countP_append,
        Scan.commaDepths, if_pos ⟨rfl, hquote⟩, List.countP_cons_of_pos (by simpa using htop)]
      rfl
    have hpieces := seg.cuts.length_eq seg.ne_nil
    rw [← seg.joined] at hpieces
    rw [hcount, List.flatMap_cons, List.length_append, hpieces]
    exact ⟨by omega, fun h => ⟨hshelter (by omega), heq (by omega)⟩⟩

/-! ## 3. The pieces of a list

Here the two directions meet.  If the commas are sheltered, the pieces of the list are those of its
segments; if the list spells the assignments, its weight leaves no room for a further piece. -/

/-- Spans behind one another spell their assignments behind one another. -/
theorem SpellAll.append {ps qs : List (List Char)} {as bs : List Assignment} (h : SpellAll ps as)
    (h' : SpellAll qs bs) : SpellAll (ps ++ qs) (as ++ bs) := by
  induction h with
  | nil => exact h'
  | blank hp _ ih => exact ih.blank hp
  | cons hp _ ih => exact ih.cons hp

/-- **A span weighs as much as its assignments and its separators.**  Each piece has a comma
behind it here, and so has each rendered assignment; the pieces that are in excess are blank, and
what they weigh is their commas. -/
theorem SpellAll.weight_eq {ps : List (List Char)} {as : List Assignment} (h : SpellAll ps as) :
    weight (ended ps) + as.length = weight (ended (as.map Assignment.piece)) + ps.length := by
  have hcomma : weight [','] = 1 := by decide
  induction h with
  | nil => rfl
  | blank hp _ ih =>
    have hblank := weight_blank hp
    simp only [ended, List.flatMap_cons, weight_append, List.length_cons] at ih ⊢
    omega
  | cons hp _ ih =>
    have heq := hp.weight_eq
    simp only [ended, List.map_cons, List.flatMap_cons, weight_append, List.length_cons] at ih ⊢
    omega

/-- Where there is an assignment there is an `=`. -/
theorem SpellAll.equals_mem {ps : List (List Char)} {as : List Assignment} (h : SpellAll ps as)
    (hne : as ≠ []) : '=' ∈ ended ps := by
  induction h with
  | nil => exact absurd rfl hne
  | blank _ _ ih => exact List.mem_append_right _ (ih hne)
  | cons hp _ _ =>
    obtain ⟨b₁, b₂, b₃, b₄, rfl, -⟩ := hp.text
    simp [ended]

/-- Segments behind one another spell an assignment each. -/
theorem spellAll_segments (segs : List Segment) :
    SpellAll (segs.flatMap Segment.pieces) (segs.map Segment.assignment) := by
  induction segs with
  | nil => exact SpellAll.nil
  | cons seg segs ih => exact seg.spells.append ih

/-- Pieces of segments, or segments as pieces: the same characters. -/
theorem ended_segments (segs : List Segment) :
    ended (segs.flatMap Segment.pieces) = ended (segs.map Segment.chars) := by
  induction segs with
  | nil => rfl
  | cons seg segs ih =>
    have happend : ∀ ps qs, ended (ps ++ qs) = ended ps ++ ended qs :=
      fun _ _ => List.flatMap_append
    rw [List.flatMap_cons, happend, ih, seg.ended_pieces]
    rfl

/-- Joined by commas or with a comma behind each is the same information. -/
theorem intercalate_eq_iff {ps qs : List (List Char)} (hp : ps ≠ []) (hq : qs ≠ []) :
    [','].intercalate ps = [','].intercalate qs ↔ ended ps = ended qs := by
  rw [← intercalate_append_comma hp, ← intercalate_append_comma hq, List.append_left_inj]

/-- The start of a span is the start of a list. -/
theorem ready_shift_zero : (Scan.start.shift 0).Ready Scan.start := by
  rw [Scan.shift_zero]
  exact ready_start true

/-- The comma behind the last segment changes nothing, so their span ends outside quotes. -/
theorem isTop_spelled {words : List String} {segs : List Segment} (hne : segs ≠ [])
    (hwords : spelled [] words = [','].intercalate (segs.map Segment.chars)) :
    (Scan.start.feedAll (spelled [] words)).isTop = true := by
  have hlevel := Scan.level_feed_parts (by decide : Scan.parts ',' = true)
    (Scan.start.feedAll (spelled [] words))
  have hended : (Scan.start.feedAll (ended (segs.map Segment.chars))).isTop = true :=
    isTop_segments (Int.le_refl 0) ready_shift_zero
  rw [← intercalate_append_comma (by simpa using hne), ← hwords, Scan.feedAll_append] at hended
  exact hlevel.isTop.symm.trans hended

/-- The pieces of a span that ends outside are as many as the commas that separate, with one behind
the last. -/
theorem Scan.Cuts.length_ended {scan : Scan} {ps : List (List Char)} (h : scan.Cuts ps)
    (hne : ps ≠ []) (htop : (scan.feedAll ([','].intercalate ps)).isTop = true) :
    (scan.commaDepths (ended ps)).countP (· ≤ 0) = ps.length := by
  obtain ⟨hquote, hdepth⟩ := (Scan.isTop_iff _).mp htop
  rw [← intercalate_append_comma hne, Scan.commaDepths_append, List.countP_append,
    Scan.commaDepths, if_pos ⟨rfl, hquote⟩, List.countP_cons_of_pos (by simpa using hdepth),
    h.length_eq hne]
  rfl

/-- **Segments joined by commas spell their assignments exactly if their commas are sheltered.**
Where one is not, there are too many pieces: with their separators they weigh too much. -/
theorem exists_pieces_iff {words : List String} {segs : List Segment} (hne : segs ≠ [])
    (hwords : spelled [] words = [','].intercalate (segs.map Segment.chars)) :
    (∃ ps, SpanPieces words ps ∧ SpellAll ps (segs.map Segment.assignment)) ↔
      Sheltered 0 (segs.map Segment.chars) := by
  have htop := isTop_spelled hne hwords
  have hscan : ({ quotes := !leavesOpen (spelled [] words) } : Scan) = Scan.start := by
    have hopen : leavesOpen (spelled [] words) = false := ((Scan.isTop_iff _).mp htop).1
    rw [hopen]
    rfl
  have hchars : segs.map Segment.chars ≠ [] := by simpa using hne
  constructor
  · rintro ⟨ps, hps, hspell⟩
    -- the same text in two divisions; they are told apart by how many pieces there are, as the
    -- assignments are the same
    have hended : ended ps = ended (segs.map Segment.chars) :=
      (intercalate_eq_iff hps.ne_nil hchars).mp (hps.joined.symm.trans hwords)
    have hcount := (hscan ▸ hps.cuts).length_ended hps.ne_nil (hps.joined ▸ htop)
    have hweight := hspell.weight_eq
    have hweight' := (spellAll_segments segs).weight_eq
    rw [ended_segments, ← hended] at hweight'
    refine (length_segments (Int.le_refl 0) ready_shift_zero).2 ?_
    rw [← hended, hcount]
    omega
  · intro hshelter
    have hpieces : segs.flatMap Segment.pieces ≠ [] := by
      obtain ⟨seg, segs, rfl⟩ := List.exists_cons_of_ne_nil hne
      simp [seg.ne_nil]
    refine ⟨segs.flatMap Segment.pieces, ⟨hpieces, ?_, ?_⟩, spellAll_segments segs⟩
    · rw [hwords, intercalate_eq_iff hchars hpieces, ended_segments]
    · rw [hscan]
      exact cuts_segments (Int.le_refl 0) ready_shift_zero hshelter

/-- A segment has a character, so there is a word. -/
theorem words_ne_nil_of_segments {words : List String} {segs : List Segment} (hne : segs ≠ [])
    (hwords : spelled [] words = [','].intercalate (segs.map Segment.chars)) : words ≠ [] := by
  rintro rfl
  have hmem := (spellAll_segments segs).equals_mem (by simpa using hne)
  rw [ended_segments, ← intercalate_append_comma (by simpa using hne), ← hwords] at hmem
  exact absurd hmem (by decide)

/-! ## 4. Blanks ahead of a separator

A text in a list has a comma behind it, and if a blank ends the text, the comma is a word of its
own and a space stands ahead of it.  These blanks belong to the last piece and change nothing. -/

/-- A comma is not blank. -/
theorem not_comma_mem_of_blank {gap : List Char} (h : ∀ c ∈ gap, Text.isBlank c = true) :
    ',' ∉ gap := fun hmem => absurd (h ',' hmem) (by decide)

/-- Blanks behind a piece are blanks behind its value. -/
theorem Spells.pad {p : List Char} {a : Assignment} (h : Spells p a) {gap : List Char}
    (hgap : ∀ c ∈ gap, Text.isBlank c = true) : Spells (p ++ gap) a := by
  obtain ⟨b₁, b₂, b₃, b₄, rfl, hblank⟩ := h.text
  refine ⟨h.writable, b₁, b₂, b₃, b₄ ++ gap, by simp, ?_⟩
  intro c hc
  rw [← List.append_assoc] at hc
  rcases List.mem_append.mp hc with hc | hc
  · exact hblank c hc
  · exact hgap c hc

/-- Blanks behind the last piece belong to it. -/
theorem SpellAll.exists_pad {ps : List (List Char)} {as : List Assignment} (h : SpellAll ps as)
    (hne : ps ≠ []) {scan : Scan} (hcuts : scan.Cuts ps) {gap : List Char}
    (hgap : ∀ c ∈ gap, Text.isBlank c = true) :
    ∃ qs, qs ≠ [] ∧ [','].intercalate ps ++ gap = [','].intercalate qs ∧ scan.Cuts qs ∧
      SpellAll qs as := by
  have hclosed : ∀ scan : Scan, scan.Closed gap := by
    intro scan
    rw [Scan.closed_iff, Scan.commaDepths_of_not_mem (not_comma_mem_of_blank hgap)]
    exact List.forall_mem_nil _
  have hlast : ∀ {p : List Char} {scan : Scan}, scan.Cuts [p] → scan.Cuts [p ++ gap] :=
    fun h => ⟨Scan.closed_append.mpr ⟨h.1, hclosed _⟩, fun hne => absurd rfl hne, trivial⟩
  have hmore : ∀ {p q : List Char} {ps qs : List (List Char)} {scan : Scan},
      scan.Cuts (p :: q :: ps) → ((scan.feedAll p).feed ',').Cuts qs → scan.Cuts (p :: qs) :=
    fun h h' => ⟨h.1, fun _ => h.2.1 (by simp), h'⟩
  have hjoin : ∀ {p q : List Char} {ps qs : List (List Char)}, qs ≠ [] →
      [','].intercalate (q :: ps) ++ gap = [','].intercalate qs →
        [','].intercalate (p :: q :: ps) ++ gap = [','].intercalate (p :: qs) := by
    intro p q ps qs hqs heq
    rw [List.intercalate_cons_cons, List.intercalate_cons_of_ne_nil hqs, ← heq, List.append_assoc]
  induction h generalizing scan with
  | nil => exact absurd rfl hne
  | @blank p ps as hp h ih =>
    cases ps with
    | nil =>
      refine ⟨[p ++ gap], by simp, by simp, hlast hcuts, h.blank ?_⟩
      intro c hc
      rcases List.mem_append.mp hc with hc | hc
      · exact hp c hc
      · exact hgap c hc
    | cons q ps =>
      obtain ⟨qs, hqs, heq, hcuts', hspell⟩ := ih (List.cons_ne_nil q ps) hcuts.2.2
      exact ⟨p :: qs, by simp, hjoin hqs heq, hmore hcuts hcuts', hspell.blank hp⟩
  | @cons p ps a as hp h ih =>
    cases ps with
    | nil => exact ⟨[p ++ gap], by simp, by simp, hlast hcuts, h.cons (hp.pad hgap)⟩
    | cons q ps =>
      obtain ⟨qs, hqs, heq, hcuts', hspell⟩ := ih (List.cons_ne_nil q ps) hcuts.2.2
      exact ⟨p :: qs, by simp, hjoin hqs heq, hmore hcuts hcuts', hspell.cons hp⟩

/-- So a segment with blanks behind it is a segment. -/
theorem Segment.exists_pad (seg : Segment) {gap : List Char}
    (hgap : ∀ c ∈ gap, Text.isBlank c = true) :
    ∃ seg' : Segment, seg'.chars = seg.chars ++ gap ∧ seg'.assignment = seg.assignment := by
  obtain ⟨qs, hqs, heq, hcuts, hspell⟩ := seg.spells.exists_pad seg.ne_nil seg.cuts hgap
  have hlevel : (Scan.start.feedAll (seg.chars ++ gap)).Level (Scan.start.feedAll seg.chars) := by
    rw [Scan.feedAll_append]
    exact Scan.level_feedAll_blank hgap _
  exact ⟨⟨seg.chars ++ gap, qs, seg.assignment, hqs, by rw [seg.joined, heq], hcuts, hspell,
    hlevel.inQuote.trans seg.quotes, hlevel.depth.trans_le seg.depth⟩, rfl, rfl⟩

/-- And it is sheltered where it was: blanks hold no comma and no parenthesis. -/
theorem sheltered_pad {cs gap : List Char} (hgap : ∀ c ∈ gap, Text.isBlank c = true)
    {lead : Int} {rest : List (List Char)} :
    Sheltered lead ((cs ++ gap) :: rest) ↔ Sheltered lead (cs :: rest) := by
  have hdepth := (Scan.level_feedAll_blank hgap (Scan.start.feedAll cs)).depth
  rw [Sheltered, Sheltered, Scan.commaDepths_append, Scan.feedAll_append, hdepth,
    Scan.commaDepths_of_not_mem (not_comma_mem_of_blank hgap), List.append_nil]

/-! ## 5. The texts of a list

From characters to statements.  `setText` is an UPDATE around a span, and its words are the words
of the span behind four others, so that reading it is reading the span
(`parseMutation_setText_iff`). -/

/-- The characters of a text as the scan of a span meets them: its words, a space ahead of each. -/
def spanChars (text : String) : List Char := spelled [] (Text.words text)

/-- An UPDATE of this hexad. -/
def setText (id text : String) : String := "UPDATE HEXAD " ++ id ++ " SET " ++ text

/-- The words of the span are behind those of the head. -/
theorem words_setText {id : String} (hid : Text.IsWord id.toList) (text : String) :
    Text.words (setText id text) = "UPDATE" :: "HEXAD" :: id :: "SET" :: Text.words text := by
  have hlead : Text.words "UPDATE HEXAD" = ["UPDATE", "HEXAD"] := by decide
  have hset : Text.words "SET" = ["SET"] := by decide
  have htext : setText id text =
      "UPDATE HEXAD" ++ " " ++ (id ++ " " ++ ("SET" ++ " " ++ text)) := by
    have hupdate : "UPDATE HEXAD " = "UPDATE HEXAD" ++ " " := by decide
    have hspaces : " SET " = " " ++ ("SET" ++ " ") := by decide
    rw [setText, hupdate, hspaces]
    simp only [String.append_assoc]
  rw [htext, Text.words_append_space, Text.words_append_space, Text.words_append_space, hlead, hset,
    Text.words_of_isWord hid]
  rfl

/-- A comma behind a text ends its last word, or is a word if a blank is ahead of it. -/
theorem words_append_comma (text : String) : ∃ gap : List Char,
    (∀ c ∈ gap, Text.isBlank c = true) ∧
      spelled [] (Text.words (text ++ ",")) = spanChars text ++ gap ++ [','] ∧
      ∀ word ∈ Text.words (text ++ ","), word ∈ Text.words text ∨ ',' ∈ word.toList := by
  obtain ⟨front, last, hlast, hwords⟩ := Text.exists_charWords_append text.toList
  have htext : Text.words text =
      (front ++ if last = [] then [] else [last]).map String.ofList := by
    have hnone := hwords []
    rw [List.append_nil, List.append_nil, Text.charWords_of_solid hlast] at hnone
    rw [Text.words_eq, hnone]
  have hcomma : Text.words (text ++ ",") = (front ++ [last ++ [',']]).map String.ofList := by
    have hword : Text.IsWord (last ++ [',']) := by
      refine ⟨by simp, fun c hc => ?_⟩
      rcases List.mem_append.mp hc with hc | hc
      · exact hlast c hc
      · exact (by decide : Text.IsWord [',']).solid c hc
    rw [Text.words_eq, String.toList_append, ← hword.charWords]
    exact congrArg _ (hwords [','])
  refine ⟨if last = [] then [' '] else [], ?_, ?_, ?_⟩
  · split
    · simp [Text.isBlank_space]
    · exact List.forall_mem_nil _
  · rw [spanChars, htext, hcomma]
    by_cases hnil : last = []
    · simp [spelled, hnil]
    · simp [spelled, hnil]
  · intro word hword
    rw [hcomma, List.map_append, List.mem_append] at hword
    rcases hword with hword | hword
    · left
      rw [htext, List.map_append]
      exact List.mem_append_left _ hword
    · right
      rw [List.map_singleton, List.mem_singleton] at hword
      simp [hword]

/-- **An UPDATE without PROOF is read by its span alone.**  The id is an operand and no word of
the text is PROOF, so the span is all that is left to go wrong. -/
theorem parseMutation_setText_iff {id : String} (hid : IsOperand id) {text : String}
    (hplain : ∀ word ∈ Text.words text, Text.sameLetters word "PROOF" = false)
    {as : List Assignment} : (parseMutation (setText id text)).result = .ok (.update id as []) ↔
      Text.words text ≠ [] ∧ ∃ ps, SpanPieces (Text.words text) ps ∧ SpellAll ps as := by
  obtain ⟨next, hnext, hstep⟩ := Rule.mutation_step
    ((Cursor.words_ofText _).trans (words_setText hid.isWord text))
    fun _ => Rule.mutationBody_update
  rw [parseMutation, Outcome.accepted_result, Rule.run_eq_ok, hstep]
  constructor
  · rintro ⟨rest, hread, -⟩
    have hwords : ∀ w ∈ next.words, Text.IsWord w.toList := by
      intro w hw
      refine Text.isWord_of_mem_words (s := setText id text) ?_
      rw [words_setText hid.isWord, ← hnext]
      exact List.mem_cons_of_mem _ hw
    obtain ⟨_, _, set, after, _, _, hall, -, hset, -, heq⟩ := Rule.update_eq_ok hwords hread
    obtain ⟨-, rfl, -⟩ := Mutation.update.inj heq
    rw [hall] at hwords
    obtain ⟨_, span, ps, hspan, hne, -, hbehind, hps, hspell⟩ :=
      Rule.setClause_eq_ok (fun w hw => hwords w (by simp [hw])) hset
    rw [hall, hspan] at hnext
    simp only [List.cons.injEq] at hnext
    obtain ⟨-, -, -, hsplit⟩ := hnext
    -- what is behind the span starts with PROOF, and PROOF is no word of the text
    have hafter : after.words = [] := by
      cases hword : after.words with
      | nil => rfl
      | cons word words =>
        have hproof := hbehind word (by rw [hword]; rfl)
        rw [hplain word (by rw [← hsplit, hword]; simp)] at hproof
        exact absurd hproof (by simp)
    rw [hafter, List.append_nil] at hsplit
    subst hsplit
    exact ⟨hne, ps, hps, hspell⟩
  · rintro ⟨hne, ps, hps, hspell⟩
    have hread : Rule.Reads Rule.setClause
        ("SET" :: (Text.words text ++ WrittenChain.optionWords (writtenProof []))) (· = as) _ :=
      Rule.reads_span hps hspell hne (fun _ => Text.isWord_of_mem_words) hplain
        fun _ => writtenProof_head
    refine ((Rule.update_leavesProof hid hread ?_).comes_back_iff
      (fun _ _ heq => (Mutation.update.inj heq).2.2) (List.forall_mem_nil _)).mpr
        (List.forall_mem_nil _)
    rw [hnext]
    simp [writtenProof, WrittenChain.optionWords]

/-! ## 6. Assignments that stand alone

What a text has to be to be called an assignment: an UPDATE with this text alone reads it as one.
The condition on parentheses is the weakest that keeps a text from opening one for its neighbours,
and it lets texts through that close more than they open, which is where the trouble starts. -/

/-- A text without PROOF that an UPDATE reads as one assignment; it closes its quotes and its
parentheses. -/
structure StandsAlone (id text : String) (a : Assignment) : Prop where
  /-- an UPDATE with this text alone has this assignment and no other -/
  read : (parseMutation (setText id text)).result = .ok (.update id [a] [])
  /-- no word of it ends the span -/
  plain : ∀ word ∈ Text.words text, Text.sameLetters word "PROOF" = false
  /-- it closes its quotes -/
  quotes : (Scan.start.feedAll (spanChars text)).inQuote = false
  /-- it closes its parentheses -/
  parens : (Scan.start.feedAll (spanChars text)).depth ≤ 0

namespace StandsAlone

variable {id text : String} {a : Assignment}

/-- The hexad of an UPDATE that was read is an operand. -/
theorem isOperand (h : StandsAlone id text a) : IsOperand id := by
  have hread := h.read
  rw [parseMutation, Outcome.accepted_result, Rule.run_eq_ok] at hread
  obtain ⟨rest, hread⟩ := hread
  refine (Rule.mutation_writable (fun w hw => ?_) hread).1
  rw [Cursor.words_ofText] at hw
  exact Text.isWord_of_mem_words hw

/-- **A text that stands alone is a segment**, with the pieces its own UPDATE was cut into.  Its
own UPDATE was read, so its span was cut and what was cut spells the assignment. -/
theorem exists_segment (h : StandsAlone id text a) :
    ∃ seg : Segment, seg.chars = spanChars text ∧ seg.assignment = a := by
  obtain ⟨-, ps, hps, hspell⟩ := (parseMutation_setText_iff h.isOperand h.plain).mp h.read
  have hcuts := hps.cuts
  have hopen : leavesOpen (spelled [] (Text.words text)) = false := h.quotes
  rw [hopen] at hcuts
  exact ⟨⟨spanChars text, ps, a, hps.ne_nil, hps.joined, hcuts, hspell, h.quotes, h.parens⟩, rfl,
    rfl⟩

end StandsAlone

/-- The comma of a list belongs to the text ahead of it. -/
theorem commaList_cons {texts : List String} (hne : texts ≠ []) (text : String) :
    commaList (text :: texts) = (text ++ ",") ++ " " ++ commaList texts := by
  obtain ⟨next, texts, rfl⟩ := List.exists_cons_of_ne_nil hne
  rw [← String.toList_inj]
  simp [commaList, String.toList_append]

/-- **Texts that stand alone are segments of their list**, each up to a blank behind it.  The
blank ahead of a comma is given to the segment, whose assignment stays the same. -/
theorem exists_segments {id : String} {texts : List String} {as : List Assignment}
    (h : List.Forall₂ (StandsAlone id) texts as) (hne : texts ≠ []) :
    ∃ segs : List Segment, segs ≠ [] ∧ segs.map Segment.assignment = as ∧
      spanChars (commaList texts) = [','].intercalate (segs.map Segment.chars) ∧
      (∀ lead, Sheltered lead (segs.map Segment.chars) ↔ Sheltered lead (texts.map spanChars)) ∧
      ∀ word ∈ Text.words (commaList texts), Text.sameLetters word "PROOF" = false := by
  induction h with
  | nil => exact absurd rfl hne
  | @cons text a texts as h hs ih =>
    obtain ⟨seg, hchars, rfl⟩ := h.exists_segment
    by_cases hlast : texts = []
    · subst hlast
      obtain rfl := List.forall₂_nil_left_iff.mp hs
      have hlist : commaList [text] = text := by simp [commaList]
      refine ⟨[seg], by simp, rfl, ?_, ?_, ?_⟩
      · rw [hlist, List.map_singleton, List.intercalate_singleton, hchars]
      · simp [hchars]
      · rw [hlist]
        exact h.plain
    · obtain ⟨segs, hsegs, rfl, hjoined, hshelter, hplain⟩ := ih hlast
      obtain ⟨gap, hgap, hcomma, hwords⟩ := words_append_comma text
      obtain ⟨padded, hpadded, hassignment⟩ := seg.exists_pad hgap
      rw [hchars] at hpadded
      have hlist : Text.words (commaList (text :: texts)) =
          Text.words (text ++ ",") ++ Text.words (commaList texts) := by
        rw [commaList_cons hlast, Text.words_append_space]
      refine ⟨padded :: segs, by simp, by rw [List.map_cons, hassignment], ?_, ?_, ?_⟩
      · have hspelled : ∀ xs ys, spelled [] (xs ++ ys) = spelled [] xs ++ spelled [] ys := by
          simp [spelled]
        rw [spanChars, hlist, hspelled, hcomma, List.map_cons, hpadded,
          List.intercalate_cons_of_ne_nil (by simpa using hsegs), ← hjoined, spanChars, spanChars]
      · intro lead
        rw [List.map_cons, List.map_cons, hpadded, sheltered_pad hgap, Sheltered, Sheltered,
          hshelter]
      · intro word hword
        rw [hlist, List.mem_append] at hword
        rcases hword with hword | hword
        · rcases hwords word hword with hword | hword
          · exact h.plain word hword
          · exact Text.sameLetters_of_not_alpha hword (by decide) (by decide)
        · exact hplain word hword

/-- **Assignments that stand alone make a list exactly if their commas are sheltered.**  Nothing
else keeps them from being read together, whatever they hold; only a `)` that closes nothing can
leave a later text so low that its parentheses no longer keep a comma from separating. -/
theorem parseMutation_assignments_iff (config : Config) {id : String} {texts : List String}
    {as : List Assignment} (hne : texts ≠ []) (h : List.Forall₂ (StandsAlone id) texts as) :
    ((parseMutation (setText id (commaList texts))).result = .ok (.update id as []) ↔
        Sheltered 0 (texts.map spanChars)) ∧
      ((parseStatement config (setText id (commaList texts))).result =
          .ok (.mutation (.update id as [])) ↔ Sheltered 0 (texts.map spanChars)) := by
  have hid : IsOperand id := by
    cases h with
    | nil => exact absurd rfl hne
    | cons h _ => exact h.isOperand
  obtain ⟨segs, hsegs, rfl, hjoined, hshelter, hplain⟩ := exists_segments h hne
  rw [parseStatement_mutation_iff, and_self, parseMutation_setText_iff hid hplain,
    exists_pieces_iff hsegs hjoined, hshelter]
  exact and_iff_right (words_ne_nil_of_segments hsegs hjoined)

/-- Commas between parentheses and between quotes, and at the end a `)` that closes nothing. -/
theorem parseMutation_of_sheltered_texts :
    (parseMutation "UPDATE HEXAD e SET a=f(1, 2),  b = 'x, (y' , c=)").result =
      .ok (.update "e" [⟨"a", "f(1, 2)"⟩, ⟨"b", "'x, (y'"⟩, ⟨"c", ")"⟩] []) := by
  have ha : StandsAlone "e" "a=f(1, 2)" ⟨"a", "f(1, 2)"⟩ :=
    ⟨by decide +kernel, by decide +kernel, by decide +kernel, by decide +kernel⟩
  have hb : StandsAlone "e" " b = 'x, (y' " ⟨"b", "'x, (y'"⟩ :=
    ⟨by decide +kernel, by decide +kernel, by decide +kernel, by decide +kernel⟩
  have hc : StandsAlone "e" "c=)" ⟨"c", ")"⟩ :=
    ⟨by decide +kernel, by decide +kernel, by decide +kernel, by decide +kernel⟩
  exact (parseMutation_assignments_iff {} (List.cons_ne_nil _ _)
    (.cons ha (.cons hb (.cons hc .nil)))).1.mpr (by decide +kernel)

/-- Two assignments that stand alone and make three: behind the `)` that closes nothing, the comma
between the parentheses separates. -/
theorem update_separates_between_parentheses :
    StandsAlone "e1" "a=)" ⟨"a", ")"⟩ ∧
      StandsAlone "e1" "b=f(1, c=2)" ⟨"b", "f(1, c=2)"⟩ ∧
      (parseMutation (setText "e1" (commaList ["a=)", "b=f(1, c=2)"]))).result =
        .ok (.update "e1" [⟨"a", ")"⟩, ⟨"b", "f(1"⟩, ⟨"c", "2)"⟩] []) :=
  ⟨⟨by decide +kernel, by decide +kernel, by decide +kernel, by decide +kernel⟩,
    ⟨by decide +kernel, by decide +kernel, by decide +kernel, by decide +kernel⟩,
    by decide +kernel⟩

/-! ## 7. Spans without an assignment

`setSpan` finds the span in the text of any statement, and the piece that spells something has a
character which is neither a blank nor a comma.  The source checks for an empty list of tokens
only, so the other spans without an assignment get through. -/

/-- The words of an UPDATE behind SET, up to PROOF. -/
def setSpan (input : String) : List String :=
  ((Text.words input).drop 4).takeWhile fun word => !Text.sameLetters word "PROOF"

/-- The span holds words of the input. -/
theorem isWord_of_mem_setSpan {input word : String} (h : word ∈ setSpan input) :
    Text.IsWord word.toList :=
  Text.isWord_of_mem_words (List.mem_of_mem_drop ((List.takeWhile_sublist _).subset h))

namespace Rule

/-- Only an UPDATE yields an update. -/
theorem update_of_mutationBody {first : Token} {cursor rest : Cursor} {id : String}
    {as : List Assignment} {proof : List ProofSpec}
    (h : (mutationBody first cursor).result = .ok (.update id as proof, rest)) :
    (update cursor).result = .ok (.update id as proof, rest) := by
  unfold mutationBody at h
  split at h
  · obtain ⟨_, c₁, -, h⟩ := bind_eq_ok.mp h
    obtain ⟨_, c₂, -, h⟩ := bind_eq_ok.mp h
    obtain ⟨_, c₃, -, h⟩ := bind_eq_ok.mp h
    obtain ⟨-, h⟩ := (lookahead_eq_ok fun _ _ => ⟨_, rfl⟩).mp h
    obtain ⟨_, c₄, -, h⟩ := bind_eq_ok.mp h
    obtain ⟨_, c₅, -, h⟩ := bind_eq_ok.mp h
    simp at h
  · split at h
    · exact h
    · split at h
      · obtain ⟨_, c₁, -, h⟩ := bind_eq_ok.mp h
        obtain ⟨_, c₂, -, h⟩ := bind_eq_ok.mp h
        obtain ⟨_, c₃, -, h⟩ := bind_eq_ok.mp h
        simp at h
      · simp at h

end Rule

/-- The span of an UPDATE that was read, and its pieces. -/
theorem setSpan_of_update {input : String} {id : String} {as : List Assignment}
    {proof : List ProofSpec} (h : (parseMutation input).result = .ok (.update id as proof)) :
    ∃ ps, SpanPieces (setSpan input) ps ∧ SpellAll ps as := by
  rw [parseMutation, Outcome.accepted_result, Rule.run_eq_ok] at h
  obtain ⟨rest, h⟩ := h
  obtain ⟨first, next, htokens, -, hbody, -⟩ := Rule.mutation_eq_ok.mp h
  have hinput : Text.words input = first.text :: next.words := by
    rw [← Cursor.words_ofText, Cursor.words, htokens]
    rfl
  have hwords : ∀ w ∈ next.words, Text.IsWord w.toList := by
    intro w hw
    refine Text.isWord_of_mem_words (s := input) ?_
    rw [hinput]
    exact List.mem_cons_of_mem _ hw
  obtain ⟨hexad, _, set, after, _, _, hall, -, hset, -, heq⟩ :=
    Rule.update_eq_ok hwords (Rule.update_of_mutationBody hbody)
  obtain ⟨rfl, rfl, -⟩ := Mutation.update.inj heq
  rw [hall] at hwords
  obtain ⟨_, span, ps, hspan, -, hinside, hbehind, hps, hspell⟩ :=
    Rule.setClause_eq_ok (fun w hw => hwords w (by simp [hw])) hset
  have htake : setSpan input = span := by
    rw [setSpan, hinput, hall, hspan]
    refine (List.takeWhile_append_of_pos fun w hw => by simp [hinside w hw]).trans ?_
    cases hafter : after.words with
    | nil => simp
    | cons word words =>
      rw [List.takeWhile_cons_of_neg (by simp [hbehind word (by rw [hafter]; rfl)]),
        List.append_nil]
  exact ⟨ps, htake ▸ hps, hspell⟩

/-- Pieces that spell nothing hold blanks and the commas between them. -/
theorem SpellAll.eq_comma_of_nil {ps : List (List Char)} (h : SpellAll ps []) :
    ∀ c ∈ ended ps, Text.isBlank c = true ∨ c = ',' := by
  induction ps with
  | nil => exact List.forall_mem_nil _
  | cons p ps ih =>
    cases h with
    | blank hp h =>
      intro c hc
      simp only [ended, List.flatMap_cons, List.mem_append, List.mem_singleton] at hc
      rcases hc with (hc | rfl) | hc
      · exact Or.inl (hp c hc)
      · exact Or.inr rfl
      · exact ih h c hc

/-- **An UPDATE that was read has an assignment exactly if its span holds more than commas.**  The
span is not empty, so it has pieces; those that are blank are passed over, and a span has no
other only if it is blanks and separating commas.  What has no assignment therefore has been read
from a span of commas. -/
theorem update_assigns_iff {config : Config} {input id : String} {as : List Assignment}
    {proof : List ProofSpec} (h : (parseMutation input).result = .ok (.update id as proof) ∨
      (parseStatement config input).result = .ok (.mutation (.update id as proof))) :
    as ≠ [] ↔ ∃ word ∈ setSpan input, ∃ c ∈ word.toList, c ≠ ',' := by
  rw [parseStatement_mutation_iff, or_self] at h
  obtain ⟨ps, hps, hspell⟩ := setSpan_of_update h
  have hended : ended ps = spelled [] (setSpan input) ++ [','] := by
    rw [hps.joined, intercalate_append_comma hps.ne_nil]
  constructor
  · intro hne
    have hmem := hspell.equals_mem hne
    obtain ⟨word, hword, hc⟩ : ∃ word ∈ setSpan input, '=' ∈ word.toList := by
      simpa [hended, spelled] using hmem
    exact ⟨word, hword, '=', hc, by decide⟩
  · rintro ⟨word, hword, c, hc, hcomma⟩ rfl
    have hmem : c ∈ ended ps := by
      rw [hended, spelled]
      simp only [List.nil_append, List.mem_append, List.mem_flatMap]
      exact Or.inl ⟨word, hword, List.mem_cons_of_mem _ hc⟩
    rcases hspell.eq_comma_of_nil c hmem with hblank | rfl
    · have hsolid := (isWord_of_mem_setSpan hword).solid c hc
      exact absurd hblank (by simp [hsolid])
    · exact hcomma rfl

/-- A comma ahead of an assignment is no harm. -/
theorem update_assigns_behind_comma :
    (parseStatement {} "UPDATE HEXAD e SET , a=1").result =
        .ok (.mutation (.update "e" [⟨"a", "1"⟩] [])) ∧
      ∃ word ∈ setSpan "UPDATE HEXAD e SET , a=1", ∃ c ∈ word.toList, c ≠ ',' := by
  have h : (parseStatement {} "UPDATE HEXAD e SET , a=1").result =
      .ok (.mutation (.update "e" [⟨"a", "1"⟩] [])) := by decide +kernel
  exact ⟨h, (update_assigns_iff (Or.inr h)).mp (by simp)⟩

/-- An UPDATE that assigns nothing: a comma is a word, so the span is not empty. -/
theorem update_of_comma_alone :
    (parseMutation "UPDATE HEXAD e1 SET ,").result = .ok (.update "e1" [] []) ∧
      (parseStatement {} "UPDATE HEXAD e1 SET ,").result = .ok (.mutation (.update "e1" [] [])) :=
  ⟨by decide +kernel, by decide +kernel⟩

end HexadQuery
