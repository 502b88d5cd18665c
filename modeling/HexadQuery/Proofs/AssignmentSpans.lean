/-
# The span of an UPDATE and its rendering

Reading a span forgets the blanks around the `=` of an assignment and at the ends of a piece, and
the pieces that hold nothing; `render_mutation` writes them out without.  That changes the
characters a scan meets, and the scan of `assignment_pieces` decides where a quote opens by the
character before it (`opens_value`).  Nothing goes wrong because every place where something is
left out is a place where a value can start, before and after: behind a blank, an `=` or a comma.

`Scan.Agree` is the relation that carries this: two scans with the same depth and the same open
quotes, both or neither at a place where a value can start.  Agreement is kept by every character
(`Scan.Agree.feed`), so it is enough to see that the two sides agree again where they have met
different characters.  `Spells.level` follows one piece and its rendering, and two inductions over
the pieces follow a span and its rendering: the same quotes are left open at the end
(`SpellAll.leavesOpen_eq`), which decides whether quotes count, and the same commas separate
(`SpellAll.cuts`).  The first of them needs no assumption on where the pieces were cut, since
quotes count for it in any case.

`Scan.Cuts` says what cutting yields: pieces, joined by commas, with no separating comma inside a
piece and one behind each but the last.  It speaks of characters only.  That the function which
cuts a list of placed characters yields these pieces, and no others, is `SpanChar.cuts_cutTexts`
and `SpanChar.cutTexts_eq`; from there on the recursion of the cut is not looked at again.

What comes out is a description of reading a span that does not mention scanning: the tokens after
SET are read as assignments exactly if their text can be cut into `SpanPieces` that spell them
(`Rule.assignments_eq_ok`).  A rendered list is cut into its rendered pieces
(`SpanPieces.rendered`), so it is read as the same list.
-/
import HexadQuery.Grammar.Mutation
import HexadQuery.Proofs.ProofRendering

namespace HexadQuery

/-! ## 1. Scans that agree

Two relations between scans.  `Level` is enough to know whether a comma separates; `Agree` is
enough to know it of all commas that follow, since it tells the two apart by no character. -/

namespace Scan

/-- Where a scan stands after more characters. -/
def feedAll (scan : Scan) (cs : List Char) : Scan := cs.foldl feed scan

@[simp] theorem feedAll_nil (scan : Scan) : scan.feedAll [] = scan := rfl

@[simp] theorem feedAll_cons (scan : Scan) (c : Char) (cs : List Char) :
    scan.feedAll (c :: cs) = (scan.feed c).feedAll cs := rfl

theorem feedAll_append (scan : Scan) (as bs : List Char) :
    scan.feedAll (as ++ bs) = (scan.feedAll as).feedAll bs := List.foldl_append

/-- The same depth, and the same quotes open and counted. -/
structure Level (s t : Scan) : Prop where
  depth : s.depth = t.depth
  quotes : s.quotes = t.quotes
  inSingle : s.inSingle = t.inSingle
  inDouble : s.inDouble = t.inDouble

/-- Scans that a character can not tell apart. -/
structure Agree (s t : Scan) : Prop extends Level s t where
  /-- a quote behind either would open a value, or behind neither -/
  startsValue : s.startsValue = t.startsValue

theorem Level.refl (s : Scan) : Level s s := ⟨rfl, rfl, rfl, rfl⟩

theorem Level.symm {s t : Scan} (h : Level s t) : Level t s :=
  ⟨h.depth.symm, h.quotes.symm, h.inSingle.symm, h.inDouble.symm⟩

theorem Level.trans {s t u : Scan} (h : Level s t) (h' : Level t u) : Level s u :=
  ⟨h.depth.trans h'.depth, h.quotes.trans h'.quotes, h.inSingle.trans h'.inSingle,
    h.inDouble.trans h'.inDouble⟩

/-- Scans on one level are both inside quotes or both outside. -/
theorem Level.inQuote {s t : Scan} (h : Level s t) : s.inQuote = t.inQuote := by
  rw [Scan.inQuote, Scan.inQuote, h.inSingle, h.inDouble]

/-- Scans on one level take a comma in the same way. -/
theorem Level.isTop {s t : Scan} (h : Level s t) : s.isTop = t.isTop := by
  rw [Scan.isTop, Scan.isTop, h.inQuote, h.depth]

/-- The character before is what decides where a value can start. -/
theorem startsValue_of_previous {s t : Scan} (h : s.previous = t.previous) :
    s.startsValue = t.startsValue := by
  rw [startsValue, startsValue, h]

/-- What a scan remembers of the text is its last character. -/
theorem previous_feed (s : Scan) (c : Char) : (s.feed c).previous = some c := rfl

/-- **One character keeps scans in agreement.**  They may differ in the character before it, as long
as a value starts behind both or behind neither. -/
theorem Agree.feed {s t : Scan} (h : Agree s t) (c : Char) : Agree (s.feed c) (t.feed c) := by
  refine ⟨?_, startsValue_of_previous (by rw [previous_feed, previous_feed])⟩
  obtain ⟨⟨hd, hq, hs, hD⟩, hv⟩ := h
  have hi : s.inQuote = t.inQuote := by rw [inQuote, inQuote, hs, hD]
  unfold Scan.feed
  rw [hd, hq, hs, hD, hv, hi]
  split
  · exact ⟨rfl, rfl, rfl, rfl⟩
  · split
    · exact ⟨rfl, rfl, rfl, rfl⟩
    · split
      · exact ⟨hd, hq, hs, hD⟩
      · exact ⟨rfl, rfl, rfl, rfl⟩

/-- **Whole texts keep scans in agreement.** -/
theorem Agree.feedAll {s t : Scan} (h : Agree s t) (cs : List Char) :
    Agree (s.feedAll cs) (t.feedAll cs) := by
  induction cs generalizing s t with
  | nil => exact h
  | cons c cs ih => exact ih (h.feed c)

/-- A character that is no quote and no parenthesis changes nothing but the character before. -/
theorem level_feed {c : Char} (hs : c ≠ '\'') (hd : c ≠ '"') (ho : c ≠ '(') (hc : c ≠ ')')
    (s : Scan) : Level (s.feed c) s := by
  unfold feed
  simp only [Bool.false_and, nest_eq_self ho hc, Bool.false_eq_true, if_false,
    beq_eq_false_iff_ne.mpr hs, beq_eq_false_iff_ne.mpr hd]
  split <;> exact ⟨rfl, rfl, rfl, rfl⟩

/-! ## 2. Characters that part

The characters that a rendering adds or leaves out.  Each of them keeps the level and makes a place
where a value can start, and so two scans that are `Ready` stay ready whatever of them stands on
one side alone. -/

/-- Blanks, and the two characters the assignments are built with: behind them a value can start,
and they open and close nothing. -/
def parts (c : Char) : Bool := Text.isBlank c || c == '=' || c == ','

/-- Blanks part. -/
theorem parts_of_isBlank {c : Char} (h : Text.isBlank c = true) : parts c = true := by
  simp [parts, h]

/-- What parts opens and closes nothing. -/
theorem level_feed_parts {c : Char} (h : parts c = true) (s : Scan) : Level (s.feed c) s := by
  refine level_feed ?_ ?_ ?_ ?_ s
  · rintro rfl
    exact absurd h (by decide)
  · rintro rfl
    exact absurd h (by decide)
  · rintro rfl
    exact absurd h (by decide)
  · rintro rfl
    exact absurd h (by decide)

/-- Behind what parts a value can start. -/
theorem startsValue_feed_parts {c : Char} (h : parts c = true) (s : Scan) :
    (s.feed c).startsValue = true := by
  have hprevious : (s.feed c).startsValue =
      (Text.isBlank c || c == '=' || c == '(' || c == ',') := by
    rw [startsValue, previous_feed]
  rw [hprevious]
  simp only [parts, Bool.or_eq_true] at h
  rcases h with (h | h) | h
  · simp [h]
  · simp [h]
  · simp [h]

/-- Scans on one level, both where a value can start. -/
structure Ready (s t : Scan) : Prop extends Level s t where
  left : s.startsValue = true
  right : t.startsValue = true

/-- Readiness is agreement of a special kind: on both sides a value can start. -/
theorem Ready.agree {s t : Scan} (h : Ready s t) : Agree s t :=
  ⟨h.toLevel, h.left.trans h.right.symm⟩

theorem Ready.symm {s t : Scan} (h : Ready s t) : Ready t s :=
  ⟨h.toLevel.symm, h.right, h.left⟩

/-- Whatever parts can stand on one side alone. -/
theorem Ready.feed_left {s t : Scan} (h : Ready s t) {c : Char} (hc : parts c = true) :
    Ready (s.feed c) t :=
  ⟨(level_feed_parts hc s).trans h.toLevel, startsValue_feed_parts hc s, h.right⟩

/-- The same for a text of such characters. -/
theorem Ready.feedAll_left {s t : Scan} (h : Ready s t) {cs : List Char}
    (hcs : ∀ c ∈ cs, parts c = true) : Ready (s.feedAll cs) t := by
  induction cs generalizing s with
  | nil => exact h
  | cons c cs ih =>
    exact ih (h.feed_left (hcs c List.mem_cons_self)) fun d hd => hcs d (List.mem_cons_of_mem _ hd)

/-- Scans on one level that a character which parts has made ready. -/
theorem Level.ready {s t : Scan} (h : Level s t) {c d : Char} (hc : parts c = true)
    (hd : parts d = true) : Ready (s.feed c) (t.feed d) :=
  ⟨((level_feed_parts hc s).trans h).trans (level_feed_parts hd t).symm,
    startsValue_feed_parts hc s, startsValue_feed_parts hd t⟩

/-- Blanks at the end of a piece do not matter to the comma behind it. -/
theorem level_feedAll_blank {cs : List Char} (h : ∀ c ∈ cs, Text.isBlank c = true) (s : Scan) :
    Level (s.feedAll cs) s := by
  induction cs generalizing s with
  | nil => exact Level.refl s
  | cons c cs ih =>
    have hc := level_feed_parts (parts_of_isBlank (h c List.mem_cons_self)) s
    exact (ih (fun d hd => h d (List.mem_cons_of_mem _ hd)) (s.feed c)).trans hc

/-! ## 3. Cutting

What cutting yields, said of characters.  The positions that the source keeps for its errors are of
no account here. -/

/-- No comma of the text separates. -/
def Closed (scan : Scan) : List Char → Prop
  | [] => True
  | c :: cs => (c = ',' → scan.isTop = false) ∧ Closed (scan.feed c) cs

/-- The pieces of a text: no comma inside a piece separates, and one that does follows each piece
but the last. -/
def Cuts (scan : Scan) : List (List Char) → Prop
  | [] => True
  | p :: ps => scan.Closed p ∧ (ps ≠ [] → (scan.feedAll p).isTop = true) ∧
      Cuts ((scan.feedAll p).feed ',') ps

/-- A text is free of separators if both its parts are, the second from where the first ends. -/
theorem closed_append {scan : Scan} {as bs : List Char} :
    scan.Closed (as ++ bs) ↔ scan.Closed as ∧ (scan.feedAll as).Closed bs := by
  induction as generalizing scan with
  | nil => simp [Closed]
  | cons c as ih => simp only [List.cons_append, Closed, feedAll_cons, ih, and_assoc]

/-- Scans in agreement find the same commas. -/
theorem Agree.closed {s t : Scan} (h : Agree s t) {cs : List Char} (hs : s.Closed cs) :
    t.Closed cs := by
  induction cs generalizing s t with
  | nil => trivial
  | cons c cs ih =>
    refine ⟨fun hc => ?_, ih (h.feed c) hs.2⟩
    rw [← h.isTop]
    exact hs.1 hc

end Scan

namespace SpanChar

/-- The characters without their positions. -/
def chars (cs : List SpanChar) : List Char := cs.map (·.char)

/-- The pieces of a cut, by their characters. -/
def cutTexts (scan : Scan) (cs : List SpanChar) : List (List Char) :=
  ((cut scan cs).1 :: (cut scan cs).2).map chars

/-- A comma that separates ends a piece, which is empty so far. -/
theorem cutTexts_cons_separator {scan : Scan} {c : SpanChar} (hc : c.char = ',')
    (htop : scan.isTop = true) (cs : List SpanChar) :
    cutTexts scan (c :: cs) = [] :: cutTexts (scan.feed ',') cs := by
  simp [cutTexts, cut, hc, htop, chars]

/-- Any other character is put in front of the first piece. -/
theorem cutTexts_cons_inside {scan : Scan} {c : SpanChar} (h : c.char = ',' → scan.isTop = false)
    (cs : List SpanChar) : ∃ p ps, cutTexts (scan.feed c.char) cs = p :: ps ∧
      cutTexts scan (c :: cs) = (c.char :: p) :: ps := by
  have hif : (c.char == ',' && scan.isTop) = false := by
    by_cases hc : c.char = ','
    · simp [h hc]
    · simp [hc]
  refine ⟨_, _, rfl, ?_⟩
  simp [cutTexts, cut, hif, chars]

/-- **Cutting yields pieces of the text.**  A separator begins a piece, and any other character
is put in front of the first one. -/
theorem cuts_cutTexts (scan : Scan) (cs : List SpanChar) :
    scan.Cuts (cutTexts scan cs) ∧ [','].intercalate (cutTexts scan cs) = chars cs := by
  induction cs generalizing scan with
  | nil =>
    refine ⟨⟨trivial, ?_, trivial⟩, ?_⟩
    · simp [cut]
    · simp [cutTexts, cut, chars]
  | cons c cs ih =>
    by_cases hsep : c.char = ',' ∧ scan.isTop = true
    · obtain ⟨hcut, hjoin⟩ := ih (scan.feed ',')
      have hne : cutTexts (scan.feed ',') cs ≠ [] := by simp [cutTexts]
      rw [cutTexts_cons_separator hsep.1 hsep.2]
      refine ⟨⟨trivial, fun _ => hsep.2, hcut⟩, ?_⟩
      rw [List.intercalate_cons_of_ne_nil hne, hjoin, List.nil_append, List.singleton_append,
        ← hsep.1]
      rfl
    · have hin : c.char = ',' → scan.isTop = false := by
        intro hc
        rw [Bool.eq_false_iff]
        exact fun htop => hsep ⟨hc, htop⟩
      obtain ⟨hcut, hjoin⟩ := ih (scan.feed c.char)
      obtain ⟨p, ps, hp, hps⟩ := cutTexts_cons_inside hin cs
      rw [hp] at hcut hjoin
      rw [hps]
      refine ⟨⟨⟨hin, hcut.1⟩, hcut.2.1, hcut.2.2⟩, ?_⟩
      rw [List.intercalate_cons_cons_left, hjoin]
      rfl

/-- **Pieces of a text are what cutting yields.**  With the lemma above, what is cut can be
described without the cut: texts joined by commas, of which each closes what it opens. -/
theorem cutTexts_eq {scan : Scan} {cs : List SpanChar} {p : List Char} {ps : List (List Char)}
    (hcut : scan.Cuts (p :: ps)) (hjoin : chars cs = [','].intercalate (p :: ps)) :
    cutTexts scan cs = p :: ps := by
  induction cs generalizing scan p ps with
  | nil =>
    cases p with
    | nil =>
      cases ps with
      | nil => rfl
      | cons q qs => exact absurd hjoin (by simp [chars])
    | cons d p =>
      rw [List.intercalate_cons_cons_left] at hjoin
      exact absurd hjoin (by simp [chars])
  | cons c cs ih =>
    cases p with
    | nil =>
      cases ps with
      | nil => exact absurd hjoin (by simp [chars])
      | cons q qs =>
        obtain ⟨-, htop, hrest⟩ := hcut
        rw [Scan.feedAll_nil] at htop hrest
        rw [List.intercalate_cons_cons, List.nil_append, List.singleton_append] at hjoin
        have hc : c.char = ',' := List.head_eq_of_cons_eq hjoin
        have htail : chars cs = [','].intercalate (q :: qs) := List.tail_eq_of_cons_eq hjoin
        rw [cutTexts_cons_separator hc (htop (by simp)), ih hrest htail]
    | cons d p =>
      obtain ⟨hclosed, htop, hrest⟩ := hcut
      rw [List.intercalate_cons_cons_left] at hjoin
      obtain rfl : c.char = d := List.head_eq_of_cons_eq hjoin
      have htail : chars cs = [','].intercalate (p :: ps) := List.tail_eq_of_cons_eq hjoin
      obtain ⟨q, qs, hq, hqs⟩ := cutTexts_cons_inside hclosed.1 cs
      rw [ih ⟨hclosed.2, htop, hrest⟩ htail] at hq
      obtain ⟨rfl, rfl⟩ := List.cons.inj hq
      exact hqs

/-! ## 4. The texts of the pieces

From characters with positions to texts.  Blanks have no position, so a piece of blanks has none
either and yields no assignment; `split_assignments` passes it over. -/

/-- The characters without a position are the blanks. -/
def Placed (cs : List SpanChar) : Prop := ∀ c ∈ cs, c.position = none ↔ Text.isBlank c.char = true

/-- The characters of tokens are placed, and the spaces between tokens are the only blanks. -/
theorem placed_ofTokens {tokens : List Token} (h : ∀ t ∈ tokens, Text.IsWord t.text.toList) :
    Placed (ofTokens tokens) := by
  intro c hc
  obtain ⟨t, ht, hmem⟩ := List.mem_flatMap.mp hc
  rcases List.mem_cons.mp hmem with rfl | hmem
  · simp [Text.isBlank_space]
  · obtain ⟨d, hd, rfl⟩ := List.mem_map.mp hmem
    simp [(h t ht).solid d hd]

/-- Forgetting the positions leaves the words of the tokens, spelled out. -/
theorem chars_ofTokens (tokens : List Token) :
    chars (ofTokens tokens) = spelled [] (tokens.map (·.text)) := by
  simp [chars, ofTokens, ofToken, spelled, List.map_flatMap, List.flatMap_map, Function.comp_def]

/-- Cutting loses no character but commas. -/
theorem mem_of_mem_cut {scan : Scan} {cs : List SpanChar} {p : List SpanChar}
    (hp : p ∈ (cut scan cs).1 :: (cut scan cs).2) {c : SpanChar} (hc : c ∈ p) : c ∈ cs := by
  induction cs generalizing scan p with
  | nil =>
    simp only [cut, List.mem_singleton] at hp
    rw [hp] at hc
    exact hc
  | cons d cs ih =>
    simp only [cut] at hp
    split at hp
    · rcases List.mem_cons.mp hp with rfl | hp
      · exact absurd hc (by simp)
      · exact List.mem_cons_of_mem _ (ih hp hc)
    · rcases List.mem_cons.mp hp with rfl | hp
      · rcases List.mem_cons.mp hc with rfl | hc
        · exact List.mem_cons_self
        · exact List.mem_cons_of_mem _ (ih List.mem_cons_self hc)
      · exact List.mem_cons_of_mem _ (ih (List.mem_cons_of_mem _ hp) hc)

/-- The text of a piece, if it is not blank. -/
def pieceText? (p : List Char) : Option String :=
  if p.all Text.isBlank then none else some (String.ofList (Text.trimChars p))

/-- The text of a piece depends on its characters alone. -/
theorem map_text_piece? {cs : List SpanChar} (h : Placed cs) :
    (piece? cs).map (·.text) = pieceText? (chars cs) := by
  have hall : (chars cs).all Text.isBlank = (cs.findSome? (·.position)).isNone := by
    rw [Bool.eq_iff_iff, Option.isNone_iff_eq_none, List.findSome?_eq_none_iff, chars,
      List.all_map, List.all_eq_true]
    exact forall₂_congr fun c hc => (h c hc).symm
  rw [pieceText?, hall, piece?]
  cases cs.findSome? (·.position) with
  | none => rfl
  | some position => rfl

/-- **The texts of the pieces depend on the characters alone.**  The positions go into errors
only, so they can be left out of everything that is said of readings that succeed. -/
theorem map_text_filterMap_piece? {scan : Scan} {cs : List SpanChar} (h : Placed cs) :
    (((cut scan cs).1 :: (cut scan cs).2).filterMap piece?).map (·.text) =
      (cutTexts scan cs).filterMap pieceText? := by
  rw [List.map_filterMap, cutTexts, List.filterMap_map]
  refine List.filterMap_congr fun p hp => ?_
  exact map_text_piece? fun c hc => h c (mem_of_mem_cut hp hc)

end SpanChar

/-! ## 5. The assignment of a piece

`Spells` is an assignment as it can be written, with any blanks at the four places where they do
not matter.  Reading is its inverse on texts with single spaces, in both directions
(`spells_of_read` and `Spells.read`). -/

/-- What an assignment can be read as. -/
structure Assignment.Writable (a : Assignment) : Prop where
  field_ne : a.field ≠ ""
  /-- trimmed, with single spaces -/
  field : Text.Normal a.field.toList
  /-- it ends ahead of the first equals sign -/
  field_plain : '=' ∉ a.field.toList
  value_ne : a.value ≠ ""
  /-- trimmed, with single spaces; an equals sign may be in it -/
  value : Text.Normal a.value.toList

/-- A piece that spells an assignment: the field, an `=` and the value, with blanks around each. -/
structure Spells (p : List Char) (a : Assignment) : Prop where
  writable : a.Writable
  text : ∃ b₁ b₂ b₃ b₄ : List Char, p = b₁ ++ (a.field.toList ++ (b₂ ++ '=' ::
      (b₃ ++ a.value.toList))) ++ b₄ ∧ ∀ c ∈ b₁ ++ b₂ ++ b₃ ++ b₄, Text.isBlank c = true

/-- Read an assignment whose value is not empty. -/
def readAssignment? (text : String) : Option Assignment :=
  (Piece.assignment? text).filter (·.value ≠ "")

/-- The first `=` divides field and value; both are trimmed, and neither is empty then. -/
theorem readAssignment?_eq_some {text : String} {a : Assignment} :
    readAssignment? text = some a ↔ ∃ field value, text.toList = field ++ '=' :: value ∧
      '=' ∉ field ∧ a.field.toList = Text.trimChars field ∧ a.field ≠ "" ∧
      a.value.toList = Text.trimChars value ∧ a.value ≠ "" := by
  have hspan : ∀ {field value : List Char}, '=' ∉ field →
      (field ++ '=' :: value).span (· != '=') = (field, '=' :: value) := by
    intro field value hfield
    have hpos : ∀ c ∈ field, (c != '=') = true := by
      intro c hc
      rw [bne_iff_ne]
      rintro rfl
      exact hfield hc
    rw [List.span_eq_takeWhile_dropWhile, List.takeWhile_append_of_pos hpos,
      List.dropWhile_append_of_pos hpos]
    simp
  have hblank : ∀ field : List Char, field.all Text.isBlank = true ↔ Text.trimChars field = [] := by
    intro field
    rw [Text.trimChars_eq_nil_iff, List.all_eq_true]
  constructor
  · intro h
    obtain ⟨hread, hvalue⟩ := Option.filter_eq_some_iff.mp h
    unfold Piece.assignment? at hread
    split at hread
    · next field value hcs =>
      rw [List.span_eq_takeWhile_dropWhile, Prod.mk.injEq] at hcs
      split at hread
      · exact absurd hread (by simp)
      · next hfield =>
        obtain rfl := Option.some.inj hread
        -- a blank field is refused by the reading, a blank value by the check behind it
        rw [hblank] at hfield
        refine ⟨field, value, ?_, ?_, by simp, ?_, by simp, by simpa using hvalue⟩
        · rw [← hcs.2, ← hcs.1, List.takeWhile_append_dropWhile]
        · intro hmem
          rw [← hcs.1] at hmem
          exact absurd (List.mem_takeWhile_imp hmem) (by simp)
        · intro hnil
          exact hfield (by simpa using congrArg String.toList hnil)
    · exact absurd hread (by simp)
  · rintro ⟨field, value, htext, hplain, hfield, hfieldne, hvalue, hvaluene⟩
    have hne : field.all Text.isBlank = false := by
      rw [Bool.eq_false_iff, ne_eq, hblank, ← hfield]
      exact mt String.toList_eq_nil_iff.mp hfieldne
    refine Option.filter_eq_some_iff.mpr ⟨?_, by simpa using hvaluene⟩
    rw [Piece.assignment?, htext, hspan hplain]
    simp only [hne, Bool.false_eq_true, if_false, ← hfield, ← hvalue, String.ofList_toList]

/-- A piece that spells an assignment is not blank, since it holds an `=`. -/
theorem Spells.not_blank {p : List Char} {a : Assignment} (h : Spells p a) :
    p.all Text.isBlank = false := by
  obtain ⟨b₁, b₂, b₃, b₄, rfl, -⟩ := h.text
  rw [Bool.eq_false_iff]
  intro hall
  have heq := List.all_eq_true.mp hall '=' (by simp)
  exact absurd heq (by decide)

/-- A piece whose text reads as an assignment spells it. -/
theorem spells_of_read {p : List Char} (hp : Text.Spaced p) {a : Assignment}
    (h : readAssignment? (String.ofList (Text.trimChars p)) = some a) : Spells p a := by
  obtain ⟨field, value, hcs, hplain, hfield, hfieldne, hvalue, hvaluene⟩ :=
    readAssignment?_eq_some.mp h
  rw [String.toList_ofList] at hcs
  obtain ⟨b₁, b₄, hpeq, hb₁, hb₄⟩ := Text.exists_trimChars_eq p
  obtain ⟨c₁, c₂, hfeq, hc₁, hc₂⟩ := Text.exists_trimChars_eq field
  obtain ⟨d₁, d₂, hveq, hd₁, hd₂⟩ := Text.exists_trimChars_eq value
  have hwhole : p = b₁ ++ (field ++ '=' :: value) ++ b₄ := by rw [← hcs, ← hpeq]
  have hspacedf : Text.Spaced field := hp.within ⟨b₁, '=' :: value ++ b₄, by rw [hwhole]; simp⟩
  have hspacedv : Text.Spaced value := hp.within ⟨b₁ ++ field ++ ['='], b₄, by rw [hwhole]; simp⟩
  refine ⟨⟨hfieldne, ?_, ?_, hvaluene, ?_⟩, b₁ ++ c₁, c₂, d₁, d₂ ++ b₄, ?_, ?_⟩
  · rw [hfield]
    exact hspacedf.trim
  · intro hmem
    rw [hfield] at hmem
    exact hplain (by rw [hfeq]; simp [hmem])
  · rw [hvalue]
    exact hspacedv.trim
  · rw [hwhole, hfield, hvalue]
    nth_rewrite 1 [hfeq, hveq]
    simp
  · intro c hc
    simp only [List.mem_append] at hc
    rcases hc with (((hc | hc) | hc) | hc) | (hc | hc)
    · exact hb₁ c hc
    · exact hc₁ c hc
    · exact hc₂ c hc
    · exact hd₁ c hc
    · exact hd₂ c hc
    · exact hb₄ c hc

/-- The text of a piece reads as the assignment that the piece spells.  Trimming drops the outer
blanks; the inner ones are dropped with the field and the value. -/
theorem Spells.read {p : List Char} {a : Assignment} (h : Spells p a) :
    readAssignment? (String.ofList (Text.trimChars p)) = some a := by
  obtain ⟨b₁, b₂, b₃, b₄, heq, hblank⟩ := h.text
  have hb₂ : ∀ c ∈ b₂, Text.isBlank c = true := fun c hc => hblank c (by simp [hc])
  have hb₃ : ∀ c ∈ b₃, Text.isBlank c = true := fun c hc => hblank c (by simp [hc])
  have hfieldne := mt String.toList_eq_nil_iff.mp h.writable.field_ne
  have hvaluene := mt String.toList_eq_nil_iff.mp h.writable.value_ne
  have htrim : Text.trimChars p = a.field.toList ++ (b₂ ++ '=' :: (b₃ ++ a.value.toList)) := by
    rw [heq]
    refine Text.trimChars_append_blanks (by simp) ?_ ?_ (fun c hc => hblank c (by simp [hc]))
      (fun c hc => hblank c (by simp [hc]))
    · intro c hc
      rw [List.head?_append_of_ne_nil _ hfieldne] at hc
      exact h.writable.field.head c hc
    · intro c hc
      refine h.writable.value.last c ?_
      obtain ⟨v, vs, hv⟩ := List.exists_cons_of_ne_nil hvaluene
      simpa [List.getLast?_append, List.getLast?_cons, hv] using hc
  rw [readAssignment?_eq_some, String.toList_ofList, htrim]
  refine ⟨a.field.toList ++ b₂, b₃ ++ a.value.toList, by simp, ?_, ?_, h.writable.field_ne, ?_,
    h.writable.value_ne⟩
  · intro hmem
    rcases List.mem_append.mp hmem with hmem | hmem
    · exact h.writable.field_plain hmem
    · exact absurd (hb₂ '=' hmem) (by decide)
  · have htrim₂ := Text.trimChars_append_blanks hfieldne h.writable.field.head
      h.writable.field.last (List.forall_mem_nil _) hb₂
    rw [List.nil_append] at htrim₂
    exact htrim₂.symm
  · have htrim₃ := Text.trimChars_append_blanks hvaluene h.writable.value.head
      h.writable.value.last hb₃ (List.forall_mem_nil _)
    rw [List.append_nil] at htrim₃
    exact htrim₃.symm

/-- The assignments that the pieces of a span spell; a blank piece spells none. -/
inductive SpellAll : List (List Char) → List Assignment → Prop
  | nil : SpellAll [] []
  | blank {p : List Char} {ps : List (List Char)} {as : List Assignment}
      (hp : ∀ c ∈ p, Text.isBlank c = true) (h : SpellAll ps as) : SpellAll (p :: ps) as
  | cons {p : List Char} {ps : List (List Char)} {a : Assignment} {as : List Assignment}
      (hp : Spells p a) (h : SpellAll ps as) : SpellAll (p :: ps) (a :: as)

/-- What is spelled can be written. -/
theorem SpellAll.writable {ps : List (List Char)} {as : List Assignment} (h : SpellAll ps as) :
    ∀ a ∈ as, a.Writable := by
  induction h with
  | nil => simp
  | blank _ _ ih => exact ih
  | cons hp _ ih =>
    intro a ha
    rcases List.mem_cons.mp ha with rfl | ha
    · exact hp.writable
    · exact ih a ha

/-- **The texts of pieces read as the assignments that the pieces spell.** -/
theorem spellAll_iff {ps : List (List Char)} (hps : ∀ p ∈ ps, Text.Spaced p)
    {as : List Assignment} :
    (ps.filterMap SpanChar.pieceText?).map readAssignment? = as.map some ↔ SpellAll ps as := by
  induction ps generalizing as with
  | nil =>
    constructor
    · intro h
      obtain rfl : as = [] := by simpa using h
      exact SpellAll.nil
    · intro h
      cases h
      rfl
  | cons p ps ih =>
    have hrest : ∀ q ∈ ps, Text.Spaced q := fun q hq => hps q (List.mem_cons_of_mem _ hq)
    cases hall : p.all Text.isBlank with
    | true =>
      have htext : SpanChar.pieceText? p = none := by simp [SpanChar.pieceText?, hall]
      rw [List.filterMap_cons_none htext, ih hrest]
      constructor
      · exact SpellAll.blank (List.all_eq_true.mp hall)
      · intro h
        cases h with
        | blank _ h => exact h
        | cons hp _ => exact absurd hp.not_blank (by simp [hall])
    | false =>
      have htext : SpanChar.pieceText? p = some (String.ofList (Text.trimChars p)) := by
        simp [SpanChar.pieceText?, hall]
      rw [List.filterMap_cons_some htext, List.map_cons]
      constructor
      · intro h
        obtain ⟨a, as, rfl, ha, has⟩ := List.map_eq_cons_iff.mp h.symm
        exact SpellAll.cons (spells_of_read (hps p List.mem_cons_self) ha.symm)
          ((ih hrest).mp has.symm)
      · intro h
        cases h with
        | blank hp _ => exact absurd (List.all_eq_true.mpr hp) (by simp [hall])
        | cons hp h => rw [hp.read, (ih hrest).mpr h, List.map_cons]

/-! ## 6. A span and its rendering

The heart of the module.  `Spells.level` is the step and `SpellAll.cuts` and `SpellAll.ready` are
the runs.  A blank piece is on one side only: the rendering has neither it nor its comma, and both
part.

The weight of a span, the number of its characters that are not blank, is a measure on the side.  A
rendering is no heavier than what it renders, and a list that is read differently from its text can
be told by its weight. -/

/-- The piece an assignment is rendered as; a space stands behind SET and behind a comma. -/
def Assignment.piece (a : Assignment) : List Char :=
  ' ' :: (a.field.toList ++ '=' :: a.value.toList)

/-- The rendered piece spells its assignment, with a space in front and no other blank. -/
theorem Assignment.Writable.spells_piece {a : Assignment} (h : a.Writable) : Spells a.piece a :=
  ⟨h, [' '], [], [], [], by simp [Assignment.piece], by simp [Text.isBlank_space]⟩

/-- **A piece and its rendering leave scans on one level**, and no comma of the rendering
separates if none of the piece did. -/
theorem Spells.level {p : List Char} {a : Assignment} (h : Spells p a) {s t : Scan}
    (hready : s.Ready t) : (s.feedAll p).Level (t.feedAll a.piece) ∧
      (s.Closed p → t.Closed a.piece) := by
  obtain ⟨b₁, b₂, b₃, b₄, rfl, hblank⟩ := h.text
  have hb₁ : ∀ c ∈ b₁, Scan.parts c = true :=
    fun c hc => Scan.parts_of_isBlank (hblank c (by simp [hc]))
  have hb₂ : ∀ c ∈ b₂, Text.isBlank c = true := fun c hc => hblank c (by simp [hc])
  have hb₃ : ∀ c ∈ b₃, Scan.parts c = true :=
    fun c hc => Scan.parts_of_isBlank (hblank c (by simp [hc]))
  have hb₄ : ∀ c ∈ b₄, Text.isBlank c = true := fun c hc => hblank c (by simp [hc])
  have hequals : Scan.parts '=' = true := by decide
  have hfield : (s.feedAll b₁).Agree (t.feed ' ') :=
    (((hready.feedAll_left hb₁).symm.feed_left (by decide : Scan.parts ' ' = true)).symm).agree
  have hfield' := hfield.feedAll a.field.toList
  have hvalue : (((((s.feedAll b₁).feedAll a.field.toList).feedAll b₂).feed '=').feedAll b₃).Agree
      (((t.feed ' ').feedAll a.field.toList).feed '=') := by
    have hlevel := (Scan.level_feedAll_blank hb₂ _).trans hfield'.toLevel
    exact ((hlevel.ready hequals hequals).feedAll_left hb₃).agree
  have hvalue' := hvalue.feedAll a.value.toList
  refine ⟨?_, ?_⟩
  · simp only [Assignment.piece, Scan.feedAll_append, Scan.feedAll_cons]
    exact (Scan.level_feedAll_blank hb₄ _).trans hvalue'.toLevel
  · intro hclosed
    simp only [Scan.closed_append, Scan.feedAll_append, Scan.Closed, Scan.feedAll_cons] at hclosed
    simp only [Assignment.piece, Scan.closed_append, Scan.Closed]
    refine ⟨fun hc => absurd hc (by decide), hfield.closed hclosed.1.2.1,
      fun hc => absurd hc (by decide), hvalue.closed hclosed.1.2.2.2.2.2⟩

/-- **A span that is cut is cut in its rendering.**  The induction is on the pieces; two scans
that are ready stay so behind the comma that ends a piece, and a blank piece is passed over on one
side only. -/
theorem SpellAll.cuts {ps : List (List Char)} {as : List Assignment} (h : SpellAll ps as)
    {s t : Scan} (hready : s.Ready t) (hcuts : s.Cuts ps) :
    t.Cuts (as.map Assignment.piece) := by
  have hcomma : Scan.parts ',' = true := by decide
  induction h generalizing s t with
  | nil => trivial
  | blank hp _ ih =>
    have hblank := hready.feedAll_left fun c hc => Scan.parts_of_isBlank (hp c hc)
    exact ih (hblank.feed_left hcomma) hcuts.2.2
  | cons hp h ih =>
    obtain ⟨hlevel, hclosed⟩ := hp.level hready
    refine ⟨hclosed hcuts.1, ?_, ih (hlevel.ready hcomma hcomma) hcuts.2.2⟩
    intro hne
    rw [← hlevel.isTop]
    refine hcuts.2.1 ?_
    rintro rfl
    cases h
    exact hne rfl

/-- Pieces, a comma behind each. -/
def ended (ps : List (List Char)) : List Char := ps.flatMap (· ++ [','])

/-- Pieces joined by commas, and a comma behind the last. -/
theorem intercalate_append_comma : ∀ {ps : List (List Char)}, ps ≠ [] →
    [','].intercalate ps ++ [','] = ended ps
  | [], h => absurd rfl h
  | [p], _ => by simp [ended]
  | p :: q :: ps, _ => by
    have ih := intercalate_append_comma (List.cons_ne_nil q ps)
    rw [List.intercalate_cons_cons, List.append_assoc, ih]
    simp [ended]

/-- **A span and its rendering leave scans on one level.** -/
theorem SpellAll.ready {ps : List (List Char)} {as : List Assignment} (h : SpellAll ps as)
    {s t : Scan} (hready : s.Ready t) :
    (s.feedAll (ended ps)).Ready (t.feedAll (ended (as.map Assignment.piece))) := by
  have hcomma : Scan.parts ',' = true := by decide
  induction h generalizing s t with
  | nil => exact hready
  | blank hp _ ih =>
    have hblank := hready.feedAll_left fun c hc => Scan.parts_of_isBlank (hp c hc)
    simpa [ended, Scan.feedAll_append] using ih (hblank.feed_left hcomma)
  | cons hp _ ih =>
    have hlevel := (hp.level hready).1
    simpa [ended, Scan.feedAll_append] using ih (hlevel.ready hcomma hcomma)

/-- The characters of a text that are not blank. -/
def weight (cs : List Char) : Nat := cs.countP fun c => !Text.isBlank c

@[simp] theorem weight_append (as bs : List Char) : weight (as ++ bs) = weight as + weight bs :=
  List.countP_append

/-- Blanks weigh nothing. -/
theorem weight_blank {cs : List Char} (h : ∀ c ∈ cs, Text.isBlank c = true) : weight cs = 0 :=
  List.countP_eq_zero.mpr fun c hc => by simp [h c hc]

/-- A piece has the characters of its rendering, and blanks. -/
theorem Spells.weight_eq {p : List Char} {a : Assignment} (h : Spells p a) :
    weight p = weight a.piece := by
  obtain ⟨b₁, b₂, b₃, b₄, rfl, hblank⟩ := h.text
  have hb₁ : weight b₁ = 0 := weight_blank fun c hc => hblank c (by simp [hc])
  have hb₂ : weight b₂ = 0 := weight_blank fun c hc => hblank c (by simp [hc])
  have hb₃ : weight b₃ = 0 := weight_blank fun c hc => hblank c (by simp [hc])
  have hb₄ : weight b₄ = 0 := weight_blank fun c hc => hblank c (by simp [hc])
  have hspace : weight [' '] = 0 := by decide
  have hpiece : a.piece = [' '] ++ a.field.toList ++ ['='] ++ a.value.toList := by
    simp [Assignment.piece]
  have htext : a.field.toList ++ (b₂ ++ '=' :: (b₃ ++ a.value.toList)) =
      a.field.toList ++ b₂ ++ ['='] ++ b₃ ++ a.value.toList := by simp
  rw [hpiece, htext]
  simp only [weight_append]
  omega

/-- A rendering weighs no more: blank pieces are left out with their commas. -/
theorem SpellAll.weight_le {ps : List (List Char)} {as : List Assignment} (h : SpellAll ps as) :
    weight (ended (as.map Assignment.piece)) ≤ weight (ended ps) := by
  induction h with
  | nil => exact Nat.le_refl _
  | blank _ _ ih =>
    simp only [ended, List.flatMap_cons, weight_append] at ih ⊢
    omega
  | cons hp _ ih =>
    have heq := hp.weight_eq
    simp only [ended, List.map_cons, List.flatMap_cons, weight_append] at ih ⊢
    omega

/-! ## 7. Spans of words

The same for the words after SET.  Whether quotes count is decided by the whole span: if they leave
one open at the end, the span is cut again as if they meant nothing. -/

/-- Whether the last quote of a text is never closed. -/
def leavesOpen (cs : List Char) : Bool := (({ quotes := true } : Scan).feedAll cs).inQuote

/-- The pieces that words after SET are cut into; quotes count if the last of them is closed. -/
structure SpanPieces (words : List String) (ps : List (List Char)) : Prop where
  /-- a span without commas is one piece -/
  ne_nil : ps ≠ []
  /-- the pieces are the span, without the separating commas -/
  joined : spelled [] words = [','].intercalate ps
  /-- and they are parted where a scan of the span separates -/
  cuts : Scan.Cuts { quotes := !leavesOpen (spelled [] words) } ps

/-- The first scan of the span, by its words. -/
theorem hasOpenQuote_eq (tokens : List Token) :
    hasOpenQuote tokens = leavesOpen (spelled [] (tokens.map (·.text))) := by
  rw [hasOpenQuote, scanSpan, leavesOpen, Scan.feedAll, ← SpanChar.chars_ofTokens, SpanChar.chars,
    List.foldl_map]

/-- Words are always cut into some pieces. -/
theorem exists_spanPieces (words : List String) : ∃ ps, SpanPieces words ps := by
  obtain ⟨cursor, hc⟩ := Cursor.exists_words_eq words
  obtain ⟨hcuts, hjoin⟩ := SpanChar.cuts_cutTexts { quotes := !leavesOpen (spelled [] words) }
    (SpanChar.ofTokens cursor.tokens)
  refine ⟨_, by simp [SpanChar.cutTexts], ?_, hcuts⟩
  rw [hjoin, SpanChar.chars_ofTokens, ← hc]
  rfl

/-- **Cutting tokens yields the texts of the pieces of their words.** -/
theorem SpanPieces.map_text {tokens : List Token} {ps : List (List Char)}
    (h : SpanPieces (tokens.map (·.text)) ps)
    (hwords : ∀ t ∈ tokens, Text.IsWord t.text.toList) :
    (assignmentPieces tokens).map (·.text) = ps.filterMap SpanChar.pieceText? := by
  obtain ⟨p, ps, rfl⟩ := List.exists_cons_of_ne_nil h.ne_nil
  have hcut := SpanChar.cutTexts_eq h.cuts ((SpanChar.chars_ofTokens tokens).trans h.joined)
  rw [← hcut, ← SpanChar.map_text_filterMap_piece? (SpanChar.placed_ofTokens hwords),
    ← hasOpenQuote_eq]
  rfl

/-- Words spelled out have single spaces between them. -/
theorem spaced_spelled {words : List String} (h : ∀ w ∈ words, Text.IsWord w.toList) :
    Text.Spaced (spelled [] words) := by
  cases words with
  | nil => exact Text.normal_nil.toSpaced
  | cons word words =>
    have hnormal := Rule.normal_spelled (h word List.mem_cons_self)
      fun w hw => h w (List.mem_cons_of_mem _ hw)
    have hne : spelled word.toList words ≠ [] := by
      have hword := (h word List.mem_cons_self).ne_nil
      simp [spelled, hword]
    obtain ⟨c, cs, hc⟩ := List.exists_cons_of_ne_nil hne
    rw [spelled_cons, List.nil_append, hc]
    rw [hc] at hnormal
    refine ⟨?_, List.isChain_cons_cons.mpr ⟨fun _ => hnormal.head c rfl, hnormal.apart⟩⟩
    intro d hd hblank
    rcases List.mem_cons.mp hd with rfl | hd
    · rfl
    · exact hnormal.spaces d hd hblank

/-- And so have the pieces. -/
theorem SpanPieces.spaced {words : List String} {ps : List (List Char)} (h : SpanPieces words ps)
    (hwords : ∀ w ∈ words, Text.IsWord w.toList) : ∀ p ∈ ps, Text.Spaced p := by
  intro p hp
  have hspaced := spaced_spelled hwords
  rw [h.joined] at hspaced
  exact hspaced.within (infix_intercalate hp)

namespace Rule

/-- An assignment is read from the text of its piece alone. -/
theorem assignment_eq_ok {piece : AssignmentPiece} {cursor rest : Cursor} {a : Assignment} :
    (assignment piece cursor).result = .ok (a, rest) ↔
      readAssignment? piece.text = some a ∧ rest = cursor := by
  unfold assignment readAssignment?
  cases Piece.assignment? piece.text with
  | none => simp
  | some b =>
    by_cases hvalue : b.value = ""
    · simp [hvalue, Option.filter]
    · simp [hvalue, Option.filter, eq_comm]

/-- Reading pieces one by one is reading their texts one by one, and moves no cursor. -/
theorem mapM_assignment_eq_ok {pieces : List AssignmentPiece} {cursor rest : Cursor}
    {as : List Assignment} : ((pieces.mapM assignment) cursor).result = .ok (as, rest) ↔
      (pieces.map (·.text)).map readAssignment? = as.map some ∧ rest = cursor := by
  induction pieces generalizing cursor rest as with
  | nil =>
    cases as with
    | nil => simp [eq_comm]
    | cons a as => simp
  | cons piece pieces ih =>
    simp only [List.mapM_cons, bind_eq_ok, assignment_eq_ok, ih, pure_result, Except.ok.injEq,
      Prod.mk.injEq, List.map_cons]
    constructor
    · rintro ⟨a, mid, ⟨ha, rfl⟩, bs, mid', ⟨hbs, rfl⟩, rfl, rfl⟩
      exact ⟨by rw [ha, hbs, List.map_cons], rfl⟩
    · rintro ⟨h, rfl⟩
      obtain ⟨a, bs, rfl, ha, hbs⟩ := List.map_eq_cons_iff.mp h.symm
      exact ⟨a, rest, ⟨ha.symm, rfl⟩, bs, rest, ⟨hbs.symm, rfl⟩, rfl, rfl⟩

/-- **Reading a span**: the assignments are those its pieces spell.  All that the later modules
use of the reading of a SET span is here. -/
theorem assignments_eq_ok {tokens : List Token}
    (hwords : ∀ t ∈ tokens, Text.IsWord t.text.toList) {cursor rest : Cursor}
    {as : List Assignment} {ps : List (List Char)} (hps : SpanPieces (tokens.map (·.text)) ps) :
    (((assignmentPieces tokens).mapM assignment) cursor).result = .ok (as, rest) ↔
      SpellAll ps as ∧ rest = cursor := by
  have htexts : ∀ w ∈ tokens.map (·.text), Text.IsWord w.toList := by
    intro w hw
    obtain ⟨t, ht, rfl⟩ := List.mem_map.mp hw
    exact hwords t ht
  rw [mapM_assignment_eq_ok, hps.map_text hwords, spellAll_iff (hps.spaced htexts)]

end Rule

/-! ## 8. The rendered span

`render_mutation` writes the assignments with a comma and a space between them.  The section spells
that text out, character by character, and finds in it the pieces of section 6. -/

/-- A rendered assignment, by its characters. -/
theorem Assignment.toList_render (a : Assignment) :
    a.render.toList = a.field.toList ++ '=' :: a.value.toList := by
  simp [Assignment.render, String.toList_append]

/-- A rendered list, with the space ahead of it, is the rendered pieces joined by commas. -/
theorem cons_toList_commaList : ∀ {as : List Assignment}, as ≠ [] →
    ' ' :: (commaList (as.map Assignment.render)).toList =
      [','].intercalate (as.map Assignment.piece)
  | [], h => absurd rfl h
  | [a], _ => by simp [commaList, Assignment.toList_render, Assignment.piece]
  | a :: b :: as, _ => by
    have ih := cons_toList_commaList (List.cons_ne_nil b as)
    simp only [List.map_cons, List.intercalate_cons_cons] at ih ⊢
    rw [← ih]
    simp [commaList, Assignment.toList_render, Assignment.piece, String.toList_append]

/-- Field and value are normal, and the `=` between them is no blank. -/
theorem Assignment.Writable.normal_render {a : Assignment} (h : a.Writable) :
    Text.Normal a.render.toList := by
  have hequals : Text.IsWord ['='] := by decide
  rw [Assignment.toList_render]
  exact h.field.append (hequals.normal.append h.value)

/-- A rendered list is not empty, because an assignment holds an `=`. -/
theorem toList_commaList_ne_nil (a : Assignment) (as : List Assignment) :
    (commaList ((a :: as).map Assignment.render)).toList ≠ [] := by
  cases as with
  | nil => simp [commaList, Assignment.toList_render]
  | cons b as => simp [commaList, String.toList_append]

/-- A rendered list has single spaces, so its words joined are the text itself. -/
theorem normal_commaList : ∀ {as : List Assignment}, (∀ a ∈ as, a.Writable) →
    Text.Normal (commaList (as.map Assignment.render)).toList
  | [], _ => Text.normal_nil
  | [a], h => by simpa [commaList] using (h a List.mem_cons_self).normal_render
  | a :: b :: as, h => by
    have hcomma : Text.IsWord [','] := by decide
    have htail := normal_commaList fun c hc => h c (List.mem_cons_of_mem _ hc)
    have hlist : (commaList ((a :: b :: as).map Assignment.render)).toList =
        (a.render.toList ++ [',']) ++ ' ' ::
          (commaList ((b :: as).map Assignment.render)).toList := by
      simp [commaList, String.toList_append]
    rw [hlist]
    exact ((h a List.mem_cons_self).normal_render.append hcomma.normal).append_space htail
      (by simp) (toList_commaList_ne_nil b as)

/-- A list with an assignment has words, so its span is not refused as empty. -/
theorem words_assignments_ne_nil {as : List Assignment} (h : ∀ a ∈ as, a.Writable)
    (hne : as ≠ []) : Text.words (commaList (as.map Assignment.render)) ≠ [] := by
  obtain ⟨a, as, rfl⟩ := List.exists_cons_of_ne_nil hne
  intro hnil
  have hjoined := Text.joined_words (normal_commaList h)
  rw [hnil] at hjoined
  exact toList_commaList_ne_nil a as (by rw [← hjoined]; rfl)

/-- The words of a rendered list spell it out. -/
theorem spelled_words_commaList {as : List Assignment} (h : ∀ a ∈ as, a.Writable)
    (hne : as ≠ []) : spelled [] (Text.words (commaList (as.map Assignment.render))) =
      [','].intercalate (as.map Assignment.piece) := by
  have hjoined := Text.joined_words (normal_commaList h)
  obtain ⟨word, words, hcons⟩ := List.exists_cons_of_ne_nil (words_assignments_ne_nil h hne)
  rw [← cons_toList_commaList hne, ← hjoined, hcons, Text.words_joined, spelled_cons,
    spelled_eq_intercalate, String.toList_intercalate]
  · rfl
  · intro w hw
    exact Text.isWord_of_mem_words (hcons ▸ hw)

/-- A scan at the start of a span. -/
theorem ready_start (quotes : Bool) : ({ quotes } : Scan).Ready { quotes } :=
  ⟨Scan.Level.refl _, rfl, rfl⟩

/-- **A span and its rendering leave the same quotes open.** -/
theorem SpellAll.leavesOpen_eq {ps : List (List Char)} {as : List Assignment} (h : SpellAll ps as)
    (hps : ps ≠ []) (has : as ≠ []) :
    leavesOpen ([','].intercalate (as.map Assignment.piece)) =
      leavesOpen ([','].intercalate ps) := by
  have hcomma : ∀ (qs : List (List Char)), qs ≠ [] → ∀ scan : Scan,
      (scan.feedAll (ended qs)).Level (scan.feedAll ([','].intercalate qs)) := by
    intro qs hqs scan
    rw [← intercalate_append_comma hqs, Scan.feedAll_append]
    exact Scan.level_feed_parts (by decide) _
  have hready := h.ready (ready_start true)
  have hlevel := ((hcomma ps hps _).symm.trans hready.toLevel).trans
    (hcomma (as.map Assignment.piece) (by simpa using has) _)
  exact hlevel.inQuote.symm

/-- **The rendered span is cut into the rendered pieces.**  What separated in the span separates
in the rendering, and no new comma does: a rendering has single spaces where the span had blanks,
and leaves out the pieces that are blank. -/
theorem SpanPieces.rendered {words : List String} {ps : List (List Char)}
    {as : List Assignment} (h : SpanPieces words ps) (hall : SpellAll ps as) (hne : as ≠ []) :
    SpanPieces (Text.words (commaList (as.map Assignment.render)))
      (as.map Assignment.piece) := by
  have hspelled := spelled_words_commaList hall.writable hne
  refine ⟨by simpa using hne, hspelled, ?_⟩
  rw [hspelled, hall.leavesOpen_eq h.ne_nil hne, ← h.joined]
  exact hall.cuts (ready_start _) h.cuts

/-- The rendered pieces spell their assignments, one each. -/
theorem spellAll_pieces {as : List Assignment} (h : ∀ a ∈ as, a.Writable) :
    SpellAll (as.map Assignment.piece) as := by
  induction as with
  | nil => exact SpellAll.nil
  | cons a as ih =>
    exact SpellAll.cons (h a List.mem_cons_self).spells_piece
      (ih fun b hb => h b (List.mem_cons_of_mem _ hb))

/-- A span weighs at least as much as the rendering of its assignments. -/
theorem SpanPieces.weight_le {words : List String} {ps : List (List Char)}
    {as : List Assignment} (h : SpanPieces words ps) (hall : SpellAll ps as) (hne : as ≠ []) :
    weight (spelled [] (Text.words (commaList (as.map Assignment.render)))) ≤
      weight (spelled [] words) := by
  have hle := hall.weight_le
  rw [← intercalate_append_comma h.ne_nil,
    ← intercalate_append_comma (by simpa using hne), weight_append, weight_append] at hle
  rw [spelled_words_commaList hall.writable hne, h.joined]
  omega

end HexadQuery
