/-
# The tokens of a text

A text is words with gaps around them: blanks, of which at least one parts two words.  `laidOut`
writes words and gaps out, `Gapped` says which gaps are allowed, and every text can be had in this
way (`exists_gapped`).  It can be had in ONE way only, because cutting a laid-out text gives back
its words, each with the bytes that are ahead of it (`Gapped.wordsFrom`).  What else is promised of
tokens is read off this: they are the runs of the text that can not be made longer, their offsets
count bytes while their positions count tokens, and nothing but blanks is left out.

`tokenize` of the source is one pass with three variables: the offset at which the current word has
begun, the characters of the word, and the number of words so far.  Here that is `wordsFrom`, and
the statement compares it with runs, which have no pass in them: a run is a place in the text with
blanks or ends on both sides.

Being a run is shown to be being a word of the cut (`isRun_iff`).  A run parts the text in three,
so laying out the first and the third part as words and gaps lays out the text with the run among
the words (`gapped_append_iff`); and a layout is unique, so the run is what is cut off there.

Which characters are blank plays no part beyond their being told from the others, and how many
bytes a character takes is left to the library; the offsets of two words differ since a word has
bytes.
-/
import HexadQuery.Proofs.StreamLines
import HexadQuery.Proofs.Words

namespace HexadQuery.Text

/-! ## 1. Runs and gaps

Layouts of a text.  The gap ahead of the first word is apart from the others, because it may be
empty and the gaps between words may not. -/

/-- Runs written out, each with the gap behind it, after a lead. -/
def laidOut {α : Type} (lead : List α) : List (List α × List α) → List α
  | [] => lead
  | (run, gap) :: rows => lead ++ run ++ laidOut gap rows

/-- A layout, cut at one of its runs. -/
theorem laidOut_append {α : Type} (rows : List (List α × List α)) (lead run gap : List α)
    (more : List (List α × List α)) :
    laidOut lead (rows ++ (run, gap) :: more) = laidOut lead rows ++ run ++ laidOut gap more := by
  induction rows generalizing lead with
  | nil => rfl
  | cons row rows ih => simp [laidOut, ih]

/-- What leads is in front. -/
theorem laidOut_append_lead {α : Type} (more lead : List α) (rows : List (List α × List α)) :
    laidOut (more ++ lead) rows = more ++ laidOut lead rows := by
  cases rows with
  | nil => rfl
  | cons row rows => simp [laidOut]

/-- A lead and words that only blanks stand between: at least one, and around all of them any
number. -/
inductive Gapped : List Char → List (List Char × List Char) → Prop
  | nil {lead : List Char} (hlead : ∀ c ∈ lead, isBlank c = true) : Gapped lead []
  | cons {lead word gap : List Char} {rows : List (List Char × List Char)}
      (hlead : ∀ c ∈ lead, isBlank c = true) (hword : IsWord word) (hgap : rows ≠ [] → gap ≠ [])
      (h : Gapped gap rows) : Gapped lead ((word, gap) :: rows)

/-- Only blanks lead. -/
theorem Gapped.lead_blank {lead : List Char} {rows : List (List Char × List Char)}
    (h : Gapped lead rows) : ∀ c ∈ lead, isBlank c = true := by
  cases h with
  | nil hlead => exact hlead
  | cons hlead _ _ _ => exact hlead

/-- More blanks may lead. -/
theorem Gapped.with_lead {lead lead' : List Char} {rows : List (List Char × List Char)}
    (h : Gapped lead rows) (hlead' : ∀ c ∈ lead', isBlank c = true) : Gapped lead' rows := by
  cases h with
  | nil _ => exact .nil hlead'
  | cons _ hword hgap h => exact .cons hlead' hword hgap h

/-- **Every text is words and gaps.**  A character that is not blank belongs to the first word if it
touches it, and is a word of its own otherwise. -/
theorem exists_gapped (cs : List Char) :
    ∃ lead rows, Gapped lead rows ∧ laidOut lead rows = cs := by
  induction cs with
  | nil => exact ⟨[], [], .nil (by simp), rfl⟩
  | cons c cs ih =>
    obtain ⟨lead, rows, h, rfl⟩ := ih
    have hlead := h.lead_blank
    cases hc : isBlank c with
    | true =>
      exact ⟨c :: lead, rows, h.with_lead (List.forall_mem_cons.mpr ⟨hc, hlead⟩),
        laidOut_append_lead [c] lead rows⟩
    | false =>
      -- `c` is a word of its own if what follows is a gap or nothing; otherwise it makes the first
      -- word longer
      have hapart : (rows ≠ [] → lead ≠ []) →
          Gapped [] (([c], lead) :: rows) ∧ laidOut [] (([c], lead) :: rows) =
            c :: laidOut lead rows := by
        intro hgap
        exact ⟨.cons (by simp) ⟨by simp, by simp [hc]⟩ hgap h, rfl⟩
      cases h with
      | nil _ => exact ⟨_, _, hapart (by simp)⟩
      | @cons _ word gap rows _ hword hgap h =>
        cases lead with
        | cons d lead => exact ⟨_, _, hapart (by simp)⟩
        | nil =>
          have hlonger : IsWord (c :: word) :=
            ⟨by simp, List.forall_mem_cons.mpr ⟨hc, hword.solid⟩⟩
          exact ⟨[], (c :: word, gap) :: rows, .cons (by simp) hlonger hgap h, rfl⟩

/-! ## 2. Cutting a laid-out text

The cut undoes the layout.  Blanks are passed over and counted; a word is taken up to the blank
behind it. -/

/-- Blanks in front add to the offset. -/
theorem wordsFrom_blanks_append {as : List Char} (has : ∀ c ∈ as, isBlank c = true)
    (offset : Nat) (cs : List Char) :
    wordsFrom offset (as ++ cs) = wordsFrom (offset + String.utf8Len as) cs := by
  induction as generalizing offset with
  | nil => rfl
  | cons c as ih =>
    rw [List.cons_append, wordsFrom, if_pos (has c List.mem_cons_self),
      ih fun d hd => has d (List.mem_cons_of_mem _ hd), String.utf8Len_cons, Nat.add_assoc,
      Nat.add_comm c.utf8Size]

/-- A word is cut off where a blank or the end of the text is behind it. -/
theorem wordsFrom_word_append {word : List Char} (hword : IsWord word) {cs : List Char}
    (hcs : ∀ d, cs.head? = some d → isBlank d = true) (offset : Nat) :
    wordsFrom offset (word ++ cs) =
      ⟨offset, word⟩ :: wordsFrom (offset + String.utf8Len word) cs := by
  induction word generalizing offset with
  | nil => exact absurd rfl hword.ne_nil
  | cons c word ih =>
    have hc : isBlank c = false := hword.solid c List.mem_cons_self
    rw [List.cons_append, wordsFrom, if_neg (by simp [hc])]
    cases word with
    | nil =>
      have htouch : (cs.head?.any fun d => !isBlank d) = false := by
        cases hd : cs.head? with
        | none => rfl
        | some d => simp [hcs d hd]
      simp [htouch, prepend]
    | cons d word =>
      have hd : isBlank d = false := hword.solid d (by simp)
      have htail : IsWord (d :: word) :=
        ⟨by simp, fun e he => hword.solid e (List.mem_cons_of_mem _ he)⟩
      have hsize : offset + c.utf8Size + String.utf8Len (d :: word) =
          offset + String.utf8Len (c :: d :: word) := by
        rw [String.utf8Len_cons c]
        omega
      rw [ih htail, hsize]
      simp [hd, prepend]

/-- What is behind a word starts with a blank. -/
theorem Gapped.isBlank_head? {gap : List Char} {rows : List (List Char × List Char)}
    (h : Gapped gap rows) (hgap : rows ≠ [] → gap ≠ []) :
    ∀ d, (laidOut gap rows).head? = some d → isBlank d = true := by
  intro d hd
  refine h.lead_blank d (List.mem_of_mem_head? ?_)
  cases rows with
  | nil => exact hd
  | cons row rows =>
    obtain ⟨e, gap, rfl⟩ := List.exists_cons_of_ne_nil (hgap (by simp))
    exact hd

/-- **A laid-out text is cut into its words**, and each of them knows the bytes ahead of it.  The
induction is on the layout: the gap adds to the offset, and the word is taken whole because a gap
or the end is behind it. -/
theorem Gapped.wordsFrom {lead : List Char} {rows : List (List Char × List Char)}
    (h : Gapped lead rows) (offset i : Nat) :
    (Text.wordsFrom offset (laidOut lead rows))[i]? = rows[i]?.map fun row =>
      ⟨offset + String.utf8Len (laidOut lead (rows.take i)), row.1⟩ := by
  induction h generalizing offset i with
  | @nil lead hlead =>
    have hnone := wordsFrom_blanks_append hlead offset []
    rw [List.append_nil] at hnone
    rw [laidOut, hnone]
    rfl
  | @cons lead word gap rows hlead hword hgap h ih =>
    rw [laidOut, List.append_assoc, wordsFrom_blanks_append hlead,
      wordsFrom_word_append hword (h.isBlank_head? hgap)]
    cases i with
    | zero => rfl
    | succ i =>
      rw [List.getElem?_cons_succ, ih, List.getElem?_cons_succ, List.take_succ_cons]
      simp [laidOut, Nat.add_assoc]

/-! ## 3. Maximal runs

A run and its place.  The place is given by what is ahead and behind, so that nothing is said about
indices into a text. -/

/-- A run that can not be made longer: a word with `offset` bytes ahead of it, and on either side of
it a blank or an end of the text. -/
structure IsRun (cs : List Char) (offset : Nat) (run : List Char) : Prop where
  word : IsWord run
  /-- where it stands, and that it is a whole word there -/
  place : ∃ before after, cs = before ++ run ++ after ∧ String.utf8Len before = offset ∧
    (∀ c, before.getLast? = some c → isBlank c = true) ∧
      ∀ c, after.head? = some c → isBlank c = true

/-- The two ways of being laid out, as equations to rewrite with. -/
theorem gapped_nil_iff {lead : List Char} : Gapped lead [] ↔ ∀ c ∈ lead, isBlank c = true :=
  ⟨Gapped.lead_blank, .nil⟩

theorem gapped_cons_iff {lead word gap : List Char} {rows : List (List Char × List Char)} :
    Gapped lead ((word, gap) :: rows) ↔ (∀ c ∈ lead, isBlank c = true) ∧ IsWord word ∧
      (rows ≠ [] → gap ≠ []) ∧ Gapped gap rows := by
  constructor
  · rintro (_ | ⟨hlead, hword, hgap, h⟩)
    exact ⟨hlead, hword, hgap, h⟩
  · rintro ⟨hlead, hword, hgap, h⟩
    exact .cons hlead hword hgap h

/-- A text that goes on behind a word ends in a blank exactly if there is a gap and what comes
behind the word ends in a blank. -/
theorem isBlank_getLast?_laidOut_cons {lead word gap : List Char}
    {rows : List (List Char × List Char)} (hword : IsWord word) (hgap : rows ≠ [] → gap ≠ []) :
    (∀ c, (laidOut lead ((word, gap) :: rows)).getLast? = some c → isBlank c = true) ↔
      gap ≠ [] ∧ ∀ c, (laidOut gap rows).getLast? = some c → isBlank c = true := by
  by_cases hnil : gap = []
  · have hrows : rows = [] := by
      by_contra hne
      exact hgap hne hnil
    obtain ⟨c, hc⟩ : ∃ c, word.getLast? = some c :=
      ⟨_, List.getLast?_eq_some_getLast hword.ne_nil⟩
    have hsolid := hword.solid c (List.mem_of_mem_getLast? hc)
    simp [hnil, hrows, laidOut, hc, hsolid]
  · have hne : laidOut gap rows ≠ [] := by
      cases rows with
      | nil => exact hnil
      | cons row rows => simp [laidOut, hnil]
    rw [laidOut, List.getLast?_append_of_ne_nil _ hne]
    simp [hnil]

/-- **Words and gaps, cut at a word**: what is ahead of it ends in a blank.  With this, what is
said of a place among words is said of two layouts, one on each side. -/
theorem gapped_append_iff {rows more : List (List Char × List Char)} {lead run gap : List Char} :
    Gapped lead (rows ++ (run, gap) :: more) ↔
      (Gapped lead rows ∧ ∀ c, (laidOut lead rows).getLast? = some c → isBlank c = true) ∧
        IsWord run ∧ (more ≠ [] → gap ≠ []) ∧ Gapped gap more := by
  induction rows generalizing lead with
  | nil =>
    rw [List.nil_append, gapped_cons_iff, gapped_nil_iff]
    constructor
    · rintro ⟨hlead, hrest⟩
      exact ⟨⟨hlead, fun c hc => hlead c (List.mem_of_mem_getLast? hc)⟩, hrest⟩
    · rintro ⟨⟨hlead, -⟩, hrest⟩
      exact ⟨hlead, hrest⟩
  | cons row rows ih =>
    obtain ⟨word, next⟩ := row
    rw [List.cons_append, gapped_cons_iff, gapped_cons_iff, ih]
    constructor
    · rintro ⟨hlead, hword, hnext, ⟨h, hlast⟩, hrest⟩
      have hne := hnext (by simp)
      exact ⟨⟨⟨hlead, hword, fun _ => hne, h⟩,
        (isBlank_getLast?_laidOut_cons hword fun _ => hne).mpr ⟨hne, hlast⟩⟩, hrest⟩
    · rintro ⟨⟨⟨hlead, hword, hnext, h⟩, hlast⟩, hrest⟩
      obtain ⟨hne, hlast⟩ := (isBlank_getLast?_laidOut_cons hword hnext).mp hlast
      exact ⟨hlead, hword, fun _ => hne, ⟨h, hlast⟩, hrest⟩

/-- **The maximal runs of a text are its words**, with the bytes that are ahead of them.  What
follows a run does not touch it, so there is a gap ahead of the next word. -/
theorem isRun_iff {cs run : List Char} {offset : Nat} :
    IsRun cs offset run ↔ ⟨offset, run⟩ ∈ wordsFrom 0 cs := by
  constructor
  · rintro ⟨hrun, before, after, rfl, rfl, hbefore, hafter⟩
    obtain ⟨lead, rows, h, rfl⟩ := exists_gapped before
    obtain ⟨gap, more, h', rfl⟩ := exists_gapped after
    have hgap : more ≠ [] → gap ≠ [] := by
      rintro hmore rfl
      cases h' with
      | nil _ => exact hmore rfl
      | cons _ hword _ _ =>
        obtain ⟨c, word, rfl⟩ := List.exists_cons_of_ne_nil hword.ne_nil
        have hblank := hafter c rfl
        rw [hword.solid c List.mem_cons_self] at hblank
        exact absurd hblank (by simp)
    have hwhole := gapped_append_iff.mpr ⟨⟨h, hbefore⟩, hrun, hgap, h'⟩
    rw [← laidOut_append]
    refine List.mem_of_getElem? (i := rows.length) ?_
    rw [hwhole.wordsFrom]
    simp
  · intro hmem
    obtain ⟨lead, rows, h, rfl⟩ := exists_gapped cs
    obtain ⟨i, hi⟩ := List.getElem?_of_mem hmem
    rw [h.wordsFrom] at hi
    obtain ⟨⟨word, gap⟩, hrow, heq⟩ := Option.map_eq_some_iff.mp hi
    obtain ⟨rfl, rfl⟩ := Word.mk.inj heq
    obtain ⟨hlt, hget⟩ := List.getElem?_eq_some_iff.mp hrow
    have hsplit : rows = rows.take i ++ (word, gap) :: rows.drop (i + 1) := by
      rw [← hget, List.cons_getElem_drop_succ, List.take_append_drop]
    rw [hsplit] at h
    obtain ⟨⟨-, hlast⟩, hword, hgap, hmore⟩ := gapped_append_iff.mp h
    refine ⟨hword, laidOut lead (rows.take i), laidOut gap (rows.drop (i + 1)), ?_, by simp, hlast,
      hmore.isBlank_head? hgap⟩
    rw [← laidOut_append, ← hsplit]

end HexadQuery.Text

namespace HexadQuery

open Text

/-! ## 4. Tokens

The same for tokens, which add a number to each word. -/

/-- The bytes of a text are as many as the offsets count. -/
theorem length_encode (cs : List Char) : (encode cs).length = String.utf8Len cs := by
  induction cs with
  | nil => rfl
  | cons c cs ih =>
    rw [String.utf8Len_cons, ← ih, encode, List.flatMap_cons, List.length_append,
      String.length_utf8EncodeChar, Nat.add_comm]
    rfl

/-- What cutting a text into tokens promises: the tokens are the maximal runs, in order; a position
counts tokens, an offset bytes, and at the offset the text of the token stands; and there is nothing
but blanks ahead of the first token, between two tokens and behind the last. -/
structure IsTokenization (input : String) (tokens : List Token) : Prop where
  /-- every maximal run is a token, and nothing else is -/
  runs : ∀ (run : String) (offset : Nat), IsRun input.toList offset run.toList ↔
    ∃ position, ⟨run, position, offset⟩ ∈ tokens
  /-- the position counts the tokens ahead -/
  positions : ∀ (i : Nat) (t : Token), tokens[i]? = some t → t.position = i
  /-- at the offset of a token its bytes stand -/
  occurs : ∀ t ∈ tokens, bytes t.text <+: (bytes input).drop t.offset
  /-- no two tokens begin at one place -/
  increasing : tokens.Pairwise fun s t => s.offset < t.offset
  /-- the text is laid out by the tokens, with blanks between them -/
  gaps : ∃ lead rows, Gapped lead rows ∧ laidOut lead rows = input.toList ∧
    ∀ i : Nat, tokens[i]? = rows[i]?.map fun row =>
      ⟨String.ofList row.1, i, String.utf8Len (laidOut lead (rows.take i))⟩

/-- A token is a word of the cut with its number. -/
theorem getElem?_tokenize (input : String) (i : Nat) :
    (tokenize input)[i]? = (wordsFrom 0 input.toList)[i]?.map fun word =>
      ⟨String.ofList word.chars, i, word.offset⟩ := by
  rw [tokenize, List.getElem?_map, List.getElem?_zipIdx, Option.map_map]
  simp [Function.comp_def]

/-- The tokens of a text that is laid out. -/
theorem getElem?_tokenize_laidOut {lead : List Char} {rows : List (List Char × List Char)}
    (h : Gapped lead rows) {input : String} (hinput : laidOut lead rows = input.toList) (i : Nat) :
    (tokenize input)[i]? = rows[i]?.map fun row =>
      ⟨String.ofList row.1, i, String.utf8Len (laidOut lead (rows.take i))⟩ := by
  rw [getElem?_tokenize, ← hinput, h.wordsFrom, Option.map_map]
  simp [Function.comp_def]

/-- Some token is this run exactly if the cut has it. -/
theorem mem_tokenize_iff {input run : String} {offset : Nat} :
    (∃ position, ⟨run, position, offset⟩ ∈ tokenize input) ↔
      ⟨offset, run.toList⟩ ∈ wordsFrom 0 input.toList := by
  simp only [List.mem_iff_getElem?, getElem?_tokenize, Option.map_eq_some_iff]
  constructor
  · rintro ⟨position, i, ⟨start, chars⟩, hword, heq⟩
    obtain ⟨rfl, -, rfl⟩ := Token.mk.inj heq
    exact ⟨i, by rwa [String.toList_ofList]⟩
  · rintro ⟨i, hword⟩
    exact ⟨i, i, _, hword, by rw [String.ofList_toList]⟩

/-- More words have more bytes ahead of them.  There is a word between the two places, and a word
has bytes. -/
theorem utf8Len_laidOut_lt {lead : List Char} {rows : List (List Char × List Char)}
    (h : Gapped lead rows) {i j : Nat} (hij : i < j) (hj : j < rows.length) :
    String.utf8Len (laidOut lead (rows.take i)) < String.utf8Len (laidOut lead (rows.take j)) := by
  have hi : i < (rows.take j).length := by
    rw [List.length_take]
    omega
  have hsplit : rows.take j = rows.take i ++ (rows.take j)[i] :: (rows.take j).drop (i + 1) := by
    rw [← List.drop_eq_getElem_cons hi]
    conv_lhs => rw [← List.take_append_drop i (rows.take j), List.take_take,
      Nat.min_eq_left hij.le]
  have hrows : rows = rows.take i ++ (rows.take j)[i] ::
      ((rows.take j).drop (i + 1) ++ rows.drop j) := by
    rw [← List.cons_append, ← List.append_assoc, ← hsplit, List.take_append_drop]
  generalize (rows.take j)[i] = row at hsplit hrows
  obtain ⟨word, gap⟩ := row
  rw [hrows] at h
  have hne := (gapped_append_iff.mp h).2.1.ne_nil
  have hpos := mt String.utf8Len_eq_zero.mp hne
  rw [hsplit, laidOut_append, String.utf8Len_append, String.utf8Len_append]
  omega

/-- **The tokens keep what is promised.**  The text is laid out once, and each promise is read
off the layout. -/
theorem isTokenization_tokenize (input : String) : IsTokenization input (tokenize input) := by
  obtain ⟨lead, rows, h, hinput⟩ := exists_gapped input.toList
  have hget := getElem?_tokenize_laidOut h hinput
  constructor
  case runs =>
    intro run offset
    rw [isRun_iff, mem_tokenize_iff]
  case positions =>
    intro i t ht
    rw [hget] at ht
    obtain ⟨row, -, rfl⟩ := Option.map_eq_some_iff.mp ht
    rfl
  case occurs =>
    intro t ht
    obtain ⟨before, after, hcut, hoffset, -⟩ :=
      (isRun_iff.mpr (mem_tokenize_iff.mp ⟨t.position, ht⟩)).place
    have hbytes : bytes input = encode before ++ (bytes t.text ++ encode after) := by
      rw [bytes_eq, bytes_eq, hcut]
      simp [encode]
    rw [hbytes, ← hoffset, ← length_encode, List.drop_left]
    exact List.prefix_append _ _
  case increasing =>
    rw [List.pairwise_iff_getElem]
    intro i j hi hj hij
    have hfirst := hget i
    have hsecond := hget j
    rw [List.getElem?_eq_getElem hi] at hfirst
    rw [List.getElem?_eq_getElem hj] at hsecond
    obtain ⟨row, -, hs⟩ := Option.map_eq_some_iff.mp hfirst.symm
    obtain ⟨row', hrow', ht⟩ := Option.map_eq_some_iff.mp hsecond.symm
    -- the offsets are lengths of two beginnings of the layout, one of which is longer by a word
    rw [← hs, ← ht]
    exact utf8Len_laidOut_lt h hij (List.getElem?_eq_some_iff.mp hrow').1
  case gaps => exact ⟨lead, rows, h, hinput, hget⟩

/-- **Tokens are the maximal runs of a text.**  Cutting a text keeps what it promises, which no
other list of tokens does; and words that are written out with blanks between and around them come
back. -/
theorem tokenize_maximal_runs :
    (∀ (input : String) (tokens : List Token),
      tokenize input = tokens ↔ IsTokenization input tokens) ∧
    ∀ (lead : List Char) (rows : List (List Char × List Char)), Gapped lead rows →
      (tokenize (String.ofList (laidOut lead rows))).map (·.text) =
        rows.map fun row => String.ofList row.1 := by
  refine ⟨fun input tokens => ⟨?_, ?_⟩, fun lead rows h => ?_⟩
  · rintro rfl
    exact isTokenization_tokenize input
  · rintro ⟨-, -, -, -, lead, rows, h, hinput, htokens⟩
    refine List.ext_getElem? fun i => ?_
    rw [htokens, getElem?_tokenize_laidOut h hinput]
  · refine List.ext_getElem? fun i => ?_
    rw [List.getElem?_map, getElem?_tokenize_laidOut h String.toList_ofList.symm, Option.map_map,
      List.getElem?_map]
    rfl

/-- Letters and blanks of two and three bytes: the second token is the eighth byte on. -/
theorem tokenize_wide_characters :
    IsTokenization " é-7\u3000x" [⟨"é-7", 0, 1⟩, ⟨"x", 1, 8⟩] ∧
      (tokenize " é-7\u3000x").map (·.text) = ["é-7", "x"] := by
  have hgapped : Gapped [' '] [(['é', '-', '7'], ['\u3000']), (['x'], [])] := by
    refine .cons ?_ (by decide) (by decide) (.cons ?_ (by decide) (by decide) (.nil ?_))
    · exact List.forall_mem_singleton.mpr (by decide)
    · exact List.forall_mem_singleton.mpr (by decide)
    · exact List.forall_mem_nil _
  exact ⟨(tokenize_maximal_runs.1 _ _).mp (by decide), tokenize_maximal_runs.2 _ _ hgapped⟩

end HexadQuery
