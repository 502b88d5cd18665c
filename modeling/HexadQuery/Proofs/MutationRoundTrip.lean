/-
# Mutations and their renderings

A mutation that was read is written by `render_mutation` and read again.  `Mutation.Writable` is
what the first reading guarantees.  A DELETE and an INSERT come back unless a proof type stands in
the way, as for queries: a payload is written with its parentheses around it, and closes where it
closed before.

An UPDATE has more that can be lost.  Its span may hold no assignment at all, which nothing is
written for and a SET can not be read without; and a word of the rendered list may be PROOF, which
ends the span too early.  It was no word of the span when it was read: a comma touched it that is
left out now, or has a space behind it.  The span that is left then is too light to hold the
assignments (`SpanPieces.weight_le`).  In all other cases the span is cut as before.

The statement is an equivalence, so each of the three kinds is followed both ways.  What they share
is the PROOF clause at the end, which is the last thing that is read and decides on its own whether
it comes back (`Rule.proofClause_rendered_iff`).  `Rule.LeavesProof` says of a rule on a cursor
that it reads everything ahead of that clause and leaves its words; then the mutation comes back if
and only if the clause does (`Rule.LeavesProof.comes_back_iff`).  A DELETE and an INSERT leave the
clause in all cases.  An UPDATE does so under the condition on its words, and if the condition
fails it does not come back whatever the clause does (`Rule.update_rendered`).

The order is that of the source: `modality_payload` with the comma behind it, the bodies `insert`,
`update` and `delete`, and `parse_mutation` with the statement around them.
-/
import HexadQuery.Proofs.AssignmentSpans
import HexadQuery.Proofs.Pieces
import HexadQuery.Proofs.Statements

namespace HexadQuery

/-! ## 1. Payloads

What a payload that was read looks like.  The text is what stood between the parentheses, trimmed
and joined from words, so it is normal; and it is balanced, since the group was cut behind it. -/

/-- What a payload can be read as. -/
structure Payload.Writable (p : Payload) : Prop where
  modality : p.modality.IsCanonical
  text : Text.Normal p.text.toList
  balanced : Balanced p.text.toList

namespace Rule

/-- Taking a comma off the front of a word leaves words. -/
theorem skipComma_eq_ok {cursor rest : Cursor} {found : Bool}
    (hwords : ∀ w ∈ cursor.words, Text.IsWord w.toList)
    (h : (skipComma cursor).result = .ok (found, rest)) :
    ∀ w ∈ rest.words, Text.IsWord w.toList := by
  unfold skipComma at h
  split at h
  · simp only [Outcome.ok, Except.ok.injEq, Prod.mk.injEq] at h
    rw [← h.2]
    exact hwords
  · next token tokens htokens =>
    have htail : ∀ w ∈ tokens.map (·.text), Text.IsWord w.toList := by
      intro w hw
      refine hwords w ?_
      rw [Cursor.words, htokens, List.map_cons]
      exact List.mem_cons_of_mem _ hw
    split at h
    · simp only [Outcome.ok, Except.ok.injEq, Prod.mk.injEq] at h
      rw [← h.2]
      exact htail
    · next more hmore hcomma =>
      simp only [Outcome.ok, Except.ok.injEq, Prod.mk.injEq] at h
      rw [← h.2]
      have hword : Text.IsWord token.text.toList := by
        refine hwords _ ?_
        rw [Cursor.words, htokens]
        exact List.mem_cons_self
      rw [hcomma] at hword
      intro w hw
      rcases List.mem_cons.mp hw with rfl | hw
      · rw [String.toList_ofList]
        refine ⟨?_, fun c hc => hword.solid c (List.mem_cons_of_mem _ hc)⟩
        rintro rfl
        exact hmore rfl
      · exact htail w hw
    · simp only [Outcome.ok, Except.ok.injEq, Prod.mk.injEq] at h
      rw [← h.2]
      exact hwords

/-- **What is read as a payload is writable.**  The group was cut behind a balanced inside, and
what it was cut from are words joined by spaces. -/
theorem payload_eq_ok {cursor rest : Cursor} {p : Payload} {more : Bool}
    (hwords : ∀ w ∈ cursor.words, Text.IsWord w.toList)
    (h : (payload cursor).result = .ok ((p, more), rest)) :
    p.Writable ∧ ∀ w ∈ rest.words, Text.IsWord w.toList := by
  obtain ⟨head, c₁, hhead, h⟩ := bind_eq_ok.mp h
  obtain ⟨call, c₂, hcall, h⟩ := bind_eq_ok.mp h
  obtain ⟨hname, h⟩ := (guard_eq_ok fun _ => ⟨_, rfl⟩).mp h
  obtain ⟨content, c₃, hgroup, h⟩ := bind_eq_ok.mp h
  obtain ⟨-, hcursor⟩ := operand_words hhead
  rw [hcursor] at hwords
  obtain ⟨hopening, hleft⟩ := isWord_opening (hwords _ List.mem_cons_self)
    (fun w hw => hwords w (List.mem_cons_of_mem _ hw)) hcall
  obtain ⟨taken, inside, after, htaken, htext, hin, rfl⟩ :=
    group_eq_ok (callHead_eq_ok hcall).1 hgroup
  rw [htaken] at hleft
  have hspaced : Text.Spaced inside := by
    have hnormal := normal_spelled hopening fun w hw => hleft w (List.mem_append_left _ hw)
    rw [htext] at hnormal
    exact hnormal.toSpaced.within ⟨['('], ')' :: after, by simp⟩
  have hrest : ∀ w ∈ c₃.words, Text.IsWord w.toList :=
    fun w hw => hleft w (List.mem_append_right _ hw)
  have hwritable : Payload.Writable ⟨Modality.ofName call.name,
      String.ofList (Text.trimChars inside)⟩ := by
    refine ⟨Modality.isCanonical_ofName (by simpa using hname), ?_, ?_⟩
    · simpa using hspaced.trim
    · simpa using hin.trim
  -- a comma in the last word of the group, or one in the word after it
  split at h
  · simp only [pure_result, Except.ok.injEq, Prod.mk.injEq] at h
    obtain ⟨⟨rfl, -⟩, rfl⟩ := h
    exact ⟨hwritable, hrest⟩
  · split at h
    · obtain ⟨c, c₄, hget, h⟩ := bind_eq_ok.mp h
      obtain ⟨_, _, hfail, -⟩ := bind_eq_ok.mp h
      exact absurd hfail (by simp)
    · obtain ⟨found, c₄, hskip, h⟩ := bind_eq_ok.mp h
      simp only [pure_result, Except.ok.injEq, Prod.mk.injEq] at h
      obtain ⟨⟨rfl, -⟩, rfl⟩ := h
      exact ⟨hwritable, skipComma_eq_ok hrest hskip⟩

/-- The payloads of an INSERT: there is one, and all are writable. -/
theorem chain_payload_eq_ok : ∀ (payloads : List Payload) {cursor rest : Cursor},
    (∀ w ∈ cursor.words, Text.IsWord w.toList) →
    (chain payload cursor).result = .ok (payloads, rest) →
      payloads ≠ [] ∧ (∀ p ∈ payloads, p.Writable) ∧ ∀ w ∈ rest.words, Text.IsWord w.toList
  | payloads, cursor, rest, hwords, h => by
    obtain ⟨p, more, mid, hstep, ⟨-, later, rfl, hlater⟩ | ⟨rfl, rfl, -⟩⟩ := chain_eq_ok h
    · obtain ⟨hp, hmid⟩ := payload_eq_ok hwords hstep
      obtain ⟨-, hall, hrest⟩ := chain_payload_eq_ok later hmid hlater
      refine ⟨List.cons_ne_nil p later, ?_, hrest⟩
      intro q hq
      rcases List.mem_cons.mp hq with rfl | hq
      · exact hp
      · exact hall q hq
    · obtain ⟨hp, hrest⟩ := payload_eq_ok hwords hstep
      refine ⟨List.cons_ne_nil p [], ?_, hrest⟩
      intro q hq
      rw [List.mem_singleton.mp hq]
      exact hp

end Rule

/-! ## 2. Rendered payloads

The name and the opening parenthesis are one word in a rendering, so `callHead` finds the
parenthesis in the word of the name; the rest is the law of groups.  A comma behind the payload is
glued to its last word and is the trailing text of the group. -/

namespace Payload

/-- The payload with the parentheses around it, and what follows in the same word. -/
def groupText (p : Payload) (after : List Char) : List Char :=
  '(' :: p.text.toList ++ ')' :: after

/-- A rendered payload is the name of its modality and a group. -/
theorem toList_render (p : Payload) (after : List Char) :
    p.render.toList ++ after = p.modality.keyword.toList ++ p.groupText after := by
  simp [render, groupText, String.toList_append]

variable {p : Payload}

/-- The words of a rendered payload: the parenthesis opens in the word of the modality. -/
theorem Writable.words_render (h : p.Writable) {after : List Char}
    (hafter : ∀ c ∈ after, Text.isBlank c = false) :
    ∃ opening more, Text.words (String.ofList (p.render.toList ++ after)) =
        String.ofList (p.modality.keyword.toList ++ opening) :: more ∧
      opening.head? = some '(' ∧ spelled opening more = p.groupText after := by
  have hclose : Text.IsWord (')' :: after) := by
    refine ⟨by simp, ?_⟩
    intro c hc
    rcases List.mem_cons.mp hc with rfl | hc
    · decide
    · exact hafter c hc
  have hopen : Text.IsWord ['('] := by decide
  have hnormal : Text.Normal (p.groupText after) :=
    (hopen.normal.append h.text).append hclose.normal
  have hsolid : ∀ c ∈ p.modality.keyword.toList, Text.isBlank c = false := by
    intro c hc
    have hfield := isFieldChar_of_isNameChar c (h.modality.isNameChar c hc)
    simp only [Piece.isFieldChar, Bool.and_eq_true, Bool.not_eq_true'] at hfield
    exact hfield.2
  have hparen : Text.isBlank '(' = false := by decide
  obtain ⟨opening, more, hcons⟩ := List.exists_cons_of_ne_nil
    (Text.charWords_ne_nil hparen (p.text.toList ++ ')' :: after))
  have hjoined : [' '].intercalate (opening :: more) = p.groupText after := by
    rw [← hcons]
    exact hnormal.intercalate_charWords
  refine ⟨opening, more.map String.ofList, ?_, ?_, ?_⟩
  · rw [toList_render, Text.words_eq, String.toList_ofList, groupText, List.cons_append,
      Text.charWords_append_touching hsolid hparen hcons]
    rfl
  · have hword := Text.isWord_of_mem_charWords (hcons ▸ List.mem_cons_self)
    obtain ⟨c, cs, rfl⟩ := List.exists_cons_of_ne_nil hword.ne_nil
    rw [List.intercalate_cons_cons_left] at hjoined
    rw [List.head_eq_of_cons_eq hjoined]
    rfl
  · have hspelled := spelled_eq_intercalate (String.ofList opening) (more.map String.ofList)
    simpa [hjoined, Function.comp_def] using hspelled

end Payload

namespace Rule

/-- No comma is taken where none is next. -/
theorem reads_skipComma_absent {words : List String}
    (h : ∀ word, words.head? = some word → word.toList.head? ≠ some ',') :
    Reads skipComma words (· = false) words := by
  rintro ⟨tokens, count⟩ rfl
  refine ⟨false, ⟨tokens, count⟩, ?_, rfl, rfl⟩
  cases tokens with
  | nil => rfl
  | cons t ts =>
    have hhead : t.text.toList.head? ≠ some ',' := h t.text rfl
    unfold skipComma
    split
    · rfl
    · next token rest heq =>
      obtain ⟨rfl, rfl⟩ := List.cons.inj heq
      split
      · next htext => exact absurd (by rw [htext]; rfl) hhead
      · next htext => exact absurd (by rw [htext]; rfl) hhead
      · rfl

/-- **A rendered payload is read**, with the comma that follows it if one does.  Its name is
joined to the first word of its text, as it is when a payload is written without a blank there.
The parenthesis in that word keeps it from being a keyword, and the comma is trailing text of the
group. -/
theorem reads_payload {p : Payload} (h : p.Writable) (more : Bool) {rest : List String}
    (hrest : more = false → ∀ word, rest.head? = some word → word.toList.head? ≠ some ',') :
    Reads payload (Text.words (p.render ++ if more then "," else "") ++ rest) (· = (p, more))
      rest := by
  have hafter : ∀ c ∈ (if more then "," else "").toList, Text.isBlank c = false ∧ c ≠ '(' := by
    cases more with
    | true =>
      intro c hc
      obtain rfl : c = ',' := by simpa using hc
      decide
    | false => simp
  obtain ⟨opening, words, hwords, hopen, hspelled⟩ := h.words_render fun c hc => (hafter c hc).1
  have htext : String.ofList (p.render.toList ++ (if more then "," else "").toList) =
      p.render ++ if more then "," else "" := by
    rw [← String.toList_inj, String.toList_ofList, String.toList_append]
  rw [htext] at hwords
  rw [hwords, List.cons_append]
  have hparen : '(' ∉ p.modality.keyword.toList := by
    intro hmem
    exact absurd (h.modality.isNameChar '(' hmem) (by decide)
  have hmem : '(' ∈ opening := List.mem_of_mem_head? hopen
  refine Reads.bind (reads_operand ?_ _) fun head hhead => ?_
  · exact Text.isAnyOf_of_not_alpha (c := '(') (by simp [hmem]) (by decide) (by decide)
  refine Reads.bind (reads_callHead_attached (by rw [hhead, String.toList_ofList]) hparen hopen _ _)
    fun call hcall => ?_
  obtain ⟨hname, hopening⟩ := hcall
  rw [String.ofList_toList] at hname
  refine Reads.guard (by simp [hname, h.modality.isIdentifier_keyword]) ?_
  rw [hopening]
  refine Reads.bind (reads_group hspelled h.balanced (fun c hc => (hafter c hc).1)
    (fun hc => (hafter '(' hc).2 rfl) rest) ?_
  rintro _ rfl
  rw [hname, h.modality.ofName_keyword, h.text.trim, String.ofList_toList, String.ofList_toList]
  cases more with
  | true =>
    rw [if_pos (by rfl)]
    exact reads_pure (p, true) rest
  | false =>
    simp only [Bool.false_eq_true, if_false, ne_eq, not_true, (by decide : ¬ "" = ",")]
    refine Reads.bind (reads_skipComma_absent (hrest rfl)) ?_
    rintro _ rfl
    exact reads_pure (p, false) rest

/-- **A rendered list of payloads is read.**  The comma ends the last word of each payload but
the last, and a payload that sees it asks for another. -/
theorem reads_chain_payload : ∀ {payloads : List Payload}, payloads ≠ [] →
    (∀ p ∈ payloads, p.Writable) → ∀ {rest : List String},
    (∀ word, rest.head? = some word → word.toList.head? ≠ some ',') →
      Reads (chain payload) (Text.words (commaList (payloads.map Payload.render)) ++ rest)
        (· = payloads) rest
  | [], hne, _, _, _ => absurd rfl hne
  | [p], _, h, rest, hrest => by
    have hlist : commaList ([p].map Payload.render) =
        p.render ++ if false = true then "," else "" := by simp [commaList]
    rw [hlist]
    exact (reads_payload (h p List.mem_cons_self) false fun _ => hrest).chain_last
  | p :: q :: payloads, _, h, rest, hrest => by
    have ih := reads_chain_payload (List.cons_ne_nil q payloads)
      (fun r hr => h r (List.mem_cons_of_mem _ hr)) hrest
    have hlist : commaList ((p :: q :: payloads).map Payload.render) =
        (p.render ++ if true = true then "," else "") ++ " " ++
          commaList ((q :: payloads).map Payload.render) := by
      rw [← String.toList_inj]
      simp [commaList, String.toList_append]
    have hp := h p List.mem_cons_self
    have hne : Text.words (p.render ++ if true = true then "," else "") ≠ [] := by
      obtain ⟨opening, more, hwords, -⟩ :=
        hp.words_render (by decide : Text.IsWord [',']).solid
      rw [← String.ofList_toList (s := p.render ++ _), String.toList_append, if_pos rfl]
      exact fun hnil => absurd (hwords.symm.trans hnil) (by simp)
    rw [hlist, Text.words_append_space, List.append_assoc]
    refine (reads_payload hp true (by simp)).chain_more ?_ ih
    have hpos := List.length_pos_iff.mpr hne
    simp only [List.length_append] at hpos ⊢
    omega

end Rule

/-! ## 3. What a mutation that was read looks like

One lemma for each kind.  The words that are left are words of the input all the way, which is what
makes the parts normal. -/

/-- What a mutation can be read as. -/
def Mutation.Writable : Mutation → Prop
  | insert payloads proof =>
    payloads ≠ [] ∧ (∀ p ∈ payloads, p.Writable) ∧ ∀ spec ∈ proof, spec.Writable
  | update id assignments proof =>
    IsOperand id ∧ (∃ span ps, SpanPieces span ps ∧ SpellAll ps assignments) ∧
      ∀ spec ∈ proof, spec.Writable
  | delete id proof => IsOperand id ∧ ∀ spec ∈ proof, spec.Writable

namespace Rule

/-- The proofs of a clause that was read. -/
theorem proofClause_writable {demand : ProofDemand} {cursor rest : Cursor}
    {proof : List ProofSpec} (hwords : ∀ w ∈ cursor.words, Text.IsWord w.toList)
    (h : (proofClause demand cursor).result = .ok (proof, rest)) :
    ∀ spec ∈ proof, spec.Writable := by
  obtain ⟨chain, hformed, -, rfl, hall⟩ := proofClause_eq_ok hwords h
  refine WrittenChain.writable hformed fun w hw => hwords w ?_
  rw [hall]
  exact List.mem_append_left _ hw

/-- An INSERT has a payload, and all its payloads are writable. -/
theorem insert_writable {cursor rest : Cursor} {m : Mutation}
    (hwords : ∀ w ∈ cursor.words, Text.IsWord w.toList)
    (h : (insert cursor).result = .ok (m, rest)) : m.Writable := by
  obtain ⟨_, c₁, hhexad, h⟩ := bind_eq_ok.mp h
  obtain ⟨_, c₂, hwith, h⟩ := bind_eq_ok.mp h
  obtain ⟨payloads, c₃, hchain, h⟩ := bind_eq_ok.mp h
  obtain ⟨-, h⟩ := (lookahead_eq_ok fun _ _ => ⟨_, rfl⟩).mp h
  obtain ⟨proof, c₄, hproof, h⟩ := bind_eq_ok.mp h
  obtain ⟨_, _, hnote, h⟩ := bind_eq_ok.mp h
  simp only [pure_result, Except.ok.injEq, Prod.mk.injEq] at h
  obtain ⟨rfl, -⟩ := h
  rw [(keyword_words hhexad).2, (keyword_words hwith).2] at hwords
  obtain ⟨hne, hpayloads, hleft⟩ := chain_payload_eq_ok payloads
    (fun w hw => hwords w (by simp [hw])) hchain
  exact ⟨hne, hpayloads, proofClause_writable hleft hproof⟩

/-- A DELETE has an operand for its hexad. -/
theorem delete_writable {cursor rest : Cursor} {m : Mutation}
    (hwords : ∀ w ∈ cursor.words, Text.IsWord w.toList)
    (h : (delete cursor).result = .ok (m, rest)) : m.Writable := by
  obtain ⟨_, c₁, hhexad, h⟩ := bind_eq_ok.mp h
  obtain ⟨id, c₂, hid, h⟩ := bind_eq_ok.mp h
  obtain ⟨proof, c₃, hproof, h⟩ := bind_eq_ok.mp h
  simp only [pure_result, Except.ok.injEq, Prod.mk.injEq] at h
  obtain ⟨rfl, -⟩ := h
  obtain ⟨hoperand, hnext⟩ := operand_words hid
  rw [(keyword_words hhexad).2, hnext] at hwords
  exact ⟨⟨hwords id.text (by simp), hoperand⟩,
    proofClause_writable (fun w hw => hwords w (by simp [hw])) hproof⟩

/-- The words of a SET, divided: the span of its assignments ends at PROOF, or at the end.  The
note about an open quote changes nothing that is read. -/
theorem setClause_eq_ok {cursor rest : Cursor} {as : List Assignment}
    (hwords : ∀ w ∈ cursor.words, Text.IsWord w.toList)
    (h : (setClause cursor).result = .ok (as, rest)) :
    ∃ set span ps, cursor.words = set :: (span ++ rest.words) ∧ span ≠ [] ∧
      (∀ w ∈ span, Text.sameLetters w "PROOF" = false) ∧
      (∀ w, rest.words.head? = some w → Text.sameLetters w "PROOF" = true) ∧
      SpanPieces span ps ∧ SpellAll ps as := by
  obtain ⟨set, c₁, hset, h⟩ := bind_eq_ok.mp h
  obtain ⟨tokens, c₂, htake, h⟩ := bind_eq_ok.mp h
  obtain ⟨-, hset⟩ := keyword_words hset
  obtain ⟨hspan, hinside⟩ := takeUntil_words htake
  have hbehind := (takeUntil_eq_ok htake).2.2
  have htokens : ∀ t ∈ tokens, Text.IsWord t.text.toList := by
    intro t ht
    refine hwords t.text ?_
    rw [hset, hspan]
    exact List.mem_cons_of_mem _ (List.mem_append_left _ (List.mem_map_of_mem ht))
  split at h
  · obtain ⟨_, _, -, h⟩ := bind_eq_ok.mp h
    obtain ⟨_, _, hfail, -⟩ := bind_eq_ok.mp h
    exact absurd hfail (by simp)
  · next hne =>
    have hread : (((assignmentPieces tokens).mapM assignment) c₂).result = .ok (as, rest) := by
      split at h
      · obtain ⟨_, _, hnote, h⟩ := bind_eq_ok.mp h
        simp only [note_result, Except.ok.injEq, Prod.mk.injEq, true_and] at hnote
        rw [hnote]
        exact h
      · exact h
    obtain ⟨ps, hps⟩ := exists_spanPieces (tokens.map (·.text))
    obtain ⟨hall, rfl⟩ := (assignments_eq_ok htokens hps).mp hread
    refine ⟨set.text, tokens.map (·.text), ps, by rw [hset, hspan], by simpa using hne, ?_, ?_,
      hps, hall⟩
    · intro w hw
      rw [← Text.isAnyOf_singleton]
      exact hinside w hw
    · intro w hw
      rw [Cursor.words, List.head?_map] at hw
      obtain ⟨t, ht, rfl⟩ := Option.map_eq_some_iff.mp hw
      rw [← Text.isAnyOf_singleton]
      exact hbehind t ht

/-- The words of an UPDATE, divided. -/
theorem update_eq_ok {cursor rest : Cursor} {m : Mutation}
    (hwords : ∀ w ∈ cursor.words, Text.IsWord w.toList)
    (h : (update cursor).result = .ok (m, rest)) :
    ∃ (hexad id : String) (next after : Cursor) (as : List Assignment) (proof : List ProofSpec),
      cursor.words = hexad :: id :: next.words ∧ IsOperand id ∧
      (setClause next).result = .ok (as, after) ∧
      (proofClause .optional after).result = .ok (proof, rest) ∧ m = .update id as proof := by
  obtain ⟨hexad, c₁, hhexad, h⟩ := bind_eq_ok.mp h
  obtain ⟨id, c₂, hid, h⟩ := bind_eq_ok.mp h
  obtain ⟨as, c₃, hset, h⟩ := bind_eq_ok.mp h
  obtain ⟨proof, c₄, hproof, h⟩ := bind_eq_ok.mp h
  obtain ⟨_, _, hnote, h⟩ := bind_eq_ok.mp h
  simp only [note_result, Except.ok.injEq, Prod.mk.injEq, true_and] at hnote
  simp only [pure_result, Except.ok.injEq, Prod.mk.injEq] at h
  obtain ⟨rfl, rfl⟩ := h
  subst hnote
  obtain ⟨hoperand, hnext⟩ := operand_words hid
  have hall : cursor.words = hexad.text :: id.text :: c₂.words := by
    rw [(keyword_words hhexad).2, hnext]
  refine ⟨hexad.text, id.text, c₂, c₃, as, proof, hall, ⟨hwords _ ?_, hoperand⟩, hset, hproof, rfl⟩
  rw [hall]
  simp

/-- The assignments of an UPDATE are spelled by the pieces of a span; there may be none. -/
theorem update_writable {cursor rest : Cursor} {m : Mutation}
    (hwords : ∀ w ∈ cursor.words, Text.IsWord w.toList)
    (h : (update cursor).result = .ok (m, rest)) : m.Writable := by
  obtain ⟨hexad, id, next, after, as, proof, hall, hid, hset, hproof, rfl⟩ := update_eq_ok hwords h
  rw [hall] at hwords
  obtain ⟨set, span, ps, hnext, -, -, -, hps, hspell⟩ :=
    setClause_eq_ok (fun w hw => hwords w (by simp [hw])) hset
  rw [hnext] at hwords
  have hleft : ∀ w ∈ after.words, Text.IsWord w.toList := fun w hw => hwords w (by simp [hw])
  exact ⟨hid, ⟨span, ps, hps, hspell⟩, proofClause_writable hleft hproof⟩

/-- A mutation: its first word, a body and nothing behind it. -/
theorem mutation_eq_ok {cursor rest : Cursor} {m : Mutation} :
    (mutation cursor).result = .ok (m, rest) ↔
      ∃ first next, cursor.tokens = first :: next.tokens ∧ next.count = cursor.count ∧
        (mutationBody first next).result = .ok (m, rest) ∧ rest.tokens = [] := by
  unfold mutation
  simp only [bind_eq_ok, token, takeIf_eq_ok, and_true, pure_result, Except.ok.injEq,
    Prod.mk.injEq]
  constructor
  · rintro ⟨first, next, ⟨htokens, hcount⟩, m', c, hbody, _, c', hfinish, rfl, rfl⟩
    obtain ⟨hnil, rfl⟩ := finish_eq_ok hfinish
    exact ⟨first, next, htokens, hcount, hbody, hnil⟩
  · rintro ⟨first, next, htokens, hcount, hbody, hnil⟩
    refine ⟨first, next, ⟨htokens, hcount⟩, m, rest, hbody, (), rest, ?_, rfl, rfl⟩
    simp [finish, hnil, Outcome.ok]

/-- **What is read as a mutation is writable.**  By cases on its kind, since each kind was read
by a body of its own. -/
theorem mutation_writable {cursor rest : Cursor} {m : Mutation}
    (hwords : ∀ w ∈ cursor.words, Text.IsWord w.toList)
    (h : (mutation cursor).result = .ok (m, rest)) : m.Writable := by
  obtain ⟨first, next, htokens, -, hbody, -⟩ := mutation_eq_ok.mp h
  have hleft : ∀ w ∈ next.words, Text.IsWord w.toList := by
    intro w hw
    refine hwords w ?_
    rw [Cursor.words, htokens]
    exact List.mem_cons_of_mem _ hw
  unfold mutationBody at hbody
  split at hbody
  · exact insert_writable hleft hbody
  · split at hbody
    · exact update_writable hleft hbody
    · split at hbody
      · exact delete_writable hleft hbody
      · exact absurd hbody (by simp)

/-! ## 4. Reading a rendering

Everything up to the PROOF clause, for the three kinds, and the clause itself. -/

/-- On this cursor the rule reads all but a PROOF clause, whose words are left, and makes a mutation
of what it reads there. -/
def LeavesProof (rule : Rule Mutation) (cursor : Cursor) (make : List ProofSpec → Mutation)
    (tail : List String) : Prop :=
  ∃ next : Cursor, next.words = tail ∧ ∀ {m : Mutation} {rest : Cursor},
    (rule cursor).result = .ok (m, rest) ↔
      ∃ proof, (proofClause .optional next).result = .ok (proof, rest) ∧ m = make proof

/-- **A rendered PROOF clause comes back if and only if no type in it is a clause keyword.** -/
theorem proofClause_rendered_iff {proof : List ProofSpec} (h : ∀ spec ∈ proof, spec.Writable)
    {cursor : Cursor} (hc : cursor.words = WrittenChain.optionWords (writtenProof proof)) :
    (∃ rest, (proofClause .optional cursor).result = .ok (proof, rest) ∧ rest.tokens = []) ↔
      ∀ spec ∈ proof, Text.isAnyOf spec.proofType clauseKeywords = false := by
  constructor
  · rintro ⟨rest, hread, -⟩
    have hwords : ∀ w ∈ cursor.words, Text.IsWord w.toList := by
      intro w hw
      have hproof := words_append_proofText "" h
      rw [(by decide : Text.words "" = []), List.nil_append] at hproof
      rw [hc, ← hproof] at hw
      exact Text.isWord_of_mem_words hw
    obtain ⟨chain, hformed, -, hspecs, hall⟩ := proofClause_eq_ok hwords hread
    cases chain with
    | none =>
      rw [← hspecs]
      simp [WrittenChain.optionSpecs]
    | some chain =>
      -- the clause that was read has the rendered words and the same specs; the types it was read
      -- with are operands
      have hspecs' : chain.specs = proof := hspecs
      have hne : proof ≠ [] := by
        rw [← hspecs']
        exact List.cons_ne_nil _ _
      have hrendered : chain.words ++ rest.words = "PROOF" :: proofWords proof ++ [] := by
        rw [List.append_nil, ← optionWords_writtenProof hne, ← hc, hall]
        rfl
      exact (hformed chain rfl).operand_of_words h hspecs' hrendered
  · intro htypes
    have hreads : Reads (proofClause .optional)
        (WrittenChain.optionWords (writtenProof proof) ++ []) _ [] :=
      reads_proofClause (writtenProof_wellFormed h htypes) ⟨by simp, by simp⟩ (by simp)
    rw [List.append_nil, optionSpecs_writtenProof h] at hreads
    obtain ⟨rest, hread, hrest⟩ := hreads.result hc
    exact ⟨rest, hread, List.map_eq_nil_iff.mp hrest⟩

/-- A mutation that is read up to its PROOF clause comes back if that clause does. -/
theorem LeavesProof.comes_back_iff {rule : Rule Mutation} {cursor : Cursor}
    {make : List ProofSpec → Mutation} {proof : List ProofSpec}
    (h : LeavesProof rule cursor make (WrittenChain.optionWords (writtenProof proof)))
    (hmake : Function.Injective make) (hproof : ∀ spec ∈ proof, spec.Writable) :
    (∃ rest, (rule cursor).result = .ok (make proof, rest) ∧ rest.tokens = []) ↔
      ∀ spec ∈ proof, Text.isAnyOf spec.proofType clauseKeywords = false := by
  obtain ⟨next, hnext, hrule⟩ := h
  rw [← proofClause_rendered_iff hproof hnext]
  refine exists_congr fun rest => and_congr_left fun _ => ?_
  rw [hrule]
  constructor
  · rintro ⟨proof', hread, heq⟩
    rw [hmake heq]
    exact hread
  · intro hread
    exact ⟨proof, hread, rfl⟩

/-- A DELETE is two words ahead of its PROOF clause. -/
theorem delete_leavesProof {id : String} (hid : IsOperand id) {cursor : Cursor}
    {tail : List String} (hc : cursor.words = "HEXAD" :: id :: tail) :
    LeavesProof delete cursor (.delete id) tail := by
  obtain ⟨_, c₁, -, hc₁, h₁⟩ := (reads_keyword (Text.sameLetters_refl "HEXAD") _).step hc
  obtain ⟨t, c₂, ht, hc₂, h₂⟩ := (reads_operand hid.operand _).step hc₁
  refine ⟨c₂, hc₂, ?_⟩
  intro m rest
  unfold delete
  rw [h₁, h₂, bind_eq_ok]
  simp only [pure_result, Except.ok.injEq, Prod.mk.injEq, ht]
  constructor
  · rintro ⟨proof, c₃, hproof, rfl, rfl⟩
    exact ⟨proof, hproof, rfl⟩
  · rintro ⟨proof, hproof, rfl⟩
    exact ⟨proof, rest, hproof, rfl, rfl⟩

/-- An INSERT is its payloads ahead of its PROOF clause.  What the payloads leave begins with
PROOF or is nothing, so it is what may follow them. -/
theorem insert_leavesProof {payloads : List Payload} {body tail : List String}
    (hread : Reads (chain payload) body (· = payloads) tail)
    (htail : ∀ word, tail.head? = some word → Text.sameLetters word "PROOF" = true)
    {cursor : Cursor} (hc : cursor.words = "HEXAD" :: "WITH" :: body) :
    LeavesProof insert cursor (.insert payloads) tail := by
  obtain ⟨_, c₁, -, hc₁, h₁⟩ := (reads_keyword (Text.sameLetters_refl "HEXAD") _).step hc
  obtain ⟨_, c₂, -, hc₂, h₂⟩ := (reads_keyword (Text.sameLetters_refl "WITH") _).step hc₁
  obtain ⟨_, c₃, rfl, hc₃, h₃⟩ := hread.step hc₂
  refine ⟨c₃, hc₃, ?_⟩
  intro m rest
  unfold insert
  rw [h₁, h₂, h₃]
  have hahead : ∀ t, c₃.tokens.head? = some t → ¬ (!t.isKeyword "PROOF") = true := by
    intro t ht
    have hproof : Text.sameLetters t.text "PROOF" = true := by
      refine htail t.text ?_
      rw [← hc₃, Cursor.words, List.head?_map, ht]
      rfl
    simpa using hproof
  refine (lookahead_eq_ok fun _ _ => ⟨_, rfl⟩).trans ?_
  simp only [bind_eq_ok, note_result, pure_result, Except.ok.injEq, Prod.mk.injEq]
  constructor
  · rintro ⟨-, proof, c₄, hproof, _, _, ⟨-, rfl⟩, rfl, rfl⟩
    exact ⟨proof, hproof, rfl⟩
  · rintro ⟨proof, hproof, rfl⟩
    exact ⟨hahead, proof, rest, hproof, (), rest, ⟨trivial, rfl⟩, rfl, rfl⟩

/-- **A span is read as the assignments its pieces spell**, if none of its words is PROOF. -/
theorem reads_span {span : List String} {ps : List (List Char)} {as : List Assignment}
    (hps : SpanPieces span ps) (hspell : SpellAll ps as) (hne : span ≠ [])
    (hisWord : ∀ word ∈ span, Text.IsWord word.toList)
    (hplain : ∀ word ∈ span, Text.sameLetters word "PROOF" = false) {tail : List String}
    (htail : ∀ word, tail.head? = some word → Text.sameLetters word "PROOF" = true) :
    Reads setClause ("SET" :: (span ++ tail)) (· = as) tail := by
  refine Reads.bind (reads_keyword (Text.sameLetters_refl "SET") _) fun _ _ => ?_
  refine Reads.bind (reads_takeUntil ?_ ?_) fun tokens htokens => ?_
  · intro word hword
    rw [Text.isAnyOf_singleton]
    exact hplain word hword
  · intro word hword
    rw [Text.isAnyOf_singleton]
    exact htail word hword
  subst htokens
  have hnonempty : ¬ tokens.isEmpty = true := by simpa using hne
  have htexts : ∀ t ∈ tokens, Text.IsWord t.text.toList :=
    fun t ht => hisWord t.text (List.mem_map_of_mem ht)
  have hread : Reads ((assignmentPieces tokens).mapM assignment) tail (· = as) tail := by
    intro cursor hc
    exact ⟨as, cursor, (assignments_eq_ok htexts hps).mpr ⟨hspell, rfl⟩, rfl, hc⟩
  rw [if_neg hnonempty]
  split
  · exact Reads.bind (reads_note _ tail) fun _ _ => hread
  · exact hread

/-- **A rendered list of assignments is read**, if none of its words is PROOF.  The rendered list
is a span, cut where the span was cut that the assignments come from. -/
theorem reads_setClause {span : List String} {ps : List (List Char)} {as : List Assignment}
    (hps : SpanPieces span ps) (hspell : SpellAll ps as) (hne : as ≠ [])
    (hwords : ∀ word ∈ Text.words (commaList (as.map Assignment.render)),
      Text.sameLetters word "PROOF" = false) {tail : List String}
    (htail : ∀ word, tail.head? = some word → Text.sameLetters word "PROOF" = true) :
    Reads setClause ("SET" :: (Text.words (commaList (as.map Assignment.render)) ++ tail))
      (· = as) tail :=
  reads_span (hps.rendered hspell hne) (spellAll_pieces hspell.writable)
    (words_assignments_ne_nil hspell.writable hne) (fun _ => Text.isWord_of_mem_words) hwords htail

/-- An UPDATE is its hexad and its span ahead of its PROOF clause. -/
theorem update_leavesProof {id : String} (hid : IsOperand id) {as : List Assignment}
    {body tail : List String} (hread : Reads setClause ("SET" :: body) (· = as) tail)
    {cursor : Cursor} (hc : cursor.words = "HEXAD" :: id :: "SET" :: body) :
    LeavesProof update cursor (.update id as) tail := by
  obtain ⟨_, c₁, -, hc₁, h₁⟩ := (reads_keyword (Text.sameLetters_refl "HEXAD") _).step hc
  obtain ⟨t, c₂, ht, hc₂, h₂⟩ := (reads_operand hid.operand _).step hc₁
  obtain ⟨_, c₃, rfl, hc₃, h₃⟩ := hread.step hc₂
  refine ⟨c₃, hc₃, ?_⟩
  intro m rest
  unfold update
  rw [h₁, h₂, h₃]
  simp only [bind_eq_ok, note_result, pure_result, Except.ok.injEq, Prod.mk.injEq, ht]
  constructor
  · rintro ⟨proof, c₄, hproof, _, _, ⟨-, rfl⟩, rfl, rfl⟩
    exact ⟨proof, hproof, rfl⟩
  · rintro ⟨proof, hproof, rfl⟩
    exact ⟨proof, rest, hproof, (), rest, ⟨trivial, rfl⟩, rfl, rfl⟩

/-- A span that is shorter than the rendered list does not hold its assignments: each word that is
cut off has weight. -/
theorem eq_nil_of_span {span more : List String} {ps : List (List Char)} {as : List Assignment}
    (hps : SpanPieces span ps) (hspell : SpellAll ps as) (hne : as ≠ [])
    (hwords : Text.words (commaList (as.map Assignment.render)) = span ++ more) : more = [] := by
  cases more with
  | nil => rfl
  | cons word more =>
    have hle := hps.weight_le hspell hne
    have hword : Text.IsWord word.toList :=
      Text.isWord_of_mem_words (hwords ▸ List.mem_append_right _ List.mem_cons_self)
    obtain ⟨c, cs, hc⟩ := List.exists_cons_of_ne_nil hword.ne_nil
    -- a word that is missing has weight, and the span has no less than the rendering
    have hpos : 0 < weight word.toList := by
      refine List.countP_pos_iff.mpr ⟨c, by rw [hc]; exact List.mem_cons_self, ?_⟩
      simp [hword.solid c (by rw [hc]; exact List.mem_cons_self)]
    have hsplit : spelled [] (span ++ word :: more) =
        spelled [] span ++ ([' '] ++ word.toList ++ spelled [] more) := by
      simp [spelled]
    rw [hwords, hsplit] at hle
    simp only [weight_append] at hle
    omega

/-- **An UPDATE that comes back has assignments, and no PROOF among their words.** -/
theorem update_rendered {id : String} {as : List Assignment} {proof : List ProofSpec}
    {cursor rest : Cursor} {tail : List String}
    (hwords : ∀ w ∈ cursor.words, Text.IsWord w.toList)
    (htail : ∀ word, tail.head? = some word → Text.sameLetters word "PROOF" = true)
    (hc : cursor.words = "HEXAD" :: id :: "SET" ::
      (Text.words (commaList (as.map Assignment.render)) ++ tail))
    (h : (update cursor).result = .ok (.update id as proof, rest)) :
    as ≠ [] ∧ ∀ word ∈ Text.words (commaList (as.map Assignment.render)),
      Text.sameLetters word "PROOF" = false := by
  obtain ⟨_, _, next, after, _, _, hall, -, hset, -, heq⟩ := update_eq_ok hwords h
  obtain ⟨rfl, rfl, rfl⟩ := Mutation.update.inj heq
  rw [hall] at hwords hc
  obtain ⟨set, span, ps, hnext, hspan, hinside, -, hps, hspell⟩ :=
    setClause_eq_ok (fun w hw => hwords w (by simp [hw])) hset
  have hdivide : span ++ after.words =
      Text.words (commaList (as.map Assignment.render)) ++ tail := by
    simp only [List.cons.injEq, true_and] at hc
    exact (List.cons.inj (hnext.symm.trans hc.2)).2
  have hne : as ≠ [] := by
    rintro rfl
    obtain ⟨word, words, rfl⟩ := List.exists_cons_of_ne_nil hspan
    have htext : Text.words (commaList ([].map Assignment.render)) = [] := by decide
    rw [htext, List.nil_append] at hdivide
    have hproof := htail word (by rw [← hdivide]; rfl)
    rw [hinside word List.mem_cons_self] at hproof
    exact absurd hproof (by simp)
  refine ⟨hne, ?_⟩
  rcases List.append_eq_append_iff.mp hdivide with ⟨more, hmore, -⟩ | ⟨more, hmore, -⟩
  · -- the span ends inside the list: it would be too light, unless nothing is missing
    rw [eq_nil_of_span hps hspell hne hmore, List.append_nil] at hmore
    rw [hmore]
    exact hinside
  · intro word hword
    refine hinside word ?_
    rw [hmore]
    exact List.mem_append_left _ hword

/-- The first word decides the body. -/
theorem mutationBody_insert {t : Token} (h : t.text = "INSERT") : mutationBody t = insert := by
  rw [mutationBody, if_pos (by rw [Token.isKeyword, h]; decide)]

theorem mutationBody_update {t : Token} (h : t.text = "UPDATE") : mutationBody t = update := by
  rw [mutationBody, if_neg (by rw [Token.isKeyword, h]; decide),
    if_pos (by rw [Token.isKeyword, h]; decide)]

/-- A mutation is what its body reads to the end. -/
theorem mutation_step {cursor : Cursor} {word : String} {words : List String} {body : Rule Mutation}
    (hc : cursor.words = word :: words)
    (hbody : ∀ t : Token, t.text = word → mutationBody t = body) :
    ∃ next : Cursor, next.words = words ∧ ∀ {m : Mutation},
      (∃ rest, (mutation cursor).result = .ok (m, rest)) ↔
        ∃ rest, (body next).result = .ok (m, rest) ∧ rest.tokens = [] := by
  obtain ⟨t, ts, htokens, ht, hwords⟩ := Cursor.tokens_of_words_cons hc
  refine ⟨⟨ts, cursor.count⟩, hwords, ?_⟩
  intro m
  refine exists_congr fun rest => ?_
  rw [mutation_eq_ok, htokens]
  constructor
  · rintro ⟨first, ⟨tokens, count⟩, heq, hcount, hread, hnil⟩
    obtain ⟨rfl, rfl⟩ := List.cons.inj heq
    obtain rfl : count = cursor.count := hcount
    rw [hbody t ht] at hread
    exact ⟨hread, hnil⟩
  · rintro ⟨hread, hnil⟩
    refine ⟨t, ⟨ts, cursor.count⟩, rfl, rfl, ?_, hnil⟩
    rw [hbody t ht]
    exact hread

end Rule

/-! ## 5. The round trip

The words of the three renderings, and the equivalence for each.  The statement grammar reads a
mutation by the same rule as the mutation grammar, so the theorem is about statements. -/

/-- What stands behind a rendered list starts with PROOF. -/
theorem writtenProof_head {proof : List ProofSpec} {word : String}
    (h : (WrittenChain.optionWords (writtenProof proof)).head? = some word) :
    Text.sameLetters word "PROOF" = true := by
  cases hchain : writtenProof proof with
  | none => simp [hchain, WrittenChain.optionWords] at h
  | some chain =>
    obtain rfl : chain.opening = word := by
      simpa [hchain, WrittenChain.optionWords, WrittenChain.words] using h
    rw [opening_writtenProof hchain]
    exact Text.sameLetters_refl "PROOF"

/-- A spelling of PROOF starts with no comma. -/
theorem not_comma_of_proof {word : String} (h : Text.sameLetters word "PROOF" = true) :
    word.toList.head? ≠ some ',' := by
  intro hhead
  rw [Text.sameLetters_of_not_alpha (List.mem_of_mem_head? hhead) (by decide) (by decide)] at h
  exact absurd h (by simp)

namespace Mutation

/-- A rendered INSERT, word by word up to its payloads. -/
theorem words_render_insert (payloads : List Payload) {proof : List ProofSpec}
    (h : ∀ spec ∈ proof, spec.Writable) : Text.words (insert payloads proof).render =
      "INSERT" :: "HEXAD" :: "WITH" :: (Text.words (commaList (payloads.map Payload.render)) ++
        WrittenChain.optionWords (writtenProof proof)) := by
  have hlead : Text.words "INSERT HEXAD WITH" = ["INSERT", "HEXAD", "WITH"] := by decide
  have hrender : (insert payloads proof).render =
      "INSERT HEXAD WITH" ++ " " ++ commaList (payloads.map Payload.render) ++ proofText proof := by
    unfold Mutation.render
    rw [← String.toList_inj]
    simp [String.toList_append]
  rw [hrender, words_append_proofText _ h, Text.words_append_space, hlead]
  rfl

/-- A rendered UPDATE, word by word up to its assignments. -/
theorem words_render_update {id : String} (hid : Text.IsWord id.toList) (as : List Assignment)
    {proof : List ProofSpec} (h : ∀ spec ∈ proof, spec.Writable) :
    Text.words (update id as proof).render =
      "UPDATE" :: "HEXAD" :: id :: "SET" :: (Text.words (commaList (as.map Assignment.render)) ++
        WrittenChain.optionWords (writtenProof proof)) := by
  have hlead : Text.words "UPDATE HEXAD" = ["UPDATE", "HEXAD"] := by decide
  have hset : Text.words "SET" = ["SET"] := by decide
  have hrender : (update id as proof).render = "UPDATE HEXAD" ++ " " ++ (id ++ " " ++
      ("SET" ++ " " ++ commaList (as.map Assignment.render))) ++ proofText proof := by
    unfold Mutation.render
    rw [← String.toList_inj]
    simp [String.toList_append]
  rw [hrender, words_append_proofText _ h, Text.words_append_space, Text.words_append_space,
    Text.words_append_space, hlead, hset, Text.words_of_isWord hid]
  rfl

/-- A rendered DELETE, word by word. -/
theorem words_render_delete {id : String} (hid : Text.IsWord id.toList) {proof : List ProofSpec}
    (h : ∀ spec ∈ proof, spec.Writable) : Text.words (delete id proof).render =
      "DELETE" :: "HEXAD" :: id :: WrittenChain.optionWords (writtenProof proof) := by
  have hlead : Text.words "DELETE HEXAD" = ["DELETE", "HEXAD"] := by decide
  have hrender : (delete id proof).render = "DELETE HEXAD" ++ " " ++ id ++ proofText proof := by
    unfold Mutation.render
    rw [← String.toList_inj]
    simp [String.toList_append]
  rw [hrender, words_append_proofText _ h, Text.words_append_space, hlead,
    Text.words_of_isWord hid]
  rfl

end Mutation

namespace Rule

/-- An INSERT comes back exactly if its proofs do. -/
theorem insert_comes_back_iff {payloads : List Payload} {proof : List ProofSpec}
    (h : (Mutation.insert payloads proof).Writable) :
    (∃ rest, (mutation (Cursor.ofText (Mutation.insert payloads proof).render)).result =
        .ok (.insert payloads proof, rest)) ↔
      ∀ spec ∈ proof, Text.isAnyOf spec.proofType clauseKeywords = false := by
  obtain ⟨hne, hpayloads, hproof⟩ := h
  obtain ⟨next, hnext, hstep⟩ := mutation_step
    ((Cursor.words_ofText _).trans (Mutation.words_render_insert payloads hproof))
    fun _ => mutationBody_insert
  have hhead : ∀ word, (WrittenChain.optionWords (writtenProof proof)).head? = some word →
      word.toList.head? ≠ some ',' := fun _ hword => not_comma_of_proof (writtenProof_head hword)
  rw [hstep]
  exact (insert_leavesProof (reads_chain_payload hne hpayloads hhead)
    (fun _ => writtenProof_head) hnext).comes_back_iff
      (fun _ _ heq => (Mutation.insert.inj heq).2) hproof

/-- A DELETE comes back exactly if its proofs do. -/
theorem delete_comes_back_iff {id : String} {proof : List ProofSpec}
    (h : (Mutation.delete id proof).Writable) :
    (∃ rest, (mutation (Cursor.ofText (Mutation.delete id proof).render)).result =
        .ok (.delete id proof, rest)) ↔
      ∀ spec ∈ proof, Text.isAnyOf spec.proofType clauseKeywords = false := by
  obtain ⟨hid, hproof⟩ := h
  have hbody : ∀ t : Token, t.text = "DELETE" → mutationBody t = delete := by
    intro t ht
    rw [mutationBody, if_neg (by rw [Token.isKeyword, ht]; decide),
      if_neg (by rw [Token.isKeyword, ht]; decide), if_pos (by rw [Token.isKeyword, ht]; decide)]
  obtain ⟨next, hnext, hstep⟩ := mutation_step
    ((Cursor.words_ofText _).trans (Mutation.words_render_delete hid.isWord hproof)) hbody
  rw [hstep]
  exact (delete_leavesProof hid hnext).comes_back_iff
    (fun _ _ heq => (Mutation.delete.inj heq).2) hproof

/-- An UPDATE comes back exactly if its proofs and its assignments do. -/
theorem update_comes_back_iff {id : String} {as : List Assignment} {proof : List ProofSpec}
    (h : (Mutation.update id as proof).Writable) :
    (∃ rest, (mutation (Cursor.ofText (Mutation.update id as proof).render)).result =
        .ok (.update id as proof, rest)) ↔
      (∀ spec ∈ proof, Text.isAnyOf spec.proofType clauseKeywords = false) ∧ as ≠ [] ∧
        ∀ word ∈ Text.words (commaList (as.map Assignment.render)),
          Text.sameLetters word "PROOF" = false := by
  obtain ⟨hid, ⟨span, ps, hps, hspell⟩, hproof⟩ := h
  have hrender := Mutation.words_render_update hid.isWord as hproof
  obtain ⟨next, hnext, hstep⟩ := mutation_step ((Cursor.words_ofText _).trans hrender)
    fun _ => mutationBody_update
  have hwords : ∀ w ∈ next.words, Text.IsWord w.toList := by
    intro w hw
    refine Text.isWord_of_mem_words (s := (Mutation.update id as proof).render) ?_
    rw [hrender, ← hnext]
    exact List.mem_cons_of_mem _ hw
  have hreads : as ≠ [] → (∀ word ∈ Text.words (commaList (as.map Assignment.render)),
      Text.sameLetters word "PROOF" = false) →
      ((∃ rest, (update next).result = .ok (.update id as proof, rest) ∧ rest.tokens = []) ↔
        ∀ spec ∈ proof, Text.isAnyOf spec.proofType clauseKeywords = false) := by
    intro hne hspan
    exact (update_leavesProof hid (reads_setClause hps hspell hne hspan fun _ => writtenProof_head)
      hnext).comes_back_iff (fun _ _ heq => (Mutation.update.inj heq).2.2) hproof
  rw [hstep]
  constructor
  · rintro ⟨rest, hread, hnil⟩
    obtain ⟨hne, hspan⟩ := update_rendered hwords (fun _ => writtenProof_head) hnext hread
    exact ⟨(hreads hne hspan).mp ⟨rest, hread, hnil⟩, hne, hspan⟩
  · rintro ⟨htypes, hne, hspan⟩
    exact (hreads hne hspan).mpr htypes

end Rule

/-- **The canonical rendering of a mutation, exactly.**  A mutation that was read comes back from
its rendering if and only if no proof type is a clause keyword and, for an UPDATE, there are
assignments and no word of their rendering is PROOF. -/
theorem parseStatement_render_mutation_iff {config : Config} {input : String} {m : Mutation}
    (h : (parseStatement config input).result = .ok (.mutation m)) :
    (parseStatement config (Statement.mutation m).render).result = .ok (.mutation m) ↔
      (∀ spec ∈ m.proof, Text.isAnyOf spec.proofType Rule.clauseKeywords = false) ∧
      ∀ id assignments proof, m = .update id assignments proof →
        assignments ≠ [] ∧ ∀ word ∈ Text.words (commaList (assignments.map Assignment.render)),
          Text.sameLetters word "PROOF" = false := by
  have hwritable : m.Writable := by
    rw [parseStatement_mutation_iff, parseMutation, Outcome.accepted_result, Rule.run_eq_ok] at h
    obtain ⟨rest, hread⟩ := h
    refine Rule.mutation_writable (fun w hw => ?_) hread
    rw [Cursor.words_ofText] at hw
    exact Text.isWord_of_mem_words hw
  rw [parseStatement_mutation_iff, parseMutation, Outcome.accepted_result, Rule.run_eq_ok]
  cases m with
  | insert payloads proof =>
    exact (Rule.insert_comes_back_iff hwritable).trans (by simp [Mutation.proof])
  | update id as proof =>
    refine (Rule.update_comes_back_iff hwritable).trans ?_
    constructor
    · rintro ⟨htypes, hspan⟩
      refine ⟨htypes, ?_⟩
      rintro _ _ _ ⟨⟩
      exact hspan
    · rintro ⟨htypes, hspan⟩
      exact ⟨htypes, hspan id as proof rfl⟩
  | delete id proof =>
    exact (Rule.delete_comes_back_iff hwritable).trans (by simp [Mutation.proof])

/-- An UPDATE that comes back from its rendering: the comma between the quotes does not separate,
with or without the blanks around the `=`. -/
theorem parseStatement_render_quoted :
    (parseStatement {} (Statement.mutation (.update "h" [⟨"a", "'x, y'"⟩] [])).render).result =
      .ok (.mutation (.update "h" [⟨"a", "'x, y'"⟩] [])) := by
  have h : (parseStatement {} "update hexad h set a = 'x, y' ,").result =
      .ok (.mutation (.update "h" [⟨"a", "'x, y'"⟩] [])) := by decide +kernel
  refine (parseStatement_render_mutation_iff h).mpr ⟨by decide, ?_⟩
  rintro _ _ _ ⟨⟩
  decide +kernel

end HexadQuery
