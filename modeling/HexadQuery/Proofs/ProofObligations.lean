/-
# Proof obligations are not lost

A query that states a proof obligation where the grammar has room for one carries it, whichever
clauses stand around it, and a reading that forbids proofs refuses it.  The place is the words
behind the source and outside an ORDER BY: WHERE, GROUP BY and HAVING stop at the word PROOF, each
by its own list of stop words.  An ORDER BY stops at LIMIT and OFFSET only, so a PROOF behind ORDER
and ahead of them is one of the words it captures, and `parseSlipstream_order_proof` is a text
where that happens.  A PROOF behind the LIMIT or OFFSET of an ORDER BY is not captured: such a text
is no query at all.

`afterSource` and `outsideOrder` find the words in question without reading any clause, so that the
statements do not lean on the reading they are about.

For a text that is a query the argument is on its division into clauses.  The clauses ahead of the
PROOF hold no PROOF, since their spans stop there (`beforeProof_apart`); neither do a LIMIT and an
OFFSET, which have a number each (`fromLimit_apart`); and of the ORDER BY nothing is looked at.  So
a PROOF among the words that count is the PROOF of the clause (`statesProof_words`).

For a text that is none, only one thing can be said, and it is said of errors too: if no word
states an obligation, `parse_slipstream` returns what `parse_query` returns
(`Rule.query_forbidden_result`).  The two differ in the demand on `proof_clause` alone, so it is
enough that a reading which has come to that clause finds no PROOF there.  It has divided the words
so far, and a PROOF in that place would be one of the words that count (`statesProof_append`),
whatever stands behind it.
-/
import HexadQuery.Proofs.Statements

namespace HexadQuery

/-! ## 1. Where an obligation can stand

Plain functions on words.  FROM is found at its first occurrence, because the SELECT list can not
hold another one. -/

/-- The words behind the source: behind FROM, the kind of the source and its operand, and behind
the drift policy of a federation. -/
def afterSource (words : List String) : List String :=
  match words.dropWhile fun word => !Text.sameLetters word "FROM" with
  | _ :: kind :: _ :: rest =>
    match rest with
    | next :: _ :: _ :: more =>
      if Text.sameLetters kind "FEDERATION" && Text.sameLetters next "WITH" then more else rest
    | _ => rest
  | _ => []

/-- The words an ORDER BY does not capture: those ahead of the first ORDER, and those from the
first LIMIT or OFFSET behind it on. -/
def outsideOrder (words : List String) : List String :=
  words.takeWhile (fun word => !Text.sameLetters word "ORDER") ++
    (words.dropWhile fun word => !Text.sameLetters word "ORDER").dropWhile fun word =>
      !Text.isAnyOf word ["LIMIT", "OFFSET"]

/-- The words state an obligation: a PROOF stands behind the source and outside an ORDER BY. -/
def statesProof (words : List String) : Bool :=
  (outsideOrder (afterSource words)).any fun word => Text.sameLetters word "PROOF"

/-- Words that hold no ORDER stay where they are. -/
theorem outsideOrder_append {front : List String}
    (hfront : ∀ word ∈ front, Text.sameLetters word "ORDER" = false) (rest : List String) :
    outsideOrder (front ++ rest) = front ++ outsideOrder rest := by
  have hpass : ∀ word ∈ front, (!Text.sameLetters word "ORDER") = true := by
    intro word hword
    rw [hfront word hword]
    rfl
  rw [outsideOrder, outsideOrder, List.takeWhile_append_of_pos hpass,
    List.dropWhile_append_of_pos hpass, List.append_assoc]

/-! ## 2. The words of the clauses

What each clause can hold.  The lemmas about one clause speak of a word by the list of stop words,
so they serve for PROOF and for ORDER. -/

/-- The words that open a clause are its keywords, each in some casing. -/
theorem WrittenClause.Opened.exists_of_mem {clause : WrittenClause} {keywords : List String}
    (h : clause.Opened keywords) :
    ∀ word ∈ clause.opening, ∃ keyword ∈ keywords, Text.sameLetters word keyword = true := by
  obtain ⟨opening, body⟩ := clause
  change List.Forall₂ _ opening keywords at h
  induction h with
  | nil => simp
  | cons hword _ ih =>
    intro word hmem
    rcases List.mem_cons.mp hmem with rfl | hmem
    · exact ⟨_, List.mem_cons_self, hword⟩
    · obtain ⟨keyword, hk, hsame⟩ := ih word hmem
      exact ⟨keyword, List.mem_cons_of_mem _ hk, hsame⟩

/-- A clause that stops at a word does not hold it. -/
theorem WrittenClause.SpanFormed.apart {keywords stops : List String}
    {clause : Option WrittenClause} (h : ∀ c ∈ clause, c.SpanFormed keywords stops)
    {other : String} (hstop : other ∈ stops)
    (hkeywords : ∀ keyword ∈ keywords, Text.sameLetters keyword other = false) :
    ∀ word ∈ optionWords clause, Text.sameLetters word other = false := by
  intro word hword
  cases clause with
  | none => simp [optionWords] at hword
  | some c =>
    rcases List.mem_append.mp hword with hword | hword
    · obtain ⟨keyword, hmem, hsame⟩ := (h c rfl).opened.exists_of_mem word hword
      exact Text.sameLetters_of hsame (hkeywords keyword hmem)
    · have hbody := (h c rfl).body word hword
      rw [Text.isAnyOf, List.any_eq_false] at hbody
      simpa using hbody other hstop

/-- A number is no word of letters, and its keyword is none but itself. -/
theorem WrittenClause.NumberFormed.apart {keyword : String} {clause : Option WrittenClause}
    (h : ∀ c ∈ clause, c.NumberFormed keyword) {other : String}
    (hother : other.toList.all Char.isAlpha = true)
    (hkeyword : Text.sameLetters keyword other = false) :
    ∀ word ∈ optionWords clause, Text.sameLetters word other = false := by
  intro word hword
  cases clause with
  | none => simp [optionWords] at hword
  | some c =>
    obtain ⟨digits, hbody, hne, hall, -⟩ := (h c rfl).body
    rcases List.mem_append.mp hword with hword | hword
    · obtain ⟨k, hmem, hsame⟩ := (h c rfl).opened.exists_of_mem word hword
      obtain rfl : k = keyword := by simpa using hmem
      exact Text.sameLetters_of hsame hkeyword
    · obtain rfl : word = digits := by simpa [hbody] using hword
      obtain ⟨d, ds, hd⟩ := List.exists_cons_of_ne_nil (mt String.toList_eq_nil_iff.mp hne)
      have hmem : d ∈ word.toList := by rw [hd]; exact List.mem_cons_self
      exact Text.sameLetters_of_not_alpha hmem (isAlpha_of_isDigit (hall d hmem)) hother

/-- The source starts at the first FROM. -/
theorem dropWhile_from {select rest : List String} {source : WrittenSource}
    (hselect : ∀ word ∈ select, Text.sameLetters word "FROM" = false) (h : source.WellFormed) :
    ∃ from_ kind, Text.sameLetters kind source.kind.keyword = true ∧
      (select ++ (source.words ++ rest)).dropWhile (fun word => !Text.sameLetters word "FROM") =
        from_ :: kind :: source.operand :: (WrittenClause.optionWords source.drift ++ rest) := by
  obtain ⟨from_, kind, hopening, hfrom, hkind⟩ := h.opened.eq_pair
  refine ⟨from_, kind, hkind, ?_⟩
  have hdrop : ∀ word ∈ select, (!Text.sameLetters word "FROM") = true := by
    intro word hword
    rw [hselect word hword]
    rfl
  rw [List.dropWhile_append_of_pos hdrop, WrittenSource.words,
    show source.opening = [from_, kind] from hopening]
  simp [hfrom]

/-- The words behind the source are found without reading the clauses. -/
theorem afterSource_append {select rest : List String} {source : WrittenSource}
    (hselect : ∀ word ∈ select, Text.sameLetters word "FROM" = false) (h : source.WellFormed)
    (hrest : ∀ word, rest.head? = some word → Text.sameLetters word "WITH" = false) :
    afterSource (select ++ (source.words ++ rest)) = rest := by
  obtain ⟨from_, kind, hkind, hwords⟩ := dropWhile_from hselect h
  rw [afterSource, hwords]
  cases hdrift : source.drift with
  | none =>
    rw [WrittenClause.optionWords_none, List.nil_append]
    dsimp only
    split
    · next next _ _ more =>
      rw [hrest next rfl, Bool.and_false, if_neg (by simp)]
    · rfl
  | some clause =>
    obtain ⟨hfederation, hopened, policy, hbody, -⟩ := h.drift clause hdrift
    obtain ⟨with_, drift, hpair, hwith, -⟩ := hopened.eq_pair
    rw [WrittenClause.optionWords_some, WrittenClause.words, hpair, hbody]
    have hkind' : Text.sameLetters kind "FEDERATION" = true := by
      rw [hfederation] at hkind
      exact hkind
    simp [hkind', hwith]

namespace WrittenQuery

/-- The words between the source and the PROOF clause. -/
def beforeProof (written : WrittenQuery) : List String :=
  WrittenClause.optionWords written.filter ++
    (WrittenClause.optionWords written.groupBy ++ WrittenClause.optionWords written.having)

/-- The words behind the source, parted at the place of the PROOF clause. -/
theorem afterSource_eq (written : WrittenQuery) :
    written.afterSource = written.beforeProof ++ written.fromProof := by
  simp [afterSource, fromGroup, fromHaving, beforeProof]

variable {config : Config} {written : WrittenQuery}

/-- No PROOF and no ORDER stands between the source and the PROOF clause. -/
theorem beforeProof_apart
    (hfilter : ∀ clause ∈ written.filter, clause.SpanFormed ["WHERE"] Rule.filterStops)
    (hgroup : ∀ clause ∈ written.groupBy, clause.SpanFormed ["GROUP", "BY"] Rule.groupStops)
    (hhaving : ∀ clause ∈ written.having, clause.SpanFormed ["HAVING"] Rule.havingStops)
    {other : String} (hother : other = "PROOF" ∨ other = "ORDER") :
    ∀ word ∈ written.beforeProof, Text.sameLetters word other = false := by
  intro word hword
  rcases List.mem_append.mp hword with hword | hword
  · refine WrittenClause.SpanFormed.apart hfilter ?_ ?_ word hword <;>
      rcases hother with rfl | rfl <;> decide
  rcases List.mem_append.mp hword with hword | hword
  · refine WrittenClause.SpanFormed.apart hgroup ?_ ?_ word hword <;>
      rcases hother with rfl | rfl <;> decide
  · refine WrittenClause.SpanFormed.apart hhaving ?_ ?_ word hword <;>
      rcases hother with rfl | rfl <;> decide

/-- The words of the SELECT clause hold no FROM. -/
theorem select_words {select : WrittenClause} (hopened : select.Opened ["SELECT"])
    (hfrom : ∀ word ∈ select.body, Text.sameLetters word "FROM" = false) :
    ∀ word ∈ select.words, Text.sameLetters word "FROM" = false := by
  intro word hword
  rcases List.mem_append.mp hword with hword | hword
  · obtain ⟨k, hmem, hsame⟩ := hopened.exists_of_mem word hword
    obtain rfl : k = "SELECT" := by simpa using hmem
    exact Text.sameLetters_of hsame (by decide)
  · exact hfrom word hword

/-- In a query that was divided, the words behind the source are those of the division. -/
theorem WellFormed.afterSource_words (h : written.WellFormed config) :
    HexadQuery.afterSource written.words = written.afterSource :=
  afterSource_append (select_words h.opened h.select_from) h.source
    (h.ledBy_afterSource.head_eq (by decide))

/-- **A PROOF in its place is an obligation the words state**, whatever stands behind it: the
clauses ahead of it end there, so the word is behind the source and no ORDER is ahead of it. -/
theorem statesProof_append (hselect : ∀ word ∈ written.select.words,
      Text.sameLetters word "FROM" = false)
    (hsource : written.source.WellFormed)
    (hfilter : ∀ clause ∈ written.filter, clause.SpanFormed ["WHERE"] Rule.filterStops)
    (hgroup : ∀ clause ∈ written.groupBy, clause.SpanFormed ["GROUP", "BY"] Rule.groupStops)
    (hhaving : ∀ clause ∈ written.having, clause.SpanFormed ["HAVING"] Rule.havingStops)
    {proof : String} (hproof : Text.sameLetters proof "PROOF" = true) (rest : List String) :
    statesProof (written.select.words ++
      (written.source.words ++ (written.beforeProof ++ proof :: rest))) = true := by
  have hhead : LedBy ["PROOF"] (proof :: rest) := by
    intro word hword
    obtain rfl : proof = word := by simpa using hword
    exact ⟨"PROOF", List.mem_cons_self, hproof⟩
  have hled : LedBy ["WHERE", "GROUP", "HAVING", "PROOF"]
      (written.beforeProof ++ proof :: rest) := by
    have := ((hhead.option fun c hc => (hhaving c hc).opened).option
      fun c hc => (hgroup c hc).opened).option fun c hc => (hfilter c hc).opened
    simpa [beforeProof] using this
  have horder : Text.sameLetters proof "ORDER" = false := Text.sameLetters_of hproof (by decide)
  rw [statesProof, afterSource_append hselect hsource (hled.head_eq (by decide)),
    outsideOrder_append (beforeProof_apart hfilter hgroup hhaving (Or.inr rfl)), List.any_append,
    outsideOrder]
  simp [horder, hproof]

/-- No PROOF stands behind the place of the ORDER BY. -/
theorem WellFormed.fromLimit_apart (h : written.WellFormed config) :
    ∀ word ∈ written.fromLimit, Text.sameLetters word "PROOF" = false := by
  intro word hword
  rcases List.mem_append.mp hword with hword | hword
  · exact WrittenClause.NumberFormed.apart h.limit (by decide) (by decide) word hword
  · exact WrittenClause.NumberFormed.apart h.offset (by decide) (by decide) word hword

/-- What an ORDER BY captures is its own clause, up to the LIMIT or OFFSET. -/
theorem WellFormed.outsideOrder_fromOrder (h : written.WellFormed config) :
    outsideOrder written.fromOrder ⊆ written.fromLimit := by
  intro word hword
  cases horder : written.orderBy with
  | none =>
    rw [fromOrder, horder, WrittenClause.optionWords_none, List.nil_append] at hword
    rcases List.mem_append.mp hword with hword | hword
    · exact List.takeWhile_subset _ hword
    · exact List.dropWhile_subset _ (List.dropWhile_subset _ hword)
  | some clause =>
    have hcaptured : ∀ captured ∈ WrittenClause.optionWords written.orderBy,
        (!Text.isAnyOf captured ["LIMIT", "OFFSET"]) = true := by
      intro captured hmem
      have hlimit := WrittenClause.SpanFormed.apart h.orderBy
        (by decide : "LIMIT" ∈ Rule.orderStops) (by decide) captured hmem
      have hoffset := WrittenClause.SpanFormed.apart h.orderBy
        (by decide : "OFFSET" ∈ Rule.orderStops) (by decide) captured hmem
      simp [Text.isAnyOf, hlimit, hoffset]
    obtain ⟨first, tail, hfirst, hwords⟩ := (h.orderBy clause horder).opened.exists_cons
    have hcons : written.fromOrder = first :: (tail ++ written.fromLimit) := by
      rw [fromOrder, horder, WrittenClause.optionWords_some, hwords, List.cons_append]
    have hnone : written.fromOrder.takeWhile (fun w => !Text.sameLetters w "ORDER") = [] := by
      simp [hcons, hfirst]
    have hall : written.fromOrder.dropWhile (fun w => !Text.sameLetters w "ORDER") =
        WrittenClause.optionWords written.orderBy ++ written.fromLimit := by
      rw [← fromOrder]
      simp [hcons, hfirst]
    rw [outsideOrder, hnone, List.nil_append, hall,
      List.dropWhile_append_of_pos hcaptured] at hword
    exact List.dropWhile_subset _ hword

/-- **The words state an obligation exactly if the query has a PROOF clause.**  If it has one,
that is the PROOF which counts; if not, no word that counts is PROOF, because all of them belong
to clauses that can not hold it. -/
theorem WellFormed.statesProof_words (h : written.WellFormed config) :
    statesProof written.words = written.proof.isSome := by
  cases hproof : written.proof with
  | some chain =>
    have hwords : written.fromProof = chain.opening ::
        (chain.words.tail ++ written.fromOrder) := by
      rw [fromProof, hproof]
      rfl
    rw [words, afterSource_eq, hwords]
    exact statesProof_append (select_words h.opened h.select_from) h.source h.filter h.groupBy
      h.having (h.proof chain hproof).opening _
  | none =>
    have hwords : written.fromProof = written.fromOrder := by
      rw [fromProof, hproof]
      rfl
    rw [statesProof, h.afterSource_words, afterSource_eq, hwords,
      outsideOrder_append (beforeProof_apart h.filter h.groupBy h.having (Or.inr rfl)),
      Option.isSome_none, List.any_eq_false]
    intro word hword
    rcases List.mem_append.mp hword with hword | hword
    · rw [beforeProof_apart h.filter h.groupBy h.having (Or.inl rfl) word hword]
      simp
    · rw [h.fromLimit_apart word (h.outsideOrder_fromOrder hword)]
      simp

/-- The obligations of a written query, by its words. -/
theorem WellFormed.proof_ne_nil_iff (h : written.WellFormed config) :
    (written.query config.registry).proof ≠ [] ↔ statesProof written.words = true := by
  rw [h.statesProof_words]
  cases hproof : written.proof <;> simp [query, hproof, WrittenChain.optionSpecs, WrittenChain.specs]

end WrittenQuery

namespace Rule

/-- Where no PROOF is next, forbidding the clause changes nothing. -/
theorem proofClause_absent {cursor : Cursor} (h : ∀ word, cursor.words.head? = some word →
      Text.sameLetters word "PROOF" = false) :
    (proofClause .forbidden cursor).result = (proofClause .optional cursor).result := by
  refine bind_congr_ok fun _ start hget => ?_
  simp only [get_result, Except.ok.injEq, Prod.mk.injEq] at hget
  obtain ⟨-, rfl⟩ := hget
  refine bind_congr_ok fun found rest hskip => ?_
  rcases skipKeyword_eq_ok hskip with ⟨-, word, hword, hwords⟩ | ⟨rfl, -⟩
  · have hnone := h word (by rw [hwords]; rfl)
    rw [hword] at hnone
    cases hnone
  · rfl

/-- **A query that states no obligation is read alike whether proofs are forbidden or not**, also
where the reading fails.  The demand is looked at once, at the PROOF clause; a reading that gets
there has divided the words ahead of it into clauses, so that a PROOF which is next would be an
obligation the words state. -/
theorem query_forbidden_result {config : Config} {cursor : Cursor}
    (h : statesProof cursor.words = false) :
    (query config .forbidden cursor).result = (query config .optional cursor).result := by
  refine bind_congr_ok fun list c₁ hselect => ?_
  refine bind_congr_ok fun source c₂ hsource => ?_
  refine bind_congr_ok fun filter c₃ hfilter => ?_
  refine bind_congr_ok fun groupBy c₄ hgroup => ?_
  refine bind_congr_ok fun having' c₅ hhaving => ?_
  -- both readings have come to the PROOF clause: what they have read so far is divided into clauses
  obtain ⟨select, hopened, -, hfrom, -, -, hw₀⟩ := selectClause_eq_ok hselect
  obtain ⟨from_, hfromFormed, -, hw₁⟩ := fromClause_eq_ok hsource
  obtain ⟨filter, hfilterFormed, -, hw₂⟩ := rawClause_eq_ok hfilter
  rw [groupFields_eq] at hgroup
  obtain ⟨groupBy, hgroupFormed, -, hw₃⟩ := listClause_eq_ok hgroup
  obtain ⟨having', hhavingFormed, -, hw₄⟩ := rawClause_eq_ok hhaving
  let written : WrittenQuery := ⟨select, from_, filter, groupBy, having', none, none, none, none⟩
  have hwords : cursor.words = written.select.words ++
      (written.source.words ++ (written.beforeProof ++ c₅.words)) := by
    rw [hw₀, hw₁, hw₂, hw₃, hw₄]
    simp [written, WrittenQuery.beforeProof]
  have habsent : ∀ word, c₅.words.head? = some word → Text.sameLetters word "PROOF" = false := by
    intro word hword
    obtain ⟨rest, hrest⟩ := List.head?_eq_some_iff.mp hword
    by_contra hproof
    have hstates : statesProof (written.select.words ++
        (written.source.words ++ (written.beforeProof ++ word :: rest))) = true :=
      WrittenQuery.statesProof_append (WrittenQuery.select_words hopened hfrom) hfromFormed
        hfilterFormed hgroupFormed hhavingFormed (Bool.eq_true_of_not_eq_false hproof) rest
    rw [← hrest, ← hwords, h] at hstates
    cases hstates
  rw [bind_result, bind_result, proofClause_absent habsent]

end Rule

/-! ## 3. Readings

The same for texts.  What a query that was read states is said by the division of its words; that
two readings have one result is said without any division. -/

/-- A query that was read has obligations exactly if the words state one. -/
theorem parseQuery_proof_ne_nil_iff {config : Config} {input : String} {q : Query}
    (h : (parseQuery config input).result = .ok q) :
    q.proof ≠ [] ↔ statesProof ((tokenize input).map (·.text)) = true := by
  rw [parseQuery, Outcome.accepted_result, Rule.query_run_eq_ok_iff] at h
  obtain ⟨written, hformed, -, hwords, rfl⟩ := h
  rw [← hwords]
  exact hformed.proof_ne_nil_iff

/-- **Without a stated obligation the two readings have one result.**  It is said of all texts,
those that are no query included. -/
theorem parseSlipstream_eq_parseQuery {config : Config} {input : String}
    (h : statesProof ((tokenize input).map (·.text)) = false) :
    (parseSlipstream config input).result = (parseQuery config input).result := by
  have hcursor : statesProof (Cursor.ofText input).words = false := h
  rw [parseSlipstream, parseQuery, Outcome.accepted_result, Outcome.accepted_result,
    Rule.run_result, Rule.run_result, Rule.query_forbidden_result hcursor]

/-- A query that was read where proofs are forbidden states none. -/
theorem statesProof_of_parseSlipstream {config : Config} {input : String} {q : Query}
    (h : (parseSlipstream config input).result = .ok q) :
    statesProof ((tokenize input).map (·.text)) = false := by
  rw [parseSlipstream, Outcome.accepted_result, Rule.query_run_eq_ok_iff] at h
  obtain ⟨written, hformed, hdemand, hwords, -⟩ := h
  rw [← hwords, hformed.statesProof_words, hdemand.forbidden rfl]
  rfl

/-- Forbidding proofs takes away the texts that state one, and no others. -/
theorem parseSlipstream_eq_ok_iff {config : Config} {input : String} {q : Query} :
    (parseSlipstream config input).result = .ok q ↔
      (parseQuery config input).result = .ok q ∧
        statesProof ((tokenize input).map (·.text)) = false := by
  constructor
  · intro h
    have hnone := statesProof_of_parseSlipstream h
    exact ⟨parseSlipstream_eq_parseQuery hnone ▸ h, hnone⟩
  · rintro ⟨h, hnone⟩
    rw [parseSlipstream_eq_parseQuery hnone]
    exact h

/-- **A proof obligation is never silently discarded.**  If a PROOF stands behind the source and
outside an ORDER BY, every query that is returned carries an obligation, and the reading that
forbids them returns nothing.  Without one the query carries none, and forbidding changes
nothing: the result is that of the free reading, the error it fails with included. -/
theorem proof_obligation_kept (config : Config) (input : String) :
    (∀ q, (parseQuery config input).result = .ok q →
      (q.proof ≠ [] ↔ statesProof ((tokenize input).map (·.text)) = true)) ∧
    (∀ q, (parseStatement config input).result = .ok (.query q) →
      (q.proof ≠ [] ↔ statesProof ((tokenize input).map (·.text)) = true)) ∧
    (∀ q, (parseSlipstream config input).result = .ok q ↔
      (parseQuery config input).result = .ok q ∧
        statesProof ((tokenize input).map (·.text)) = false) ∧
    (statesProof ((tokenize input).map (·.text)) = false →
      (parseSlipstream config input).result = (parseQuery config input).result) := by
  refine ⟨?_, ?_, ?_, parseSlipstream_eq_parseQuery⟩
  · intro q hq
    exact parseQuery_proof_ne_nil_iff hq
  · intro q hq
    exact parseQuery_proof_ne_nil_iff (parseStatement_query_iff.mp hq)
  · intro q
    exact parseSlipstream_eq_ok_iff

/-- A PROOF behind a WHERE is refused where proofs are forbidden.  A text without one is refused
there as it is elsewhere, here for the number of its LIMIT. -/
theorem parseSlipstream_where_proof :
    (¬ ∃ q, (parseSlipstream {} "SELECT * FROM HEXAD h1 WHERE x PROOF t (c)").result = .ok q) ∧
    (parseSlipstream {} "SELECT * FROM HEXAD h1 WHERE x LIMIT y").result =
      .error (.malformedNumber "y" 8) := by
  constructor
  · rintro ⟨q, h⟩
    have hnone := (((proof_obligation_kept {} _).2.2.1 q).mp h).2
    exact absurd hnone (by decide)
  · rw [(proof_obligation_kept {} _).2.2.2 (by decide)]
    decide

/-- An ORDER BY captures the PROOF behind it: the text is read as a query without obligations, also
where proofs are forbidden. -/
theorem parseSlipstream_order_proof :
    ((afterSource ((tokenize "SELECT * FROM HEXAD h1 ORDER BY GRAPH.x PROOF t (c)").map
      (·.text))).any fun word => Text.sameLetters word "PROOF") = true ∧
    ∃ q, q.proof = [] ∧
      (parseQuery {} "SELECT * FROM HEXAD h1 ORDER BY GRAPH.x PROOF t (c)").result = .ok q ∧
      (parseStatement {} "SELECT * FROM HEXAD h1 ORDER BY GRAPH.x PROOF t (c)").result =
        .ok (.query q) ∧
      (parseSlipstream {} "SELECT * FROM HEXAD h1 ORDER BY GRAPH.x PROOF t (c)").result =
        .ok q := by
  refine ⟨by decide, ⟨{ modalities := [.all] }, .hexad "h1", none, [], none, [],
    [⟨⟨Modality.graph, "x"⟩, .asc⟩], none, none⟩, rfl, ?_, ?_, ?_⟩ <;> decide

end HexadQuery
