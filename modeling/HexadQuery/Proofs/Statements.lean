/-
# Statements of either family

The entry grammar for statements looks at the first word and goes on with one of the other two.
Nothing is lost by that: the texts it reads as queries are those the query grammar reads, and the
texts it reads as mutations are those the mutation grammar reads, because no word opens both.

In the source this is `parse_statement`, which peeks at the first token and hands the stream on
unchanged.  The one difference to the mutation grammar is in failures: a text that opens with none
of the three keywords of a mutation is read as a query here and refused as one.
-/
import HexadQuery.Proofs.QueryGrammar

namespace HexadQuery

namespace Rule

/-- What the statement grammar reads, by the first word. -/
theorem statement_eq_ok {config : Config} {cursor rest : Cursor} {s : Statement} :
    (statement config cursor).result = .ok (s, rest) ↔
      ∃ first, cursor.tokens.head? = some first ∧
        ((first.isAnyKeyword mutationKeywords = true ∧
            ∃ m, (mutation cursor).result = .ok (m, rest) ∧ s = .mutation m) ∨
          first.isAnyKeyword mutationKeywords = false ∧
            ∃ q, (query config .optional cursor).result = .ok (q, rest) ∧ s = .query q) := by
  unfold statement
  rw [bind_eq_ok]
  simp only [peek_result, Except.ok.injEq, Prod.mk.injEq]
  constructor
  · rintro ⟨next, mid, ⟨rfl, rfl⟩, h⟩
    cases hnext : cursor.tokens.head? with
    | none =>
      rw [hnext] at h
      simp [bind_eq_ok] at h
    | some first =>
      rw [hnext] at h
      refine ⟨first, rfl, ?_⟩
      cases hfirst : first.isAnyKeyword mutationKeywords with
      | true =>
        simp only [hfirst, if_true, bind_eq_ok, pure_result, Except.ok.injEq, Prod.mk.injEq] at h
        obtain ⟨m, mid, hm, rfl, rfl⟩ := h
        exact Or.inl ⟨rfl, m, hm, rfl⟩
      | false =>
        simp only [hfirst, Bool.false_eq_true, if_false, bind_eq_ok, pure_result, Except.ok.injEq,
          Prod.mk.injEq] at h
        obtain ⟨q, mid, hq, rfl, rfl⟩ := h
        exact Or.inr ⟨rfl, q, hq, rfl⟩
  · rintro ⟨first, hnext, h⟩
    refine ⟨_, _, ⟨rfl, rfl⟩, ?_⟩
    rw [hnext]
    rcases h with ⟨hfirst, m, hm, rfl⟩ | ⟨hfirst, q, hq, rfl⟩
    · simp only [hfirst, if_true]
      exact bind_eq_ok.mpr ⟨m, rest, hm, rfl⟩
    · simp only [hfirst, Bool.false_eq_true, if_false]
      exact bind_eq_ok.mpr ⟨q, rest, hq, rfl⟩

/-- A query opens with SELECT. -/
theorem first_of_query {config : Config} {demand : ProofDemand} {cursor rest : Cursor} {q : Query}
    (h : (query config demand cursor).result = .ok (q, rest)) :
    ∃ first, cursor.tokens.head? = some first ∧ Text.sameLetters first.text "SELECT" = true := by
  obtain ⟨list, c₁, hselect, -⟩ := bind_eq_ok.mp h
  obtain ⟨first, c₂, hkeyword, -⟩ := bind_eq_ok.mp hselect
  obtain ⟨htokens, -, htest⟩ := takeIf_eq_ok.mp hkeyword
  exact ⟨first, by rw [htokens]; rfl, htest⟩

/-- A mutation opens with one of its three keywords. -/
theorem first_of_mutation {cursor rest : Cursor} {m : Mutation}
    (h : (mutation cursor).result = .ok (m, rest)) :
    ∃ first, cursor.tokens.head? = some first ∧ first.isAnyKeyword mutationKeywords = true := by
  obtain ⟨first, c₁, hfirst, h⟩ := bind_eq_ok.mp h
  obtain ⟨m', c₂, hbody, -⟩ := bind_eq_ok.mp h
  obtain ⟨htokens, -, -⟩ := takeIf_eq_ok.mp hfirst
  refine ⟨first, by rw [htokens]; rfl, ?_⟩
  by_contra hnone
  have hnot : ∀ keyword ∈ mutationKeywords, ¬ first.isKeyword keyword = true := by
    intro keyword hmem htrue
    exact hnone (List.any_eq_true.mpr ⟨keyword, hmem, htrue⟩)
  rw [mutationBody, if_neg (hnot "INSERT" (by decide)), if_neg (hnot "UPDATE" (by decide)),
    if_neg (hnot "DELETE" (by decide))] at hbody
  exact absurd hbody (by simp)

end Rule

/-- **The statements that are queries** are the queries.  The statement grammar looks at the
first word and goes on with the query grammar from there; a query begins with SELECT, so nothing
is lost. -/
theorem parseStatement_query_iff {config : Config} {input : String} {q : Query} :
    (parseStatement config input).result = .ok (.query q) ↔
      (parseQuery config input).result = .ok q := by
  rw [parseStatement, parseQuery, Outcome.accepted_result, Outcome.accepted_result,
    Rule.run_eq_ok, Rule.run_eq_ok]
  refine exists_congr fun rest => ?_
  rw [Rule.statement_eq_ok]
  constructor
  · rintro ⟨first, -, ⟨-, m, -, hm⟩ | ⟨-, q', hq, heq⟩⟩
    · cases hm
    · cases heq
      exact hq
  · intro h
    obtain ⟨first, hfirst, hselect⟩ := Rule.first_of_query h
    refine ⟨first, hfirst, Or.inr ⟨?_, q, h, rfl⟩⟩
    rw [Token.isAnyKeyword_eq]
    exact Text.isAnyOf_of hselect (by decide)

/-- **The statements that are mutations** are the mutations.  The first word of a mutation is one
of three, by which the statement grammar goes on with it. -/
theorem parseStatement_mutation_iff {config : Config} {input : String} {m : Mutation} :
    (parseStatement config input).result = .ok (.mutation m) ↔
      (parseMutation input).result = .ok m := by
  rw [parseStatement, parseMutation, Outcome.accepted_result, Outcome.accepted_result,
    Rule.run_eq_ok, Rule.run_eq_ok]
  refine exists_congr fun rest => ?_
  rw [Rule.statement_eq_ok]
  constructor
  · rintro ⟨first, -, ⟨-, m', hm, heq⟩ | ⟨-, q, -, hq⟩⟩
    · cases heq
      exact hm
    · cases hq
  · intro h
    obtain ⟨first, hfirst, hkeyword⟩ := Rule.first_of_mutation h
    exact ⟨first, hfirst, Or.inl ⟨hkeyword, m, h, rfl⟩⟩

/-- **A text that opens like a mutation is refused as one.** -/
theorem parseStatement_error_of_mutation {config : Config} {input word : String}
    {error : ParseError} (hfirst : (Text.words input).head? = some word)
    (hword : Text.isAnyOf word mutationKeywords = true)
    (h : (parseMutation input).result = .error error) :
    (parseStatement config input).result = .error error := by
  rw [parseMutation, Outcome.accepted_result, Rule.run_result] at h
  rw [parseStatement, Outcome.accepted_result, Rule.run_result]
  rw [← Cursor.words_ofText, Cursor.words, List.head?_map] at hfirst
  obtain ⟨first, hhead, rfl⟩ := Option.map_eq_some_iff.mp hfirst
  cases hmutation : (Rule.mutation (Cursor.ofText input)).result with
  | ok p => simp [hmutation, Except.map] at h
  | error e =>
    obtain rfl : e = error := by simpa [hmutation, Except.map] using h
    have hkeyword : first.isAnyKeyword mutationKeywords = true := hword
    unfold Rule.statement
    rw [Rule.bind_result, Rule.peek_result, hhead]
    simp only [Except.bind, hkeyword, if_true]
    rw [Rule.bind_result, hmutation]
    rfl

end HexadQuery
