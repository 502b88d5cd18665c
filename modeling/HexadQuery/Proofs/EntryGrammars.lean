/-
# The entry grammars agree

One clause grammar has five entrances: `parse_query`, `parse_slipstream`, `parse_dependent_type`,
`parse_mutation` and `parse_statement`.  Three of them read queries and differ in what they demand
of the PROOF clause; the demand is looked at in the middle of the reading, after some errors and
ahead of others, so it has to be shown that it changes nothing but the one refusal that is its own.

`Rule.Restricts own rule other` says that of two rules: `rule` does what `other` does, unless it
fails with an error of the class `own`.  The relation passes through `bind`, so that it climbs from
the PROOF clause to the whole query (`Rule.query_restricts`).

Which queries a demand lets through is read off their obligations (`Rule.query_run_demand`).  Here
the relation is too weak: it leaves open where the refusal comes, and a query could be lost to it
that has no PROOF.  So this part goes through the written form of a query, which is the same under
every demand but for the one condition that the demand puts on the clause.

The two remaining entrances are settled where statements are: the first word of a text decides
between a query and a mutation, and no word opens both.

What is compared are results.  The events of a reading, dropped items among them, are the same as
long as the rules are, but nothing is said of them here.
-/
import HexadQuery.Proofs.ProofObligations

namespace HexadQuery

/-! ## 1. Rules that add a refusal

The relation and its way through the grammar.  Only `proofClause` looks at the demand, so it is the
only rule with an argument of its own; the clauses around it restrict themselves. -/

/-- The refusals a demand adds to a reading. -/
def ProofDemand.Refusal : ProofDemand → ParseError → Prop
  | .optional, _ => False
  | .required, error => ∃ p, error = .missingProofClause p
  | .forbidden, error => ∃ p, error = .unexpectedProofClause p

namespace Rule

variable {α β : Type} {own : ParseError → Prop}

/-- `rule` does what `other` does, unless it fails with an error of its own. -/
def Restricts (own : ParseError → Prop) (rule other : Rule α) : Prop :=
  ∀ cursor, (∃ error, own error ∧ (rule cursor).result = .error error) ∨
    (rule cursor).result = (other cursor).result

/-- Every rule restricts itself, with no refusal of its own. -/
theorem Restricts.refl (own : ParseError → Prop) (rule : Rule α) : Restricts own rule rule :=
  fun _ => Or.inr rfl

/-- **The relation passes through `bind`.**  A refusal of the first rule is one of the whole; if
there is none, both go on from the same value and cursor. -/
theorem Restricts.bind {rule other : Rule α} {next next' : α → Rule β}
    (h : Restricts own rule other) (hnext : ∀ a, Restricts own (next a) (next' a)) :
    Restricts own (rule >>= next) (other >>= next') := by
  intro cursor
  rw [bind_result, bind_result]
  rcases h cursor with ⟨error, hown, herror⟩ | heq
  · exact Or.inl ⟨error, hown, by rw [herror]; rfl⟩
  rw [heq]
  cases (other cursor).result with
  | error error => exact Or.inr rfl
  | ok p => exact hnext p.1 p.2

/-- The demand is looked at once, ahead of the chain. -/
theorem proofClause_restricts (demand : ProofDemand) :
    Restricts demand.Refusal (proofClause demand) (proofClause .optional) := by
  refine Restricts.bind (Restricts.refl _ _) fun cursor => ?_
  refine Restricts.bind (Restricts.refl _ _) fun found => ?_
  cases demand with
  | optional => exact Restricts.refl _ _
  | required =>
    cases found with
    | true => exact Restricts.refl _ _
    | false => exact fun _ => Or.inl ⟨_, ⟨_, rfl⟩, rfl⟩
  | forbidden =>
    cases found with
    | true => exact fun _ => Or.inl ⟨_, ⟨_, rfl⟩, rfl⟩
    | false => exact Restricts.refl _ _

/-- **A demand on the PROOF clause adds its own refusal and changes nothing else.**
`proof_clause` is the only rule of a query that is given the demand; the other clauses are the
same rules on both sides, and `bind` carries the relation through them. -/
theorem query_restricts (config : Config) (demand : ProofDemand) :
    Restricts demand.Refusal (query config demand) (query config .optional) := by
  iterate 5 refine Restricts.bind (Restricts.refl _ _) fun _ => ?_
  refine Restricts.bind (proofClause_restricts demand) fun _ => ?_
  exact Restricts.refl _ _

/-- The same for a whole text. -/
theorem Restricts.run {rule other : Rule α} (h : Restricts own rule other) (input : String) :
    (∃ error, own error ∧ (rule.run input).result = .error error) ∨
      (rule.run input).result = (other.run input).result := by
  rw [run_result, run_result]
  rcases h (Cursor.ofText input) with ⟨error, hown, herror⟩ | heq
  · exact Or.inl ⟨error, hown, by rw [herror]; rfl⟩
  · exact Or.inr (by rw [heq])

/-- An error that is not its own is one of the rule it restricts. -/
theorem Restricts.run_error {rule other : Rule α} (h : Restricts own rule other) {input : String}
    {error : ParseError} (herror : (rule.run input).result = .error error) (hown : ¬ own error) :
    (other.run input).result = .error error := by
  rcases h.run input with ⟨e, he, heq⟩ | heq
  · obtain rfl : e = error := Except.error.inj (heq.symm.trans herror)
    exact absurd he hown
  · exact heq.symm.trans herror

/-! ## 2. The queries a demand lets through -/

/-- The queries under a demand are those of the free grammar whose obligations meet it.  A
written query has obligations exactly if it has the clause. -/
theorem query_run_demand {config : Config} {demand : ProofDemand} {input : String} {q : Query} :
    ((query config demand).run input).result = .ok q ↔
      ((query config .optional).run input).result = .ok q ∧
        (demand = .required → q.proof ≠ []) ∧ (demand = .forbidden → q.proof = []) := by
  have hclause : ∀ {written : WrittenQuery}, written.WellFormed config →
      ((written.query config.registry).proof ≠ [] ↔ written.proof ≠ none) := by
    intro written h
    rw [h.proof_ne_nil_iff, h.statesProof_words, Option.isSome_iff_ne_none]
  rw [query_run_eq_ok_iff, query_run_eq_ok_iff]
  constructor
  · rintro ⟨written, h, hdemand, hwords, rfl⟩
    refine ⟨⟨written, h, ⟨by simp, by simp⟩, hwords, rfl⟩, ?_, ?_⟩
    · intro hrequired
      exact (hclause h).mpr (hdemand.required hrequired)
    · intro hforbidden
      exact not_not.mp (mt (hclause h).mp (not_not.mpr (hdemand.forbidden hforbidden)))
  · rintro ⟨⟨written, h, -, hwords, rfl⟩, hrequired, hforbidden⟩
    refine ⟨written, h, ⟨?_, ?_⟩, hwords, rfl⟩
    · intro hdemand
      exact (hclause h).mp (hrequired hdemand)
    · intro hdemand
      exact not_not.mp (mt (hclause h).mpr (not_not.mpr (hforbidden hdemand)))

end Rule

/-! ## 3. The five entrances

The laws in one statement: three about queries, two about statements, and two about errors. -/

/-- No text is both a query and a mutation: its first word opens one of the two. -/
theorem not_query_and_mutation {config : Config} {input : String} {q : Query} {m : Mutation}
    (hq : (parseQuery config input).result = .ok q)
    (hm : (parseMutation input).result = .ok m) : False := by
  have hquery : (parseStatement config input).result = .ok (.query q) :=
    parseStatement_query_iff.mpr hq
  have hmutation : (parseStatement config input).result = .ok (.mutation m) :=
    parseStatement_mutation_iff.mpr hm
  rw [hquery] at hmutation
  cases hmutation

/-- **The five entrances agree.**  Forbidding proofs keeps the queries without obligations,
demanding them keeps those with some, and the statement grammar reads the queries and the
mutations, which no text is both of.  A reading with a demand that fails with anything but the
refusal of that demand fails as the free reading does. -/
theorem entry_grammars_agree (config : Config) (input : String) :
    (∀ q, (parseSlipstream config input).result = .ok q ↔
      (parseQuery config input).result = .ok q ∧ q.proof = []) ∧
    (∀ q, (parseDependentType config input).result = .ok q ↔
      (parseQuery config input).result = .ok q ∧ q.proof ≠ []) ∧
    (∀ q, (parseStatement config input).result = .ok (.query q) ↔
      (parseQuery config input).result = .ok q) ∧
    (∀ m, (parseStatement config input).result = .ok (.mutation m) ↔
      (parseMutation input).result = .ok m) ∧
    (∀ q m, ¬ ((parseQuery config input).result = .ok q ∧
      (parseMutation input).result = .ok m)) ∧
    (∀ error, (parseSlipstream config input).result = .error error →
      (∀ p, error ≠ .unexpectedProofClause p) → (parseQuery config input).result = .error error) ∧
    ∀ error, (parseDependentType config input).result = .error error →
      (∀ p, error ≠ .missingProofClause p) → (parseQuery config input).result = .error error := by
  refine ⟨?_, ?_, fun q => parseStatement_query_iff, fun m => parseStatement_mutation_iff, ?_, ?_,
    ?_⟩
  · intro q
    rw [parseSlipstream, parseQuery, Outcome.accepted_result, Outcome.accepted_result,
      Rule.query_run_demand]
    simp
  · intro q
    rw [parseDependentType, parseQuery, Outcome.accepted_result, Outcome.accepted_result,
      Rule.query_run_demand]
    simp
  · rintro q m ⟨hq, hm⟩
    exact not_query_and_mutation hq hm
  · intro error herror hother
    rw [parseSlipstream, Outcome.accepted_result] at herror
    rw [parseQuery, Outcome.accepted_result]
    refine (Rule.query_restricts config .forbidden).run_error herror ?_
    rintro ⟨p, hp⟩
    exact hother p hp
  · intro error herror hother
    rw [parseDependentType, Outcome.accepted_result] at herror
    rw [parseQuery, Outcome.accepted_result]
    refine (Rule.query_restricts config .required).run_error herror ?_
    rintro ⟨p, hp⟩
    exact hother p hp

/-- A GROUP without BY ahead of a PROOF is what both readings fail on, although one of them would
have refused the PROOF. -/
theorem parseQuery_group_ahead_of_proof :
    (parseQuery {} "SELECT * FROM HEXAD h1 GROUP x PROOF t (c)").result =
      .error (.unexpectedToken "BY" "x" 6) := by
  refine (entry_grammars_agree {} _).2.2.2.2.2.1 _ (by decide) ?_
  simp

end HexadQuery
