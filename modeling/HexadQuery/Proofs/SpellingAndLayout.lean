/-
# Layout and the case of letters do not matter

Two texts whose tokens agree, in number and up to the case of letters, are read alike: both give a
tree or both fail in the same way, and what they give is equal once the free texts in it are
written small (`parse_spelling`).  What is not free text, the modalities, functions, directions,
drift policies, numbers, lengths and positions, is equal as it stands, because `respell` leaves it
alone.  Where the tokens agree as they are, so do the results.

The two runs are followed side by side.  `Rule.Alike φ see rule other` says that on cursors with
equal respellings the two rules end alike, and that what is `see`n of their values is equal.  It
passes through `bind`, so the work is one lemma for each rule; at the end of it stands the rule of
the whole grammar.  Byte offsets are forgotten by `Token.respell`, so that layout is part of what
is abstracted from.

Two rules are compared and not one with itself, because a rule may depend on a value that was read
before, and the two runs have read different spellings of it: the head of a group, the pieces of a
list, the name of a payload.  What `see` is depends on the rule.  It is a respelling where the
value is free text, and the identity where the value keeps one casing, so that the lemma of a rule
says at once which part of its value the spelling can change.

Errors are treated as values.  They have the text of a token in them, which is respelled, and a
position, which is not: the token has the same index in both texts.

That one statement serves for case and for layout is due to the respelling being a parameter.  With
`Respelling.small` it is the law for case; with `Respelling.same`, under which every value is its
own respelling (section 8), it is equality of results.
-/
import HexadQuery.Proofs.QueryGrammar
import HexadQuery.Proofs.Respelling

namespace HexadQuery

/-! ## 1. Trees and errors in a new spelling

`respell` for each node of the tree, in one line each where a node has only free texts and nodes in
it. -/

/-- A source in the new spelling; the drift policy is kept. -/
def Source.respell (φ : Respelling) : Source → Source
  | hexad id => .hexad (φ.text id)
  | store name => .store (φ.text name)
  | federation pattern drift => .federation (φ.text pattern) drift

/-- Both the type of a proof and its contract are free text. -/
def ProofSpec.respell (φ : Respelling) (spec : ProofSpec) : ProofSpec :=
  ⟨φ.text spec.proofType, φ.text spec.contract⟩

/-- A query in the new spelling; its numbers are kept. -/
def Query.respell (φ : Respelling) (query : Query) : Query where
  select := query.select.respell φ
  source := query.source.respell φ
  filter := query.filter.map φ.text
  groupBy := query.groupBy.map (·.respell φ)
  having := query.having.map φ.text
  proof := query.proof.map (·.respell φ)
  orderBy := query.orderBy.map (·.respell φ)
  limit := query.limit
  offset := query.offset

/-- A payload in the new spelling; its modality is kept. -/
def Payload.respell (φ : Respelling) (payload : Payload) : Payload :=
  ⟨payload.modality, φ.text payload.text⟩

/-- The id of a hexad is free text, and so are fields and values. -/
def Mutation.respell (φ : Respelling) : Mutation → Mutation
  | insert payloads proof => .insert (payloads.map (·.respell φ)) (proof.map (·.respell φ))
  | update id assignments proof =>
    .update (φ.text id) (assignments.map (·.respell φ)) (proof.map (·.respell φ))
  | delete id proof => .delete (φ.text id) (proof.map (·.respell φ))

def Statement.respell (φ : Respelling) : Statement → Statement
  | query q => .query (q.respell φ)
  | mutation m => .mutation (m.respell φ)

def Parsed.respell (φ : Respelling) : Parsed → Parsed
  | query q => .query (q.respell φ)
  | mutation m => .mutation (m.respell φ)
  | statement s => .statement (s.respell φ)

/-- An error with the words of the text in the new spelling; what was expected, and where, is
kept. -/
def ParseError.respell (φ : Respelling) : ParseError → ParseError
  | unexpectedToken expected found p => .unexpectedToken expected (φ.text found) p
  | unexpectedEnd expected p => .unexpectedEnd expected p
  | unknownSourceKind token p => .unknownSourceKind (φ.text token) p
  | unknownStatementKind token p => .unknownStatementKind (φ.text token) p
  | malformedNumber token p => .malformedNumber (φ.text token) p
  | danglingProofChain p => .danglingProofChain p
  | missingProofClause p => .missingProofClause p
  | unexpectedProofClause p => .unexpectedProofClause p

/-- A result with its error in the new spelling, and of its value what is seen. -/
def Respelling.result {α β : Type} (φ : Respelling) (see : α → β) :
    Except ParseError α → Except ParseError β
  | .error error => .error (error.respell φ)
  | .ok a => .ok (see a)

/-- Results that look the same: both are errors with one respelling, or of both values the same is
seen. -/
theorem Respelling.result_eq_cases {α β : Type} {φ : Respelling} {see : α → β}
    {r r' : Except ParseError α} (h : φ.result see r = φ.result see r') :
    (∃ error error', r = .error error ∧ r' = .error error' ∧
      error.respell φ = error'.respell φ) ∨
    ∃ a a', r = .ok a ∧ r' = .ok a' ∧ see a = see a' := by
  cases r with
  | error error =>
    cases r' with
    | error error' => exact Or.inl ⟨error, error', rfl, rfl, Except.error.inj h⟩
    | ok a' => cases h
  | ok a =>
    cases r' with
    | error error' => cases h
    | ok a' => exact Or.inr ⟨a, a', rfl, rfl, Except.ok.inj h⟩

/-! ## 2. Tokens and cursors with one respelling

What two tokens or cursors with one respelling have in common: everything that a rule can ask of
them. -/

/-- A cursor in the new spelling; the number of tokens of the input is kept. -/
def Cursor.respell (φ : Respelling) (cursor : Cursor) : Cursor :=
  ⟨cursor.tokens.map (·.respell φ), cursor.count⟩

section

variable {φ : Respelling}

/-- Tokens agree in their texts, up to spelling, and in their index. -/
theorem Token.respell_eq_iff {t t' : Token} :
    t.respell φ = t'.respell φ ↔ φ.text t.text = φ.text t'.text ∧ t.position = t'.position := by
  simp [Token.respell]

/-- Cursors agree token by token. -/
theorem Cursor.respell_eq_iff {c c' : Cursor} :
    c.respell φ = c'.respell φ ↔
      c.tokens.map (·.respell φ) = c'.tokens.map (·.respell φ) ∧ c.count = c'.count := by
  simp [Cursor.respell]

/-- A test that respelling does not change has one answer for both. -/
theorem isKeyword_of_respell {t t' : Token} (h : t.respell φ = t'.respell φ) (keyword : String) :
    t.isKeyword keyword = t'.isKeyword keyword := by
  rw [← φ.isKeyword_respell, h, φ.isKeyword_respell]

theorem isAnyKeyword_of_respell {t t' : Token} (h : t.respell φ = t'.respell φ)
    (keywords : List String) : t.isAnyKeyword keywords = t'.isAnyKeyword keywords := by
  rw [← φ.isAnyKeyword_respell, h, φ.isAnyKeyword_respell]

theorem opensGroup_of_respell {t t' : Token} (h : t.respell φ = t'.respell φ) :
    Rule.opensGroup t = Rule.opensGroup t' := by
  rw [← φ.opensGroup_respell, h, φ.opensGroup_respell]

/-- Errors about tokens with one respelling. -/
theorem ofToken_of_respell {t t' : Token} (h : t.respell φ = t'.respell φ) (expected : String) :
    (ParseError.ofToken expected t).respell φ = (ParseError.ofToken expected t').respell φ := by
  obtain ⟨htext, hposition⟩ := Token.respell_eq_iff.mp h
  simp only [ParseError.ofToken, ParseError.respell, htext, hposition]

/-- Cursors with one respelling are both at the end, or both at tokens with one respelling. -/
theorem Cursor.respell_eq_cases {c c' : Cursor} (h : c.respell φ = c'.respell φ) :
    (∃ count, c = ⟨[], count⟩ ∧ c' = ⟨[], count⟩) ∨
      ∃ t t' ts ts' count, c = ⟨t :: ts, count⟩ ∧ c' = ⟨t' :: ts', count⟩ ∧
        t.respell φ = t'.respell φ ∧ ts.map (·.respell φ) = ts'.map (·.respell φ) := by
  obtain ⟨tokens, count⟩ := c
  obtain ⟨tokens', count'⟩ := c'
  obtain ⟨htokens, rfl⟩ : tokens.map (·.respell φ) = tokens'.map (·.respell φ) ∧ count = count' :=
    Cursor.respell_eq_iff.mp h
  cases tokens with
  | nil =>
    obtain rfl : tokens' = [] := by simpa using htokens.symm
    exact Or.inl ⟨count, rfl, rfl⟩
  | cons t ts =>
    cases tokens' with
    | nil => simp at htokens
    | cons t' ts' =>
      rw [List.map_cons, List.map_cons, List.cons.injEq] at htokens
      exact Or.inr ⟨t, t', ts, ts', count, rfl, rfl, htokens.1, htokens.2⟩

/-- As many tokens are left. -/
theorem length_of_respell {c c' : Cursor} (h : c.respell φ = c'.respell φ) :
    c.tokens.length = c'.tokens.length := by
  simpa using congrArg List.length (Cursor.respell_eq_iff.mp h).1

/-- The cursors stand at one index. -/
theorem position_of_respell {c c' : Cursor} (h : c.respell φ = c'.respell φ) :
    c.position = c'.position := by
  rcases Cursor.respell_eq_cases h with ⟨count, rfl, rfl⟩ | ⟨t, t', ts, ts', count, rfl, rfl, ht, -⟩
  · rfl
  · exact (Token.respell_eq_iff.mp ht).2

/-- An error about the end holds no text of the input. -/
theorem missing_of_respell {c c' : Cursor} (h : c.respell φ = c'.respell φ) (expected : String) :
    c.missing expected = c'.missing expected := by
  rw [Cursor.missing, Cursor.missing, (Cursor.respell_eq_iff.mp h).2]

/-- An error about the next token holds its text, in the one spelling and the other. -/
theorem refusal_of_respell {c c' : Cursor} (h : c.respell φ = c'.respell φ) (expected : String) :
    (c.refusal expected).respell φ = (c'.refusal expected).respell φ := by
  rcases Cursor.respell_eq_cases h with ⟨count, rfl, rfl⟩ | ⟨t, t', ts, ts', count, rfl, rfl, ht, -⟩
  · rfl
  · exact ofToken_of_respell ht expected

end

/-! ## 3. Rules that read alike

The relation and the ways to put rules together.  Every `if` in a rule has to have one answer in
both runs, so those that put rules together ask for an equivalence of the tests. -/

namespace Rule

variable {α β γ δ : Type} {φ : Respelling}

/-- On cursors with one respelling the rules fail alike or yield values of which the same is
seen. -/
def Alike (φ : Respelling) (see : α → β) (rule other : Rule α) : Prop :=
  ∀ c c' : Cursor, c.respell φ = c'.respell φ →
    φ.result (Prod.map see (Cursor.respell φ)) (rule c).result =
      φ.result (Prod.map see (Cursor.respell φ)) (other c').result

/-- **Going on is alike if both steps are.**  The second step is compared for all values of which
the first lets the same be seen. -/
theorem Alike.bind {see : α → β} {see' : γ → δ} {rule other : Rule α} {next next' : α → Rule γ}
    (h : Alike φ see rule other)
    (hnext : ∀ a a', see a = see a' → Alike φ see' (next a) (next' a')) :
    Alike φ see' (rule >>= next) (other >>= next') := by
  intro c c' hc
  rw [bind_result, bind_result]
  rcases Respelling.result_eq_cases (h c c' hc) with
    ⟨error, error', hr, hr', herror⟩ | ⟨⟨a, rest⟩, ⟨a', rest'⟩, hr, hr', hsee⟩
  · rw [hr, hr']
    exact congrArg Except.error herror
  · obtain ⟨ha, hrest⟩ := Prod.mk.inj hsee
    rw [hr, hr']
    exact hnext a a' ha rest rest' hrest

/-- Values of which the same is seen. -/
theorem Alike.pure {see : α → β} {a a' : α} (h : see a = see a') :
    Alike φ see (Pure.pure a) (Pure.pure a') :=
  fun _ _ hc => congrArg Except.ok (Prod.ext h hc)

/-- Errors with one respelling. -/
theorem Alike.fail {see : α → β} {error error' : ParseError}
    (h : error.respell φ = error'.respell φ) :
    Alike φ see (Rule.fail error) (Rule.fail error') :=
  fun _ _ _ => congrArg Except.error h

/-- Events are not part of a result. -/
theorem alike_note (events events' : List Event) :
    Alike φ (id : Unit → Unit) (note events) (note events') :=
  fun _ _ hc => congrArg Except.ok (Prod.ext rfl hc)

theorem alike_get : Alike φ (Cursor.respell φ) get get :=
  fun _ _ hc => congrArg Except.ok (Prod.ext hc hc)

/-- A choice that both runs make in the same way. -/
theorem Alike.ite {see : α → β} {p p' : Prop} [Decidable p] [Decidable p']
    {rule rule' other other' : Rule α} (hp : p ↔ p') (h : p → Alike φ see rule rule')
    (h' : ¬ p → Alike φ see other other') :
    Alike φ see (if p then rule else other) (if p' then rule' else other') := by
  by_cases hp' : p
  · rw [if_pos hp', if_pos (hp.mp hp')]
    exact h hp'
  · rw [if_neg hp', if_neg (mt hp.mpr hp')]
    exact h' hp'

/-- Nothing comes after a failure. -/
theorem Alike.fail_bind {see : γ → δ} {error error' : ParseError} {next next' : α → Rule γ}
    (h : error.respell φ = error'.respell φ) :
    Alike φ see (Rule.fail error >>= next) (Rule.fail error' >>= next') :=
  fun _ _ _ => congrArg Except.error h

/-- A check that may fail the rule. -/
theorem Alike.guard {see : α → β} {p p' : Prop} [Decidable p] [Decidable p']
    {error error' : ParseError} {next next' : Unit → Rule α} (hp : p ↔ p')
    (herror : error.respell φ = error'.respell φ)
    (h : ¬ p → Alike φ see (next ()) (next' ())) :
    Alike φ see (if p then Rule.fail error >>= next else next ())
      (if p' then Rule.fail error' >>= next' else next' ()) :=
  Alike.ite hp (fun _ => Alike.fail_bind herror) h

/-- Going on by the next token. -/
theorem Alike.lookahead {see : α → β} {next next' : Option Token → Rule α}
    (hnone : Alike φ see (next none) (next' none))
    (hsome : ∀ t t', t.respell φ = t'.respell φ → Alike φ see (next (some t)) (next' (some t'))) :
    Alike φ see (peek >>= next) (peek >>= next') := by
  intro c c' hc
  rw [bind_result, bind_result]
  rcases Cursor.respell_eq_cases hc with
    ⟨count, rfl, rfl⟩ | ⟨t, t', ts, ts', count, rfl, rfl, ht, -⟩
  · exact hnone _ _ hc
  · exact hsome t t' ht _ _ hc

/-- One rule for each of a list of values. -/
theorem Alike.mapM (see : α → β) {see' : γ → δ} {rule : α → Rule γ}
    (h : ∀ a a', see a = see a' → Alike φ see' (rule a) (rule a')) :
    ∀ {as as' : List α}, as.map see = as'.map see →
      Alike φ (List.map see') (as.mapM rule) (as'.mapM rule)
  | [], [], _ => Alike.pure rfl
  | [], _ :: _, hsee => by simp at hsee
  | _ :: _, [], hsee => by simp at hsee
  | a :: as, a' :: as', hsee => by
    rw [List.map_cons, List.map_cons, List.cons.injEq] at hsee
    rw [List.mapM_cons, List.mapM_cons]
    refine Alike.bind (h a a' hsee.1) fun b b' hb => ?_
    refine Alike.bind (Alike.mapM see h hsee.2) fun bs bs' hbs => Alike.pure ?_
    rw [List.map_cons, List.map_cons, hb, hbs]

/-- A chain of rounds that read alike, by the number of tokens left.  Both go on or both stop,
since they leave equally many tokens. -/
theorem Alike.chain {see : α → β} {step step' : Rule (α × Bool)}
    (h : Alike φ (Prod.map see (id : Bool → Bool)) step step') :
    Alike φ (List.map see) (chain step) (chain step') := by
  intro c c' hc
  induction hn : c.tokens.length using Nat.strong_induction_on generalizing c c' with
  | _ n ih =>
    rw [Rule.chain, Rule.chain]
    rcases Respelling.result_eq_cases (h c c' hc) with
      ⟨error, error', hr, hr', herror⟩ | ⟨⟨⟨a, more⟩, rest⟩, ⟨⟨a', more'⟩, rest'⟩, hr, hr', hsee⟩
    · simp only [hr, hr']
      exact congrArg Except.error herror
    obtain ⟨hvalue, hrest⟩ := Prod.mk.inj hsee
    obtain ⟨ha, hmore⟩ := Prod.mk.inj hvalue
    obtain rfl : more = more' := hmore
    simp only [hr, hr', ← length_of_respell hc, ← length_of_respell hrest]
    split
    · next hgo =>
      have htail := ih _ (hn ▸ hgo.2) rest rest' hrest rfl
      rcases Respelling.result_eq_cases htail with
        ⟨error, error', ht, ht', herror⟩ | ⟨⟨as, last⟩, ⟨as', last'⟩, ht, ht', hlist⟩
      · rw [ht, ht']
        exact congrArg Except.error herror
      · obtain ⟨has, hlast⟩ := Prod.mk.inj hlist
        rw [ht, ht']
        exact congrArg Except.ok (Prod.ext (congrArg₂ List.cons ha has) hlast)
    · exact congrArg Except.ok (Prod.ext (congrArg (fun b => [b]) ha) hrest)

/-! ## 4. Primitive rules

The rules that look at tokens, by tests that are blind to case. -/

/-- Taking a token by a test that respelling does not change. -/
theorem alike_takeIf (test : Token → Bool) (htest : ∀ t, test (t.respell φ) = test t)
    (expected : String) :
    Alike φ (Token.respell φ) (takeIf test expected) (takeIf test expected) := by
  intro c c' hc
  have hrefusal := refusal_of_respell hc expected
  rcases Cursor.respell_eq_cases hc with
    ⟨count, rfl, rfl⟩ | ⟨t, t', ts, ts', count, rfl, rfl, ht, hts⟩
  · rfl
  · have heq : test t = test t' := by rw [← htest t, ht, htest]
    simp only [takeIf, heq]
    split
    · exact congrArg Except.ok (Prod.ext ht (Cursor.respell_eq_iff.mpr ⟨hts, rfl⟩))
    · exact congrArg Except.error hrefusal

theorem alike_token (expected : String) :
    Alike φ (Token.respell φ) (token expected) (token expected) :=
  alike_takeIf _ (fun _ => rfl) expected

theorem alike_keyword (word : String) :
    Alike φ (Token.respell φ) (keyword word) (keyword word) :=
  alike_takeIf (·.isKeyword word) (fun t => φ.isKeyword_respell t word) word

theorem alike_operand (expected : String) :
    Alike φ (Token.respell φ) (operand expected) (operand expected) :=
  alike_takeIf (!·.isAnyKeyword clauseKeywords)
    (fun t => congrArg not (φ.isAnyKeyword_respell t clauseKeywords)) expected

theorem alike_skipKeyword (word : String) :
    Alike φ (id : Bool → Bool) (skipKeyword word) (skipKeyword word) := by
  intro c c' hc
  rcases Cursor.respell_eq_cases hc with
    ⟨count, rfl, rfl⟩ | ⟨t, t', ts, ts', count, rfl, rfl, ht, hts⟩
  · rfl
  · simp only [skipKeyword, isKeyword_of_respell ht word]
    split
    · exact congrArg Except.ok (Prod.ext rfl (Cursor.respell_eq_iff.mpr ⟨hts, rfl⟩))
    · exact congrArg Except.ok (Prod.ext rfl hc)

theorem alike_takeUntil (stops : List String) :
    Alike φ (List.map (Token.respell φ)) (takeUntil stops) (takeUntil stops) := by
  have htest : (fun t : Token => !t.isAnyKeyword stops) ∘ Token.respell φ =
      fun t : Token => !t.isAnyKeyword stops := by
    funext t
    exact congrArg not (φ.isAnyKeyword_respell t stops)
  have hcut : ∀ tokens : List Token, (tokens.map (Token.respell φ)).span (!·.isAnyKeyword stops) =
      ((tokens.span (!·.isAnyKeyword stops)).1.map (Token.respell φ),
        (tokens.span (!·.isAnyKeyword stops)).2.map (Token.respell φ)) := by
    intro tokens
    simp only [List.span_eq_takeWhile_dropWhile, List.takeWhile_map, List.dropWhile_map, htest]
  intro c c' hc
  obtain ⟨htokens, hcount⟩ := Cursor.respell_eq_iff.mp hc
  have hspan := hcut c.tokens
  rw [htokens, hcut c'.tokens] at hspan
  obtain ⟨htaken, hrest⟩ := Prod.mk.inj hspan
  refine congrArg Except.ok (Prod.ext htaken.symm ?_)
  exact Cursor.respell_eq_iff.mpr ⟨hrest.symm, hcount⟩

theorem alike_finish (expected : String) :
    Alike φ (id : Unit → Unit) (finish expected) (finish expected) := by
  intro c c' hc
  rcases Cursor.respell_eq_cases hc with
    ⟨count, rfl, rfl⟩ | ⟨t, t', ts, ts', count, rfl, rfl, ht, -⟩
  · rfl
  · exact congrArg Except.error (ofToken_of_respell ht expected)

/-! ## 5. Groups and proofs

The opening text of a group was read before, so its rule is compared at two texts. -/

theorem alike_group {head head' : List Char} (h : head.map φ.char = head'.map φ.char) :
    Alike φ (Group.respell φ) (group head) (group head') := by
  intro c c' hc
  obtain ⟨htokens, hcount⟩ := Cursor.respell_eq_iff.mp hc
  have hdepth : nestAll 0 head = nestAll 0 head' := by
    rw [← φ.nestAll_map, h, φ.nestAll_map]
  have hgather := φ.gather_respell c.tokens (nestAll 0 head)
  rw [htokens, φ.gather_respell c'.tokens, hdepth] at hgather
  rw [group, group, hdepth]
  cases hg : gather (nestAll 0 head') c.tokens with
  | none =>
    have hg' : gather (nestAll 0 head') c'.tokens = none := by simpa [hg] using hgather
    rw [hg']
    exact congrArg Except.error (congrArg (ParseError.respell φ) (missing_of_respell hc _))
  | some cut =>
    cases hg' : gather (nestAll 0 head') c'.tokens with
    | none => simp [hg, hg'] at hgather
    | some cut' =>
      rw [hg, hg', Option.map_some, Option.map_some, Option.some.injEq, Prod.mk.injEq] at hgather
      refine congrArg Except.ok (Prod.ext ?_ (Cursor.respell_eq_iff.mpr ⟨hgather.2.symm, hcount⟩))
      change (Group.ofText (gatheredText head cut.1)).respell φ =
        (Group.ofText (gatheredText head' cut'.1)).respell φ
      rw [← φ.groupOfText_map, ← φ.groupOfText_map, ← φ.gatheredText_respell,
        ← φ.gatheredText_respell, h, hgather.1]

/-- The head of a call in the new spelling. -/
def CallHead.respell (φ : Respelling) (call : CallHead) : CallHead :=
  ⟨φ.text call.name, call.opening.map φ.char, call.position⟩

theorem CallHead.respell_eq_iff {call call' : CallHead} :
    call.respell φ = call'.respell φ ↔ φ.text call.name = φ.text call'.name ∧
      call.opening.map φ.char = call'.opening.map φ.char ∧ call.position = call'.position := by
  simp [CallHead.respell]

theorem alike_callHead {head head' : Token} (h : head.respell φ = head'.respell φ)
    (expected : String) :
    Alike φ (CallHead.respell φ) (callHead head expected) (callHead head' expected) := by
  obtain ⟨htext, hposition⟩ := Token.respell_eq_iff.mp h
  have hopening : Blind fun c => c != '(' := (blind_beq (by decide)).not
  have hspan := φ.span_map hopening head.text.toList
  rw [← φ.toList_text, htext, φ.toList_text, φ.span_map hopening] at hspan
  unfold callHead
  rcases hs : head.text.toList.span (· != '(') with ⟨name, opening⟩
  rcases hs' : head'.text.toList.span (· != '(') with ⟨name', opening'⟩
  rw [hs, hs'] at hspan
  obtain ⟨hname, hopen⟩ := Prod.mk.inj hspan
  cases opening with
  | nil =>
    obtain rfl : opening' = [] := by simpa using hopen
    refine Alike.bind (alike_takeIf opensGroup φ.opensGroup_respell expected) fun t t' ht => ?_
    refine Alike.pure ?_
    obtain ⟨hopener, hplace⟩ := Token.respell_eq_iff.mp ht
    refine CallHead.respell_eq_iff.mpr ⟨htext, ?_, hplace⟩
    rw [← φ.toList_text, hopener, φ.toList_text]
  | cons d ds =>
    cases opening' with
    | nil => simp at hopen
    | cons d' ds' =>
      refine Alike.pure (CallHead.respell_eq_iff.mpr ⟨?_, hopen.symm, hposition⟩)
      rw [φ.text_ofList, φ.text_ofList]
      exact congrArg String.ofList hname.symm

theorem alike_proofSpec : Alike φ (ProofSpec.respell φ) proofSpec proofSpec := by
  refine Alike.bind (alike_operand _) fun head head' hhead => ?_
  refine Alike.guard (by rw [opensGroup_of_respell hhead]) (ofToken_of_respell hhead _) fun _ => ?_
  refine Alike.bind (alike_callHead hhead _) fun call call' hcall => ?_
  obtain ⟨hname, hopening, hposition⟩ := CallHead.respell_eq_iff.mp hcall
  refine Alike.bind (alike_group hopening) fun contract contract' hcontract => ?_
  obtain ⟨hinner, htrailing⟩ := Group.respell_eq_iff.mp hcontract
  refine Alike.guard (φ.eq_iff_of_text (by decide) hinner) (by rw [hposition]) fun _ => ?_
  refine Alike.guard (not_congr (φ.eq_iff_of_text (by decide) htrailing)) ?_ fun _ => ?_
  · simp only [ParseError.respell, htrailing, hposition]
  · exact Alike.pure (by simp only [ProofSpec.respell, hname, hinner])

theorem alike_skipAnd : Alike φ (id : Bool → Bool) skipAnd skipAnd := by
  refine Alike.bind alike_get fun c c' hc => ?_
  refine Alike.bind (alike_skipKeyword _) fun found found' hfound => ?_
  obtain rfl : found = found' := hfound
  refine Alike.ite Iff.rfl (fun _ => ?_) fun _ => Alike.pure rfl
  refine Alike.lookahead (Alike.fail (by rw [position_of_respell hc])) fun t t' ht => ?_
  exact Alike.guard (by rw [isAnyKeyword_of_respell ht]) (by rw [position_of_respell hc])
    fun _ => Alike.pure rfl

theorem alike_proofLink :
    Alike φ (Prod.map (ProofSpec.respell φ) (id : Bool → Bool)) proofLink proofLink := by
  refine Alike.bind alike_proofSpec fun spec spec' hspec => ?_
  exact Alike.bind alike_skipAnd fun more more' hmore => Alike.pure (Prod.ext hspec hmore)

theorem alike_proofClause (demand : ProofDemand) :
    Alike φ (List.map (ProofSpec.respell φ)) (proofClause demand) (proofClause demand) := by
  refine Alike.bind alike_get fun c c' hc => ?_
  refine Alike.bind (alike_skipKeyword _) fun found found' hfound => ?_
  obtain rfl : found = found' := hfound
  have hposition := position_of_respell hc
  refine Alike.ite Iff.rfl (fun _ => ?_) fun _ => ?_
  · exact Alike.guard Iff.rfl (by rw [hposition]) fun _ => Alike.chain alike_proofLink
  · exact Alike.guard Iff.rfl (by rw [hposition]) fun _ => Alike.pure rfl

/-! ## 6. Queries

Clause by clause.  The drift policy and the numbers are seen as they are; what is captured is seen
in the new spelling. -/

theorem Alike.optionally {see : α → β} {body : Rule α} (h : Alike φ see body body)
    (word : String) : Alike φ (Option.map see) (optionally word body) (optionally word body) := by
  refine Alike.bind (alike_skipKeyword _) fun found found' hfound => ?_
  obtain rfl : found = found' := hfound
  refine Alike.ite Iff.rfl (fun _ => ?_) fun _ => Alike.pure rfl
  exact Alike.bind h fun a a' ha => Alike.pure (congrArg some ha)

theorem alike_driftPolicy :
    Alike φ (id : Option String → Option String) driftPolicy driftPolicy := by
  rw [driftPolicy_eq, ← Option.map_id_fun]
  refine Alike.optionally ?_ _
  refine Alike.bind (alike_keyword _) fun _ _ _ => ?_
  refine Alike.bind (alike_operand _) fun policy policy' hpolicy => Alike.pure ?_
  change Text.upper policy.text = Text.upper policy'.text
  rw [← φ.upper_text, (Token.respell_eq_iff.mp hpolicy).1, φ.upper_text]

theorem alike_fromClause : Alike φ (Source.respell φ) fromClause fromClause := by
  refine Alike.bind (alike_keyword _) fun _ _ _ => ?_
  refine Alike.bind (alike_token _) fun kind kind' hkind => ?_
  have hword := isKeyword_of_respell hkind
  have hplain : ∀ (expected : String) (make : String → Source),
      (∀ text, (make text).respell φ = make (φ.text text)) →
      Alike φ (Source.respell φ) (do return make (← operand expected).text)
        (do return make (← operand expected).text) := by
    intro expected make hmake
    refine Alike.bind (alike_operand _) fun id id' hid => Alike.pure ?_
    rw [hmake, hmake, (Token.respell_eq_iff.mp hid).1]
  refine Alike.ite (by rw [hword]) (fun _ => hplain _ _ fun _ => rfl) fun _ => ?_
  refine Alike.ite (by rw [hword]) (fun _ => hplain _ _ fun _ => rfl) fun _ => ?_
  refine Alike.ite (by rw [hword]) (fun _ => ?_) fun _ => ?_
  · refine Alike.bind (alike_operand _) fun pattern pattern' hpattern => ?_
    refine Alike.bind alike_driftPolicy fun drift drift' hdrift => Alike.pure ?_
    obtain rfl : drift = drift' := hdrift
    simp only [Source.respell, (Token.respell_eq_iff.mp hpattern).1]
  · obtain ⟨htext, hposition⟩ := Token.respell_eq_iff.mp hkind
    exact Alike.fail (by simp only [ParseError.respell, htext, hposition])

theorem alike_rawText (stops : List String) : Alike φ φ.text (rawText stops) (rawText stops) := by
  refine Alike.bind (alike_takeUntil _) fun tokens tokens' htokens => Alike.pure ?_
  have hmap : ∀ ts : List Token, (ts.map Token.text).map φ.text =
      (ts.map (Token.respell φ)).map Token.text := by
    intro ts
    rw [List.map_map, List.map_map]
    rfl
  rw [← φ.text_intercalate (by decide), ← φ.text_intercalate (by decide), hmap, hmap, htokens]

/-- The two list clauses, if what is made of pieces follows their spelling. -/
theorem alike_listFields {stops : List String} {events : List String → List Event}
    {make : List String → List α} {see : α → α}
    (hmake : ∀ pieces, make (pieces.map φ.text) = (make pieces).map see) :
    Alike φ (List.map see) (listFields stops events make) (listFields stops events make) := by
  refine Alike.bind (alike_keyword _) fun _ _ _ => ?_
  refine Alike.bind (alike_takeUntil _) fun tokens tokens' htokens => ?_
  refine Alike.bind (alike_note _ _) fun _ _ _ => Alike.pure ?_
  have hpieces : (spanPieces tokens).map φ.text = (spanPieces tokens').map φ.text := by
    rw [← φ.spanPieces_respell, ← φ.spanPieces_respell]
    exact congrArg spanPieces htokens
  rw [← hmake, hpieces, hmake]

theorem alike_groupFields : Alike φ (List.map (Projection.respell φ)) groupFields groupFields := by
  rw [groupFields_eq]
  exact alike_listFields φ.filterMap_projection?_text

theorem alike_orderFields : Alike φ (List.map (OrderItem.respell φ)) orderFields orderFields := by
  rw [orderFields_eq]
  exact alike_listFields fun pieces => φ.orderItems_text pieces none

theorem alike_number (expected : String) :
    Alike φ (id : UInt64 → UInt64) (number expected) (number expected) := by
  refine Alike.bind (alike_token _) fun t t' ht => ?_
  obtain ⟨htext, hposition⟩ := Token.respell_eq_iff.mp ht
  have hvalue : Piece.unsigned? t.text = Piece.unsigned? t'.text := by
    rw [← φ.unsigned?_text, htext, φ.unsigned?_text]
  rw [hvalue]
  cases Piece.unsigned? t'.text with
  | some value => exact Alike.pure rfl
  | none => exact Alike.fail (by simp only [ParseError.respell, htext, hposition])

theorem alike_selectItems (config : Config) {pieces pieces' : List SelectPiece}
    (h : pieces.map (SelectPiece.respell φ) = pieces'.map (SelectPiece.respell φ)) :
    Alike φ (SelectList.respell φ) (selectItems config pieces) (selectItems config pieces') := by
  have hstrange := φ.unrecognised_respell config.registry pieces
  rw [h, φ.unrecognised_respell] at hstrange
  have hlist := φ.collect_respell config.registry pieces
  rw [h, φ.collect_respell] at hlist
  -- whatever is noted, the list is what the recognised pieces collect to
  have hread : ∀ first second first' second' : List Event, Alike φ (SelectList.respell φ)
      (do
        note first
        note second
        return SelectPiece.collect config.registry pieces)
      (do
        note first'
        note second'
        return SelectPiece.collect config.registry pieces') := by
    intro first second first' second'
    refine Alike.bind (alike_note _ _) fun _ _ _ => ?_
    exact Alike.bind (alike_note _ _) fun _ _ _ => Alike.pure hlist.symm
  unfold selectItems
  cases config.mode with
  | lenient => exact hread _ _ _ _
  | strict =>
    cases hs : SelectPiece.unrecognised config.registry pieces with
    | nil =>
      have hs' : SelectPiece.unrecognised config.registry pieces' = [] := by
        simpa [hs] using hstrange
      rw [hs']
      exact hread _ _ _ _
    | cons piece rest =>
      cases hs' : SelectPiece.unrecognised config.registry pieces' with
      | nil => simp [hs, hs'] at hstrange
      | cons piece' rest' =>
        rw [hs, hs', List.map_cons, List.map_cons, List.cons.injEq] at hstrange
        obtain ⟨htext, hposition⟩ := SelectPiece.mk.inj hstrange.1
        exact Alike.fail (by simp only [ParseError.respell, htext, hposition])

theorem alike_selectClause (config : Config) :
    Alike φ (SelectList.respell φ) (selectClause config) (selectClause config) := by
  refine Alike.bind (alike_keyword _) fun _ _ _ => ?_
  have hitems : Alike φ (SelectList.respell φ)
      (do selectItems config (SelectPiece.ofTokens (← takeUntil ["FROM"])))
      (do selectItems config (SelectPiece.ofTokens (← takeUntil ["FROM"]))) := by
    refine Alike.bind (alike_takeUntil _) fun tokens tokens' htokens => ?_
    refine alike_selectItems config ?_
    rw [← φ.ofTokens_respell, ← φ.ofTokens_respell]
    exact congrArg SelectPiece.ofTokens htokens
  refine Alike.lookahead hitems fun t t' ht => ?_
  exact Alike.guard (by rw [isKeyword_of_respell ht]) (ofToken_of_respell ht _) fun _ => hitems

theorem alike_query (config : Config) (demand : ProofDemand) :
    Alike φ (Query.respell φ) (query config demand) (query config demand) := by
  refine Alike.bind (alike_selectClause config) fun _ _ hselect => ?_
  refine Alike.bind alike_fromClause fun _ _ hsource => ?_
  refine Alike.bind ((alike_rawText _).optionally _) fun _ _ hfilter => ?_
  refine Alike.bind (alike_groupFields.optionally _) fun _ _ hgroup => ?_
  refine Alike.bind ((alike_rawText _).optionally _) fun _ _ hhaving => ?_
  refine Alike.bind (alike_proofClause demand) fun _ _ hproof => ?_
  refine Alike.bind (alike_orderFields.optionally _) fun _ _ horder => ?_
  refine Alike.bind ((alike_number _).optionally _) fun _ _ hlimit => ?_
  refine Alike.bind ((alike_number _).optionally _) fun _ _ hoffset => ?_
  refine Alike.bind (alike_finish _) fun _ _ _ => Alike.pure ?_
  have hgetD : ∀ {ξ : Type} (f : ξ → ξ) (list : Option (List ξ)),
      (list.getD []).map f = (list.map (List.map f)).getD [] := by
    intro ξ f list
    cases list <;> rfl
  rw [Option.map_id] at hlimit hoffset
  simp only [Query.respell, Query.mk.injEq, hgetD]
  exact ⟨hselect, hsource, hfilter, congrArg (Option.getD · []) hgroup, hhaving, hproof,
    congrArg (Option.getD · []) horder, hlimit, hoffset⟩

/-! ## 7. Mutations

The name of a payload has to be an identifier in both runs or in neither, and then it names one
modality. -/

/-- Without a comma in front the token stays as it is. -/
theorem skipComma_absent {token : Token} {rest : List Token} {count : Nat}
    (h : token.text.toList.head? ≠ some ',') :
    skipComma ⟨token :: rest, count⟩ = .ok (false, ⟨token :: rest, count⟩) := by
  simp only [skipComma]
  split
  · next htext => exact absurd (by rw [htext]; rfl) h
  · next htext => exact absurd (by rw [htext]; rfl) h
  · rfl

theorem alike_skipComma : Alike φ (id : Bool → Bool) skipComma skipComma := by
  intro c c' hc
  rcases Cursor.respell_eq_cases hc with
    ⟨count, rfl, rfl⟩ | ⟨t, t', ts, ts', count, rfl, rfl, ht, hts⟩
  · rfl
  obtain ⟨htext, hposition⟩ := Token.respell_eq_iff.mp ht
  have hchars : t.text.toList.map φ.char = t'.text.toList.map φ.char := by
    rw [← φ.toList_text, htext, φ.toList_text]
  have hhead : ∀ cs : List Char, (cs.map φ.char).head? = some ',' ↔ cs.head? = some ',' := by
    intro cs
    cases cs with
    | nil => simp
    | cons d ds => simp [φ.char_eq_iff (show ','.isAlpha = false by decide)]
  have hcomma : t.text.toList.head? = some ',' ↔ t'.text.toList.head? = some ',' := by
    rw [← hhead, hchars, hhead]
  by_cases hd : t.text.toList.head? = some ','
  · obtain ⟨ds, hs⟩ := List.head?_eq_some_iff.mp hd
    obtain ⟨ds', hs'⟩ := List.head?_eq_some_iff.mp (hcomma.mp hd)
    rw [hs, hs', List.map_cons, List.map_cons, List.cons.injEq] at hchars
    simp only [skipComma, hs, hs']
    cases ds with
    | nil =>
      obtain rfl : ds' = [] := by simpa using hchars.2
      exact congrArg Except.ok (Prod.ext rfl (Cursor.respell_eq_iff.mpr ⟨hts, rfl⟩))
    | cons e es =>
      cases ds' with
      | nil => simp at hchars
      | cons e' es' =>
        refine congrArg Except.ok (Prod.ext rfl (Cursor.respell_eq_iff.mpr ⟨?_, rfl⟩))
        refine congrArg₂ List.cons (Token.respell_eq_iff.mpr ⟨?_, hposition⟩) hts
        rw [φ.text_ofList, φ.text_ofList, hchars.2]
  · rw [skipComma_absent hd, skipComma_absent (mt hcomma.mpr hd)]
    exact congrArg Except.ok (Prod.ext rfl hc)

/-- The name of a call names one modality in all its spellings, if it is an identifier. -/
theorem ofName_of_text {name name' : String} (h : φ.text name = φ.text name')
    (hname : isIdentifier name = true) : Modality.ofName name = Modality.ofName name' := by
  have hname' : isIdentifier name' = true := by
    rw [← φ.isIdentifier_text, ← h, φ.isIdentifier_text, hname]
  rw [← φ.ofName_text hname, h, φ.ofName_text hname']

theorem alike_payload :
    Alike φ (Prod.map (Payload.respell φ) (id : Bool → Bool)) payload payload := by
  refine Alike.bind (alike_operand _) fun head head' hhead => ?_
  refine Alike.bind (alike_callHead hhead _) fun call call' hcall => ?_
  obtain ⟨hname, hopening, -⟩ := CallHead.respell_eq_iff.mp hcall
  have hidentifier : isIdentifier call.name = isIdentifier call'.name := by
    rw [← φ.isIdentifier_text, hname, φ.isIdentifier_text]
  refine Alike.guard (by rw [hidentifier]) (ofToken_of_respell hhead _) fun hid => ?_
  refine Alike.bind (alike_group hopening) fun content content' hcontent => ?_
  obtain ⟨hinner, htrailing⟩ := Group.respell_eq_iff.mp hcontent
  have hitem : Payload.respell φ ⟨Modality.ofName call.name, content.inner⟩ =
      Payload.respell φ ⟨Modality.ofName call'.name, content'.inner⟩ := by
    simp only [Payload.respell, hinner, ofName_of_text hname (by simpa using hid)]
  have hcomma : Alike φ (Prod.map (Payload.respell φ) (id : Bool → Bool))
      (do return (⟨Modality.ofName call.name, content.inner⟩, ← skipComma))
      (do return (⟨Modality.ofName call'.name, content'.inner⟩, ← skipComma)) :=
    Alike.bind alike_skipComma fun more more' hmore => Alike.pure (Prod.ext hitem hmore)
  refine Alike.ite (φ.eq_iff_of_text (by decide) htrailing)
    (fun _ => Alike.pure (Prod.ext hitem rfl)) fun _ => ?_
  refine Alike.ite (not_congr (φ.eq_iff_of_text (by decide) htrailing)) (fun _ => ?_)
    fun _ => hcomma
  refine Alike.bind alike_get fun c c' hc => Alike.fail_bind ?_
  simp only [ParseError.respell, htrailing, position_of_respell hc]

theorem alike_insert : Alike φ (Mutation.respell φ) insert insert := by
  refine Alike.bind (alike_keyword _) fun _ _ _ => ?_
  refine Alike.bind (alike_keyword _) fun _ _ _ => ?_
  refine Alike.bind (Alike.chain alike_payload) fun payloads payloads' hpayloads => ?_
  have hrest : Alike φ (Mutation.respell φ)
      (do
        let proof ← proofClause .optional
        note [.insertRead payloads.length]
        return .insert payloads proof)
      (do
        let proof ← proofClause .optional
        note [.insertRead payloads'.length]
        return .insert payloads' proof) := by
    refine Alike.bind (alike_proofClause _) fun proof proof' hproof => ?_
    refine Alike.bind (alike_note _ _) fun _ _ _ => Alike.pure ?_
    exact congrArg₂ Mutation.insert hpayloads hproof
  refine Alike.lookahead hrest fun t t' ht => ?_
  exact Alike.guard (by rw [isKeyword_of_respell ht]) (ofToken_of_respell ht _) fun _ => hrest

theorem alike_assignment {piece piece' : AssignmentPiece}
    (h : piece.respell φ = piece'.respell φ) :
    Alike φ (Assignment.respell φ) (assignment piece) (assignment piece') := by
  obtain ⟨htext, hposition⟩ := AssignmentPiece.mk.inj h
  have hread := φ.assignment?_text piece.text
  rw [htext, φ.assignment?_text] at hread
  have hrefused : Alike φ (Assignment.respell φ)
      (fail (.unexpectedToken "field=value" piece.text piece.position))
      (fail (.unexpectedToken "field=value" piece'.text piece'.position)) :=
    Alike.fail (by simp only [ParseError.respell, htext, hposition])
  unfold assignment
  cases ha : Piece.assignment? piece.text with
  | none =>
    have ha' : Piece.assignment? piece'.text = none := by simpa [ha] using hread
    rw [ha']
    exact hrefused
  | some a =>
    cases ha' : Piece.assignment? piece'.text with
    | none => simp [ha, ha'] at hread
    | some a' =>
      rw [ha, ha', Option.map_some, Option.map_some, Option.some.injEq] at hread
      have hvalue := (Assignment.mk.inj hread).2
      refine Alike.ite (φ.eq_iff_of_text (by decide) hvalue.symm) (fun _ => hrefused) fun _ => ?_
      exact Alike.pure hread.symm

theorem alike_setClause : Alike φ (List.map (Assignment.respell φ)) setClause setClause := by
  refine Alike.bind (alike_keyword _) fun _ _ _ => ?_
  refine Alike.bind (alike_takeUntil _) fun tokens tokens' htokens => ?_
  have hempty : tokens.isEmpty = tokens'.isEmpty := by
    simpa using congrArg List.isEmpty htokens
  have hquote : hasOpenQuote tokens = hasOpenQuote tokens' := by
    rw [← φ.hasOpenQuote_respell, ← φ.hasOpenQuote_respell tokens']
    exact congrArg hasOpenQuote htokens
  have hpieces : Alike φ (List.map (Assignment.respell φ))
      ((assignmentPieces tokens).mapM assignment) ((assignmentPieces tokens').mapM assignment) := by
    refine Alike.mapM (AssignmentPiece.respell φ) (fun _ _ h => alike_assignment h) ?_
    rw [← φ.assignmentPieces_respell, ← φ.assignmentPieces_respell]
    exact congrArg assignmentPieces htokens
  have hrest : Alike φ (List.map (Assignment.respell φ))
      (if hasOpenQuote tokens = true then do
          note [.unclosedQuote]
          (assignmentPieces tokens).mapM assignment
        else (assignmentPieces tokens).mapM assignment)
      (if hasOpenQuote tokens' = true then do
          note [.unclosedQuote]
          (assignmentPieces tokens').mapM assignment
        else (assignmentPieces tokens').mapM assignment) :=
    Alike.ite (by rw [hquote]) (fun _ => Alike.bind (alike_note _ _) fun _ _ _ => hpieces)
      fun _ => hpieces
  refine Alike.ite (by rw [hempty]) (fun _ => ?_) fun _ => hrest
  exact Alike.bind alike_get fun c c' hc => Alike.fail_bind (refusal_of_respell hc _)

theorem alike_update : Alike φ (Mutation.respell φ) update update := by
  refine Alike.bind (alike_keyword _) fun _ _ _ => ?_
  refine Alike.bind (alike_operand _) fun id id' hid => ?_
  refine Alike.bind alike_setClause fun assignments assignments' hassignments => ?_
  refine Alike.bind (alike_proofClause _) fun proof proof' hproof => ?_
  refine Alike.bind (alike_note _ _) fun _ _ _ => Alike.pure ?_
  simp only [Mutation.respell, (Token.respell_eq_iff.mp hid).1, Mutation.update.injEq]
  exact ⟨trivial, hassignments, hproof⟩

theorem alike_delete : Alike φ (Mutation.respell φ) delete delete := by
  refine Alike.bind (alike_keyword _) fun _ _ _ => ?_
  refine Alike.bind (alike_operand _) fun id id' hid => ?_
  refine Alike.bind (alike_proofClause _) fun proof proof' hproof => Alike.pure ?_
  exact congrArg₂ Mutation.delete (Token.respell_eq_iff.mp hid).1 hproof

theorem alike_mutation : Alike φ (Mutation.respell φ) mutation mutation := by
  refine Alike.bind (alike_token _) fun first first' hfirst => ?_
  have hword := isKeyword_of_respell hfirst
  have hbody : Alike φ (Mutation.respell φ) (mutationBody first) (mutationBody first') := by
    unfold mutationBody
    refine Alike.ite (by rw [hword]) (fun _ => alike_insert) fun _ => ?_
    refine Alike.ite (by rw [hword]) (fun _ => alike_update) fun _ => ?_
    refine Alike.ite (by rw [hword]) (fun _ => alike_delete) fun _ => Alike.fail ?_
    obtain ⟨htext, hposition⟩ := Token.respell_eq_iff.mp hfirst
    simp only [ParseError.respell, htext, hposition]
  refine Alike.bind hbody fun m m' hm => ?_
  exact Alike.bind (alike_finish _) fun _ _ _ => Alike.pure hm

theorem alike_statement (config : Config) :
    Alike φ (Statement.respell φ) (statement config) (statement config) := by
  refine Alike.lookahead ?_ fun t t' ht => ?_
  · refine Alike.bind alike_get fun c c' hc => Alike.fail ?_
    rw [missing_of_respell hc]
  refine Alike.ite (by rw [isAnyKeyword_of_respell ht]) (fun _ => ?_) fun _ => ?_
  · exact Alike.bind alike_mutation fun m m' hm => Alike.pure (congrArg Statement.mutation hm)
  · exact Alike.bind (alike_query config _) fun q q' hq => Alike.pure (congrArg Statement.query hq)

end Rule

/-! ## 8. The respelling that changes nothing

Every value is its own respelling under `Respelling.same`, node by node. -/

namespace Respelling

theorem text_same_eq : same.text = id := funext text_same

@[simp] theorem projection_same (p : Projection) : p.respell same = p := by
  simp [Projection.respell]

@[simp] theorem aggregate_same (a : Aggregate) : a.respell same = a := by
  cases a <;> simp [Aggregate.respell]

@[simp] theorem selectList_same (list : SelectList) : list.respell same = list := by
  simp [SelectList.respell]

@[simp] theorem source_same (source : Source) : source.respell same = source := by
  cases source <;> simp [Source.respell]

@[simp] theorem proofSpec_same (spec : ProofSpec) : spec.respell same = spec := by
  simp [ProofSpec.respell]

@[simp] theorem orderItem_same (item : OrderItem) : item.respell same = item := by
  simp [OrderItem.respell]

@[simp] theorem query_same (q : Query) : q.respell same = q := by
  simp [Query.respell, text_same_eq]

@[simp] theorem payload_same (p : Payload) : p.respell same = p := by
  simp [Payload.respell]

@[simp] theorem assignment_same (a : Assignment) : a.respell same = a := by
  simp [Assignment.respell]

@[simp] theorem mutation_same (m : Mutation) : m.respell same = m := by
  cases m <;> simp [Mutation.respell]

@[simp] theorem statement_same (s : Statement) : s.respell same = s := by
  cases s <;> simp [Statement.respell]

@[simp] theorem parsed_same (p : Parsed) : p.respell same = p := by
  cases p <;> simp [Parsed.respell]

@[simp] theorem error_same (e : ParseError) : e.respell same = e := by
  cases e <;> simp [ParseError.respell]

theorem result_same (r : Except ParseError Parsed) : same.result (Parsed.respell same) r = r := by
  cases r <;> simp [result]

end Respelling

/-! ## 9. Whole texts

From cursors to texts: a text up to spelling and layout is its words up to spelling. -/

variable {φ : Respelling}

/-- The tokens of a text up to spelling and layout: its words, numbered. -/
theorem tokenize_respell (φ : Respelling) (input : String) :
    (tokenize input).map (·.respell φ) =
      (((tokenize input).map (·.text)).map φ.text).zipIdx.map fun (word, index) =>
        ⟨word, index, 0⟩ := by
  refine List.ext_getElem (by simp) fun i h h' => ?_
  simp [tokenize, Token.respell]

/-- Texts with the same words up to spelling start from cursors with one respelling. -/
theorem Cursor.ofText_respell {x y : String}
    (h : ((tokenize x).map (·.text)).map φ.text = ((tokenize y).map (·.text)).map φ.text) :
    (Cursor.ofText x).respell φ = (Cursor.ofText y).respell φ := by
  refine Cursor.respell_eq_iff.mpr ⟨?_, ?_⟩
  · change (tokenize x).map (·.respell φ) = (tokenize y).map (·.respell φ)
    rw [tokenize_respell, tokenize_respell, h]
  · change (tokenize x).length = (tokenize y).length
    simpa using congrArg List.length h

/-- So rules that are alike end alike on them. -/
theorem Rule.Alike.run {α β : Type} {see : α → β} {rule other : Rule α}
    (h : Alike φ see rule other) {x y : String}
    (hxy : (Cursor.ofText x).respell φ = (Cursor.ofText y).respell φ) :
    φ.result see (rule.run x).result = φ.result see (other.run y).result := by
  rw [Rule.run_result, Rule.run_result]
  rcases Respelling.result_eq_cases (h _ _ hxy) with
    ⟨error, error', hr, hr', herror⟩ | ⟨p, p', hr, hr', hsee⟩
  · rw [hr, hr']
    exact congrArg Except.error herror
  · rw [hr, hr']
    exact congrArg Except.ok (Prod.mk.inj hsee).1

/-- Building on values of which the same is seen. -/
theorem Respelling.result_map {α β γ δ : Type} {see : α → β} {see' : γ → δ} {f : α → γ}
    {r r' : Except ParseError α} (h : φ.result see r = φ.result see r')
    (hf : ∀ a a', see a = see a' → see' (f a) = see' (f a')) :
    φ.result see' (r.map f) = φ.result see' (r'.map f) := by
  rcases Respelling.result_eq_cases h with ⟨error, error', rfl, rfl, herror⟩ | ⟨a, a', rfl, rfl, ha⟩
  · exact congrArg Except.error herror
  · exact congrArg Except.ok (hf a a' ha)

/-- Every entry grammar reads texts with one respelling alike. -/
theorem parse_of_respell (config : Config) (action : Action) {x y : String}
    (h : ((tokenize x).map (·.text)).map φ.text = ((tokenize y).map (·.text)).map φ.text) :
    φ.result (Parsed.respell φ) (parse config action x).result =
      φ.result (Parsed.respell φ) (parse config action y).result := by
  have hxy := Cursor.ofText_respell h
  have hquery : ∀ demand, φ.result (Parsed.respell φ)
        (((Rule.query config demand).run x).result.map Parsed.query) =
      φ.result (Parsed.respell φ) (((Rule.query config demand).run y).result.map Parsed.query) :=
    fun demand => Respelling.result_map ((Rule.alike_query config demand).run hxy)
      fun _ _ hq => congrArg Parsed.query hq
  cases action <;>
    simp only [parse, Outcome.map_result, parseQuery, parseSlipstream, parseDependentType,
      parseMutation, parseStatement, Outcome.accepted_result]
  case query => exact hquery .optional
  case slipstream => exact hquery .forbidden
  case dependentType => exact hquery .required
  case mutation =>
    exact Respelling.result_map (Rule.alike_mutation.run hxy)
      fun _ _ hm => congrArg Parsed.mutation hm
  case statement =>
    exact Respelling.result_map ((Rule.alike_statement config).run hxy)
      fun _ _ hs => congrArg Parsed.statement hs

/-- Texts that agree word by word up to case are the same when written small. -/
theorem map_small_of_sameLetters {texts texts' : List String}
    (h : List.Forall₂ (fun s t => Text.sameLetters s t = true) texts texts') :
    texts.map Respelling.small.text = texts'.map Respelling.small.text := by
  induction h with
  | nil => rfl
  | cons hst _ ih =>
    rw [List.map_cons, List.map_cons, ih]
    exact congrArg (· :: _) (congrArg String.ofList (beq_iff_eq.mp hst))

/-- **Layout and the case of letters do not matter.**  Texts whose tokens agree up to case are
read alike: both give trees that agree once their free texts are written small, or both give
errors of one kind, at one position, that do.  Texts whose tokens agree are read to one result.
The rules of the five entrances are compared with themselves, on the tokens of the two texts. -/
theorem parse_spelling (config : Config) (action : Action) (x y : String) :
    (List.Forall₂ (fun s t => Text.sameLetters s t = true)
        ((tokenize x).map (·.text)) ((tokenize y).map (·.text)) →
      Respelling.small.result (Parsed.respell .small) (parse config action x).result =
        Respelling.small.result (Parsed.respell .small) (parse config action y).result) ∧
    ((tokenize x).map (·.text) = (tokenize y).map (·.text) →
      (parse config action x).result = (parse config action y).result) := by
  constructor
  · intro h
    exact parse_of_respell config action (map_small_of_sameLetters h)
  · intro h
    have hsame := parse_of_respell config action (congrArg (List.map Respelling.same.text) h)
    rwa [Respelling.result_same, Respelling.result_same] at hsame

/-- An UPDATE in two spellings of one layout, and in two layouts of one spelling. -/
theorem parse_update_spellings :
    (List.Forall₂ (fun s t => Text.sameLetters s t = true)
        ((tokenize "update HEXAD h1 SET Name='A, b' PROOF t (C)").map (·.text))
        ((tokenize "UPDATE hexad H1 set nAME='a, B' Proof T (c)").map (·.text)) ∧
      Respelling.small.result (Parsed.respell .small)
          (parse {} .statement "update HEXAD h1 SET Name='A, b' PROOF t (C)").result =
        Respelling.small.result (Parsed.respell .small)
          (parse {} .statement "UPDATE hexad H1 set nAME='a, B' Proof T (c)").result) ∧
    (tokenize "update HEXAD h1 SET Name='A, b' PROOF t (C)").map (·.text) =
        (tokenize " update\tHEXAD h1\nSET Name='A,   b'\nPROOF t (C)\n").map (·.text) ∧
      (parse {} .statement "update HEXAD h1 SET Name='A, b' PROOF t (C)").result =
        (parse {} .statement " update\tHEXAD h1\nSET Name='A,   b'\nPROOF t (C)\n").result :=
  ⟨⟨by decide, (parse_spelling {} .statement _ _).1 (by decide)⟩,
    by decide, (parse_spelling {} .statement _ _).2 (by decide)⟩

end HexadQuery
