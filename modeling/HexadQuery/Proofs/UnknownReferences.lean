/-
# Which references can be unknown

Validation asks about every modality a statement holds and reports the first that is not
registered.  In a statement that was read, not all of them can be: a bare name of a SELECT list was
recognised through the registry in the first place, so it is there.  What is left are the
modalities that stand ahead of a field, which the grammar takes as they come, and the names of
payloads (`Statement.qualified`).

The coupling of reading and validation is one invariant of SELECT lists, `Query.Resolved`: an entry
of the list of modalities is registered or is the modality of some field of the query.  It holds of
what any pieces collect to (`WrittenQuery.resolved_query`), in both modes, because collecting makes
up no entries.  Nothing is asked of the registry, not even that it was built by registering.

From the invariant follows what `validate_statement` can report of a statement that was read under
the same configuration.  The list of references is a list of modalities with clauses, and each of
its modalities is registered or qualified, so one that is reported is qualified
(`Resolved.mem_qualified`); and a qualified one that is not registered is somewhere in the list, so
something is reported (`Resolved.fails_iff`).

The clause that is reported need not be the one where the field stands that brought the modality
in: the list of modalities is checked ahead of the fields, and it has the modality of every field
of a SELECT list among its entries.

The last part is about texts.  A qualified modality is written ahead of a dot in some piece of the
text (`Qualifies`), in any casing, and every such piece that is read gives a qualified modality.
-/
import HexadQuery.Proofs.OrderPairing
import HexadQuery.Proofs.References
import HexadQuery.Proofs.SelectLists
import HexadQuery.Proofs.TreeShapes

namespace HexadQuery

/-! ## 1. Modalities with a field

The modalities that validation may have something to say about. -/

/-- The modalities that stand ahead of a field, in whichever clause, or name a payload. -/
def Statement.qualified (s : Statement) : List Modality :=
  s.projections.map (·.modality) ++ s.payloads.map (·.modality)

/-- The modality of an aggregate is that of its operand. -/
theorem Aggregate.modality?_eq (a : Aggregate) : a.modality? = a.operand?.map (·.modality) := by
  cases a <;> rfl

/-- The references of a clause are to its modalities. -/
theorem Clause.map_references (clause : Clause) (modalities : List Modality) :
    (clause.references modalities).map (·.modality) = modalities := by
  simp [references, Function.comp_def]

/-- The references of a statement are to its modalities. -/
theorem Statement.map_references (s : Statement) :
    s.references.map (·.modality) = s.modalities := by
  cases s with
  | query q =>
    have haggregates : q.select.aggregates.filterMap Aggregate.modality? =
        (q.select.aggregates.filterMap Aggregate.operand?).map (·.modality) := by
      rw [List.map_filterMap]
      exact List.filterMap_congr fun a _ => a.modality?_eq
    simp only [references, Query.references, modalities, Query.modalities, Query.projections,
      haggregates, List.map_append, Clause.map_references, List.map_map, Function.comp_def,
      List.append_assoc]
  | mutation m =>
    cases m with
    | insert payloads proof => exact Clause.insert.map_references _
    | update id assignments proof => rfl
    | delete id proof => rfl

/-! ## 2. What a SELECT list can hold

The invariant and where it comes from. -/

/-- Every selected modality is registered or stands ahead of a field. -/
def Query.Resolved (registry : Registry) (q : Query) : Prop :=
  ∀ m, .modality m ∈ q.select.modalities →
    registry.contains m = true ∨ m ∈ q.projections.map (·.modality)

/-- A bare name is recognised through the registry. -/
theorem SelectItem.contains_of_parse? {registry : Registry} {piece : String} {m : Modality}
    (h : parse? registry piece = some (.selected (.modality m))) :
    registry.contains m = true := by
  unfold parse? at h
  split at h
  · cases h
  · split at h
    · cases h
    · cases h
    · cases h
    · split at h
      · cases h
      · obtain ⟨found, hfound, hitem⟩ := Option.map_eq_some_iff.mp h
        cases hitem
        exact Registry.contains_iff.mpr (Registry.resolve?_eq_some hfound).1

/-- What pieces collect to names no modality but those that were recognised and those of fields. -/
theorem SelectList.mem_collect_modalities {registry : Registry} {pieces : List String}
    {list : SelectList} (hlist : collect (pieces.filterMap (SelectItem.parse? registry)) = list)
    {m : Modality} (h : .modality m ∈ list.modalities) :
    registry.contains m = true ∨ (∃ p ∈ list.projections, p.modality = m) ∨
      ∃ a ∈ list.aggregates, a.modality? = some m := by
  rw [collect_firstSeen] at hlist
  subst hlist
  -- some item mentions it: a bare name, which was looked up, or a field or a call, which are in
  -- their lists
  obtain ⟨item, hitem, hmentioned⟩ := List.mem_filterMap.mp (List.mem_eraseDups.mp h)
  cases item with
  | selected entry =>
    obtain ⟨piece, -, hpiece⟩ := List.mem_filterMap.mp hitem
    obtain rfl : entry = .modality m := Option.some.inj hmentioned
    exact Or.inl (SelectItem.contains_of_parse? hpiece)
  | projection p =>
    obtain rfl : p.modality = m := Selected.modality.inj (Option.some.inj hmentioned)
    exact Or.inr (Or.inl ⟨p, List.mem_filterMap.mpr ⟨_, hitem, rfl⟩, rfl⟩)
  | aggregate a =>
    refine Or.inr (Or.inr ⟨a, List.mem_filterMap.mpr ⟨_, hitem, rfl⟩, ?_⟩)
    cases a with
    | countAll => cases hmentioned
    | ofField function operand =>
      exact congrArg some (Selected.modality.inj (Option.some.inj hmentioned))

/-- **Whatever the pieces of a SELECT list are, the query is resolved.** -/
theorem WrittenQuery.resolved_query (registry : Registry) (written : WrittenQuery) :
    (written.query registry).Resolved registry := by
  have hselect : SelectList.collect ((selectTexts written.select.body).filterMap
      (SelectItem.parse? registry)) = (written.query registry).select := rfl
  intro m hm
  rcases SelectList.mem_collect_modalities hselect hm with hknown | ⟨p, hp, rfl⟩ | ⟨a, ha, hmodality⟩
  · exact Or.inl hknown
  · exact Or.inr (List.mem_map_of_mem (by simp [Query.projections, hp]))
  · rw [a.modality?_eq] at hmodality
    obtain ⟨p, hp, rfl⟩ := Option.map_eq_some_iff.mp hmodality
    have hoperand := List.mem_filterMap.mpr ⟨a, ha, hp⟩
    exact Or.inr (List.mem_map_of_mem (by simp [Query.projections, hoperand]))

/-! ## 3. Validation of what was read

Consequences of the invariant for any statement that has it. -/

/-- The selected modalities of a statement are registered or stand ahead of a field. -/
def Statement.Resolved (registry : Registry) : Statement → Prop
  | query q => q.Resolved registry
  | mutation _ => True

namespace Statement

variable {s : Statement} {registry : Registry}

/-- A qualified modality is one of the modalities of the statement. -/
theorem qualified_subset_modalities (s : Statement) : s.qualified ⊆ s.modalities := by
  cases s with
  | query q =>
    simp only [qualified, modalities, projections, payloads, Query.modalities, List.map_nil,
      List.append_nil]
    exact List.subset_append_right _ _
  | mutation m => exact List.Subset.refl _

/-- What a resolved statement refers to is registered or stands ahead of a field or a payload. -/
theorem Resolved.known_or_qualified (h : s.Resolved registry) {m : Modality}
    (hm : m ∈ s.modalities) : registry.contains m = true ∨ m ∈ s.qualified := by
  cases s with
  | mutation mutation => exact Or.inr hm
  | query q =>
    have hfield : m ∈ q.projections.map (·.modality) → m ∈ (query q).qualified :=
      List.mem_append_left _
    rcases List.mem_append.mp hm with hm | hm
    · obtain ⟨entry, hentry, hmodality⟩ := List.mem_filterMap.mp hm
      cases entry with
      | all => cases hmodality
      | modality other =>
        obtain rfl := Option.some.inj hmodality
        exact (h _ hentry).imp_right hfield
    · exact Or.inr (hfield hm)

/-- What is reported of a resolved statement stands ahead of a field or a payload. -/
theorem Resolved.mem_qualified (h : s.Resolved registry) {unknown : UnknownModality}
    (hunknown : s.validate registry = .error unknown) : unknown.modality ∈ s.qualified := by
  rw [validate_eq, Registry.firstUnknown_eq_error_iff] at hunknown
  obtain ⟨known, later, hreferences, -, hnot⟩ := hunknown
  have hmem : unknown.modality ∈ s.modalities := by
    rw [← s.map_references, hreferences]
    simp
  rcases h.known_or_qualified hmem with hknown | hqualified
  · rw [hnot] at hknown
    cases hknown
  · exact hqualified

/-- **A resolved statement fails validation by its fields and payloads only.**  Its bare names
were looked up when they were read, so they are registered. -/
theorem Resolved.fails_iff (h : s.Resolved registry) :
    (∃ unknown, s.validate registry = .error unknown) ↔
      ∃ m ∈ s.qualified, registry.contains m = false := by
  constructor
  · rintro ⟨unknown, hunknown⟩
    refine ⟨unknown.modality, h.mem_qualified hunknown, ?_⟩
    rw [validate_eq, Registry.firstUnknown_eq_error_iff] at hunknown
    obtain ⟨-, -, -, -, hnot⟩ := hunknown
    exact hnot
  · rintro ⟨m, hm, hnot⟩
    cases hresult : s.validate registry with
    | error unknown => exact ⟨unknown, rfl⟩
    | ok =>
      rw [validate_eq, Registry.firstUnknown_eq_ok_iff] at hresult
      have hmem := s.qualified_subset_modalities hm
      rw [← s.map_references] at hmem
      obtain ⟨reference, hreference, rfl⟩ := List.mem_map.mp hmem
      rw [hresult reference hreference] at hnot
      cases hnot

end Statement

/-! ## 4. How a modality is written

The fields of a query, by the pieces they were read from. -/

/-- The query is written with this name ahead of a field: in its SELECT list, in a function there, in
its GROUP BY or in its ORDER BY. -/
inductive WrittenQuery.Qualifies (written : WrittenQuery) (name : String) : Prop
  | field {piece : String} {p : Projection} (hpiece : piece ∈ selectTexts written.select.body)
      (hp : p.SpelledBy name piece) : Qualifies written name
  | operand {function operand : String} {f : AggregateFunction} {p : Projection}
      (hpiece : function ++ "(" ++ operand ++ ")" ∈ selectTexts written.select.body)
      (hname : NamesFunction function f) (hp : p.SpelledBy name operand) : Qualifies written name
  | groupBy {clause : WrittenClause} {piece : String} {p : Projection}
      (hclause : clause ∈ written.groupBy) (hpiece : piece ∈ clause.pieces)
      (hp : p.SpelledBy name piece) : Qualifies written name
  | orderBy {clause : WrittenClause} {piece : String} {p : Projection}
      (hclause : clause ∈ written.orderBy) (hpiece : piece ∈ clause.pieces)
      (hp : p.SpelledBy name piece) : Qualifies written name

namespace WrittenQuery

variable {written : WrittenQuery} {registry : Registry}

/-- A field of a GROUP BY is a piece of its clause. -/
theorem mem_groupBy {p : Projection} : p ∈ (written.query registry).groupBy ↔
    ∃ clause ∈ written.groupBy, ∃ piece ∈ clause.pieces, Piece.projection? piece = some p := by
  rw [query]
  cases written.groupBy with
  | none => simp
  | some clause => simp

/-- And so is a field of an ORDER BY. -/
theorem mem_orderBy {p : Projection} :
    p ∈ (written.query registry).orderBy.map (·.projection) ↔
      ∃ clause ∈ written.orderBy, ∃ piece ∈ clause.pieces, Piece.projection? piece = some p := by
  rw [query]
  cases written.orderBy with
  | none => simp
  | some clause =>
    simp only [Option.map_some, Option.getD_some, orderItems_eq, map_projection_fieldItems]
    simp

/-- A field of a SELECT list is a piece of it. -/
theorem mem_projections {p : Projection} : p ∈ (written.query registry).select.projections ↔
    ∃ piece ∈ selectTexts written.select.body,
      SelectItem.parse? registry piece = some (.projection p) := by
  have hitem : ∀ item : SelectItem, item.projection? = some p ↔ item = .projection p := by
    rintro (_ | _ | _) <;> simp [SelectItem.projection?]
  simp only [query, SelectList.collect_firstSeen, List.mem_filterMap, hitem, exists_eq_right]

/-- And so is a call. -/
theorem mem_aggregates {a : Aggregate} : a ∈ (written.query registry).select.aggregates ↔
    ∃ piece ∈ selectTexts written.select.body,
      SelectItem.parse? registry piece = some (.aggregate a) := by
  have hitem : ∀ item : SelectItem, item.aggregate? = some a ↔ item = .aggregate a := by
    rintro (_ | _ | _) <;> simp [SelectItem.aggregate?]
  simp only [query, SelectList.collect_firstSeen, List.mem_filterMap, hitem, exists_eq_right]

/-- A field of the query is written with the name of its modality. -/
theorem exists_qualifies (hwords : ∀ word ∈ written.words, Text.IsWord word.toList)
    {p : Projection} (hp : p ∈ (written.query registry).projections) :
    ∃ name, written.Qualifies name ∧ p.modality = Modality.ofName name := by
  have hpieces : ∀ piece ∈ selectTexts written.select.body, Text.IsWord piece.toList := by
    refine (selectPieces_selectTexts written.select.body).isWord fun word hword => hwords word ?_
    simp [words, WrittenClause.words, hword]
  simp only [Query.projections, List.mem_append] at hp
  rcases hp with ((hp | hp) | hp) | hp
  · obtain ⟨piece, hpiece, hparse⟩ := mem_projections.mp hp
    cases SelectItem.spelled_of_parse? (hpieces piece hpiece) hparse with
    | field hspelled => exact ⟨_, .field hpiece hspelled, hspelled.modality⟩
  · obtain ⟨a, ha, hoperand⟩ := List.mem_filterMap.mp hp
    obtain ⟨piece, hpiece, hparse⟩ := mem_aggregates.mp ha
    cases SelectItem.spelled_of_parse? (hpieces piece hpiece) hparse with
    | countAll => cases hoperand
    | call hname hspelled =>
      obtain rfl := Option.some.inj hoperand
      exact ⟨_, .operand hpiece hname hspelled, hspelled.modality⟩
  · obtain ⟨clause, hclause, piece, hpiece, hfield⟩ := mem_groupBy.mp hp
    obtain ⟨name, hspelled⟩ := Piece.projection?_eq_some_iff.mp hfield
    exact ⟨name, .groupBy hclause hpiece hspelled, hspelled.modality⟩
  · obtain ⟨clause, hclause, piece, hpiece, hfield⟩ := mem_orderBy.mp hp
    obtain ⟨name, hspelled⟩ := Piece.projection?_eq_some_iff.mp hfield
    exact ⟨name, .orderBy hclause hpiece hspelled, hspelled.modality⟩

/-- What is written ahead of a field is the modality of a field of the query. -/
theorem Qualifies.mem_projections {name : String} (h : written.Qualifies name) :
    Modality.ofName name ∈ (written.query registry).projections.map (·.modality) := by
  have hmem : ∀ {p : Projection} {text : String}, p.SpelledBy name text →
      p ∈ (written.query registry).projections →
      Modality.ofName name ∈ (written.query registry).projections.map (·.modality) :=
    fun hp hmem => hp.modality ▸ List.mem_map_of_mem hmem
  simp only [Query.projections, List.mem_append] at hmem
  cases h with
  | field hpiece hp =>
    exact hmem hp (.inl (.inl (.inl (WrittenQuery.mem_projections.mpr
      ⟨_, hpiece, SelectItem.parse?_of_field hp⟩))))
  | operand hpiece hname hp =>
    refine hmem hp (.inl (.inl (.inr (List.mem_filterMap.mpr ⟨_, mem_aggregates.mpr
      ⟨_, hpiece, SelectItem.parse?_of_fieldCall hname hp⟩, rfl⟩))))
  | groupBy hclause hpiece hp =>
    exact hmem hp (.inl (.inr (mem_groupBy.mpr
      ⟨_, hclause, _, hpiece, Piece.projection?_eq_some_iff.mpr ⟨name, hp⟩⟩)))
  | orderBy hclause hpiece hp =>
    exact hmem hp (.inr (mem_orderBy.mpr
      ⟨_, hclause, _, hpiece, Piece.projection?_eq_some_iff.mpr ⟨name, hp⟩⟩))

end WrittenQuery

/-! ## 5. The law of validation

For every statement, and then for those that were read. -/

/-- A tree is a query, divided as the text is, or a mutation. -/
theorem written_of_parse {config : Config} {action : Action} {input : String} {tree : Parsed}
    (h : (parse config action input).result = .ok tree) :
    (∃ written : WrittenQuery, written.WellFormed config ∧
      written.words = (tokenize input).map (·.text) ∧
      tree.toStatement = .query (written.query config.registry)) ∨
    ∃ m, tree.toStatement = .mutation m := by
  have hquery : ∀ {demand : ProofDemand} {q : Query},
      ((Rule.query config demand).run input).result = .ok q →
      ∃ written : WrittenQuery, written.WellFormed config ∧
        written.words = (tokenize input).map (·.text) ∧
        Statement.query q = .query (written.query config.registry) := by
    intro demand q hq
    obtain ⟨written, hformed, -, hwords, rfl⟩ := Rule.query_run_eq_ok_iff.mp hq
    exact ⟨written, hformed, hwords, rfl⟩
  cases action with
  | query | slipstream | dependentType =>
    obtain ⟨q, hq, rfl⟩ := Outcome.ok_of_map h
    exact Or.inl (hquery hq)
  | mutation =>
    obtain ⟨m, -, rfl⟩ := Outcome.ok_of_map h
    exact Or.inr ⟨m, rfl⟩
  | statement =>
    obtain ⟨s, hs, rfl⟩ := Outcome.ok_of_map h
    cases s with
    | mutation m => exact Or.inr ⟨m, rfl⟩
    | query q =>
      have hresult : (parseStatement config input).result = .ok (.query q) := by
        rw [parseStatement, Outcome.accepted_result]
        exact hs
      rw [parseStatement_query_iff, parseQuery, Outcome.accepted_result] at hresult
      exact Or.inl (hquery hresult)

/-- **What was read is resolved**, under the registry it was read with.  The entrances add
nothing to the lists of names; a mutation has no bare ones. -/
theorem resolved_of_parse {config : Config} {action : Action} {input : String} {tree : Parsed}
    (h : (parse config action input).result = .ok tree) :
    tree.toStatement.Resolved config.registry := by
  rcases written_of_parse h with ⟨written, -, -, htree⟩ | ⟨m, htree⟩
  · rw [htree]
    exact written.resolved_query config.registry
  · rw [htree]
    trivial

/-- **Validation reports the first unknown reference, and which references can be unknown.**  For
every statement, whether it was read or not, validation succeeds if all its references are
registered, and otherwise reports the first that is not, with its clause.  A statement that was read
fails under its own configuration exactly if a modality ahead of a field or a payload is not
registered, and what is reported is one of those; of a query, these are the names that its text is
written with ahead of a field. -/
theorem validate_reports_first_unknown :
    (∀ (s : Statement) (registry : Registry),
      (s.validate registry = .ok () ↔
        ∀ reference ∈ s.references, registry.contains reference.modality = true) ∧
      ∀ unknown, s.validate registry = .error unknown ↔
        ∃ known later, s.references = known ++ unknown :: later ∧
          (∀ reference ∈ known, registry.contains reference.modality = true) ∧
          registry.contains unknown.modality = false) ∧
    ∀ {config : Config} {action : Action} {input : String} {tree : Parsed},
      (parse config action input).result = .ok tree →
      ((∃ unknown, tree.toStatement.validate config.registry = .error unknown) ↔
        ∃ m ∈ tree.toStatement.qualified, config.registry.contains m = false) ∧
      (∀ unknown, tree.toStatement.validate config.registry = .error unknown →
        unknown.modality ∈ tree.toStatement.qualified) ∧
      ∀ {q : Query}, tree.toStatement = .query q →
        ∃ written : WrittenQuery, written.WellFormed config ∧
          written.words = (tokenize input).map (·.text) ∧
          ∀ m, m ∈ tree.toStatement.qualified ↔
            ∃ name, written.Qualifies name ∧ m = Modality.ofName name := by
  refine ⟨fun s registry => ?_, fun {config action input tree} h => ?_⟩
  · rw [Statement.validate_eq]
    exact ⟨Registry.firstUnknown_eq_ok_iff, fun _ => Registry.firstUnknown_eq_error_iff⟩
  · have hresolved := resolved_of_parse h
    refine ⟨hresolved.fails_iff, fun _ => hresolved.mem_qualified, fun {q} hq => ?_⟩
    obtain ⟨written, hformed, hwords, htree⟩ | ⟨m, htree⟩ := written_of_parse h
    · refine ⟨written, hformed, hwords, fun m => ?_⟩
      have hqualified : tree.toStatement.qualified =
          (written.query config.registry).projections.map (·.modality) := by
        rw [htree, Statement.qualified]
        exact List.append_nil _
      rw [hqualified]
      constructor
      · intro hm
        obtain ⟨p, hp, rfl⟩ := List.mem_map.mp hm
        refine WrittenQuery.exists_qualifies (fun word hword => ?_) hp
        rw [hwords] at hword
        exact isWord_of_mem_words_ofText word hword
      · rintro ⟨name, hname, rfl⟩
        exact hname.mem_projections
    · rw [htree] at hq
      cases hq

/-- A bare name that is registered, one that is dropped, and two fields of unknown modalities, of
which the first is reported. -/
theorem validate_of_unregistered_fields :
    let q : Query := { select := ⟨[.modality .graph, .modality ⟨"Spatial"⟩], [⟨⟨"Spatial"⟩, "lat"⟩], []⟩
                       source := .hexad "h1"
                       orderBy := [⟨⟨⟨"Geo"⟩, "x"⟩, .desc⟩] }
    (parse {} .statement "SELECT graph, bogus, SPATIAL.lat FROM HEXAD h1 ORDER BY geo.x desc").result =
        .ok (.statement (.query q)) ∧
      (Statement.query q).validate .builtin = .error ⟨⟨"Spatial"⟩, .select⟩ ∧
      (⟨"Spatial"⟩ : Modality) ∈ (Statement.query q).qualified := by
  intro q
  have h : (parse {} .statement
      "SELECT graph, bogus, SPATIAL.lat FROM HEXAD h1 ORDER BY geo.x desc").result =
      .ok (.statement (.query q)) := by
    decide +kernel
  have hfirst : (Statement.query q).validate .builtin = .error ⟨⟨"Spatial"⟩, .select⟩ :=
    ((validate_reports_first_unknown.1 _ _).2 _).mpr
      ⟨[⟨.graph, .select⟩], [⟨⟨"Spatial"⟩, .select⟩, ⟨⟨"Geo"⟩, .orderBy⟩], by decide, by decide,
        by decide⟩
  exact ⟨h, hfirst, (validate_reports_first_unknown.2 h).2.1 _ hfirst⟩

end HexadQuery
