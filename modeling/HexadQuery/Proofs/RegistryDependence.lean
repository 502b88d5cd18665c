/-
# What a reading takes from the registry

A registry is asked two things: a SELECT list asks it what a bare name resolves to, and validation
asks it what it holds.  These are `resolve` and `contains` of the source, and no other function of
a reading takes the registry.  So a reading depends on it through `SelectItem.parse?` alone
(`parse_congr`), and validation through `Registry.contains` alone (`Statement.validate_eq`).

Reachable registries with the same modalities resolve names alike, in whatever order they hold
them.  With more modalities a registry resolves more names, and those it resolved already to the
same modality (`Reachable.resolve?_mono`); a piece that was an item stays that item, because the
registry is asked last (`SelectItem.parse?_mono`).  Under a strict reading every piece was one, so
the larger registry lifts the refusal of items and changes nothing else: that is `Rule.Restricts`
with this one refusal, and it climbs to whole texts as for the demands on proofs.

That registries are reachable matters.  A name could be resolved to two modalities in a list that
held two spellings of it, and then the order of the list would decide; in a reachable registry a
name spells one modality at most.

Nothing of the kind holds of lenient readings under a larger registry: a piece that was dropped may
come to be an item.  Nor does an item stay recognised for another reason than a name: fields and
calls are items under every registry.
-/
import HexadQuery.Proofs.EntryGrammars
import HexadQuery.Proofs.References
import HexadQuery.Proofs.RegistryRuns

namespace HexadQuery

/-! ## 1. The same modalities

Equality of outcomes, events and errors included, so it is shown of rules and not of their results.
-/

namespace Registry

/-- A registry with more modalities resolves what was resolved before. -/
theorem Reachable.resolve?_mono {registry larger : Registry} (h : registry.Reachable)
    (h' : larger.Reachable) (hmore : ∀ m ∈ registry.modalities, m ∈ larger.modalities)
    {name : String} {m : Modality} (hm : registry.resolve? name = some m) :
    larger.resolve? name = some m := by
  obtain ⟨hmem, hspell⟩ := h.resolve?_eq_some_iff.mp hm
  exact h'.resolve?_eq_some_iff.mpr ⟨hmore m hmem, hspell⟩

/-- Registries with the same modalities resolve alike. -/
theorem Reachable.resolve?_congr {registry other : Registry} (h : registry.Reachable)
    (h' : other.Reachable) (hsame : ∀ m, m ∈ registry.modalities ↔ m ∈ other.modalities) :
    registry.resolve? = other.resolve? := by
  funext name
  refine Option.ext fun m => ?_
  rw [h.resolve?_eq_some_iff, h'.resolve?_eq_some_iff, hsame]

end Registry

/-- A piece is looked up by its name, and by nothing else that differs. -/
theorem SelectItem.parse?_congr {registry other : Registry}
    (h : registry.resolve? = other.resolve?) : parse? registry = parse? other := by
  funext piece
  unfold parse?
  rw [h]

namespace Rule

/-- Settling pieces depends on the registry through the items it makes of them. -/
theorem selectItems_congr {registry other : Registry} (mode : SelectMode)
    (h : SelectItem.parse? registry = SelectItem.parse? other) :
    selectItems ⟨mode, registry⟩ = selectItems ⟨mode, other⟩ := by
  have hitem : SelectPiece.item? registry = SelectPiece.item? other := by
    funext piece
    rw [SelectPiece.item?, SelectPiece.item?, h]
  have hunrecognised : SelectPiece.unrecognised registry = SelectPiece.unrecognised other := by
    funext pieces
    rw [SelectPiece.unrecognised, SelectPiece.unrecognised, hitem]
  have hcollect : SelectPiece.collect registry = SelectPiece.collect other := by
    funext pieces
    rw [SelectPiece.collect, SelectPiece.collect, hitem]
  funext pieces
  simp only [selectItems, hunrecognised, hcollect]

/-- A query takes the registry to its SELECT list and nowhere else. -/
theorem query_congr {registry other : Registry} (mode : SelectMode)
    (h : SelectItem.parse? registry = SelectItem.parse? other) :
    query ⟨mode, registry⟩ = query ⟨mode, other⟩ := by
  have hselect : selectClause ⟨mode, registry⟩ = selectClause ⟨mode, other⟩ := by
    rw [selectClause, selectClause, selectItems_congr mode h]
  funext demand
  rw [query, query, hselect]

end Rule

/-- **A reading depends on the registry through the items it makes of pieces.**  Results and events
are both meant. -/
theorem parse_congr {registry other : Registry} (mode : SelectMode)
    (h : SelectItem.parse? registry = SelectItem.parse? other) :
    parse ⟨mode, registry⟩ = parse ⟨mode, other⟩ := by
  have hquery := Rule.query_congr mode h
  have hstatement : Rule.statement ⟨mode, registry⟩ = Rule.statement ⟨mode, other⟩ := by
    rw [Rule.statement, Rule.statement, hquery]
  funext action input
  cases action with
  | query => rw [parse, parse, parseQuery, parseQuery, hquery]
  | slipstream => rw [parse, parse, parseSlipstream, parseSlipstream, hquery]
  | dependentType => rw [parse, parse, parseDependentType, parseDependentType, hquery]
  | mutation => rfl
  | statement => rw [parse, parse, parseStatement, parseStatement, hstatement]

/-! ## 2. More modalities -/

/-- A piece that was an item stays that item. -/
theorem SelectItem.parse?_mono {registry larger : Registry}
    (h : ∀ name m, registry.resolve? name = some m → larger.resolve? name = some m)
    {piece : String} {item : SelectItem} (hitem : parse? registry piece = some item) :
    parse? larger piece = some item := by
  unfold parse? at hitem ⊢
  split at hitem
  · next hstar => rw [if_pos hstar, hitem]
  · next hstar =>
    rw [if_neg hstar]
    split at hitem
    · exact hitem
    · exact hitem
    · exact absurd hitem (by simp)
    · split at hitem
      · exact hitem
      · -- only here is the registry asked
        obtain ⟨m, hm, rfl⟩ := Option.map_eq_some_iff.mp hitem
        rw [h piece m hm, Option.map_some]

namespace SelectPiece

variable {registry larger : Registry}

/-- Pieces that were all recognised stay so, and collect to the same list. -/
theorem recognised_mono (h : ∀ name m, registry.resolve? name = some m →
      larger.resolve? name = some m) {pieces : List SelectPiece}
    (hall : unrecognised registry pieces = []) :
    unrecognised larger pieces = [] ∧ collect larger pieces = collect registry pieces := by
  have hitem : ∀ piece ∈ pieces, piece.item? larger = piece.item? registry := by
    intro piece hpiece
    have hsome : piece.item? registry ≠ none :=
      unrecognised_eq_nil.mp hall piece.text (List.mem_map_of_mem hpiece)
    obtain ⟨item, hitem⟩ := Option.ne_none_iff_exists'.mp hsome
    rw [hitem]
    exact SelectItem.parse?_mono h hitem
  constructor
  · rw [← hall]
    refine List.filter_congr fun piece hpiece => ?_
    rw [hitem piece hpiece]
  · rw [collect, collect, List.filterMap_congr hitem]

end SelectPiece

namespace Rule

/-- The refusal of a piece of a SELECT list. -/
def ItemRefusal (error : ParseError) : Prop :=
  ∃ found position, error = .unexpectedToken selectItemExpected found position

variable {registry larger : Registry}

/-- Where all pieces were recognised they still are; otherwise there was a refusal. -/
theorem selectItems_restricts (h : ∀ name m, registry.resolve? name = some m →
      larger.resolve? name = some m) (pieces : List SelectPiece) :
    Restricts ItemRefusal (selectItems ⟨.strict, registry⟩ pieces)
      (selectItems ⟨.strict, larger⟩ pieces) := by
  intro cursor
  cases hstrange : SelectPiece.unrecognised registry pieces with
  | cons piece more =>
    refine Or.inl ⟨_, ⟨piece.text, piece.position, rfl⟩, ?_⟩
    simp only [selectItems, hstrange]
    rfl
  | nil =>
    obtain ⟨hnone, hcollect⟩ := SelectPiece.recognised_mono h hstrange
    refine Or.inr ?_
    simp only [selectItems, hstrange, hnone, hcollect]

/-- The words of the list are taken in the same way. -/
theorem selectClause_restricts (h : ∀ name m, registry.resolve? name = some m →
      larger.resolve? name = some m) :
    Restricts ItemRefusal (selectClause ⟨.strict, registry⟩) (selectClause ⟨.strict, larger⟩) := by
  refine Restricts.bind (Restricts.refl _ _) fun _ => ?_
  have hitems : Restricts ItemRefusal
      (do selectItems ⟨.strict, registry⟩ (SelectPiece.ofTokens (← takeUntil ["FROM"])))
      (do selectItems ⟨.strict, larger⟩ (SelectPiece.ofTokens (← takeUntil ["FROM"]))) :=
    Restricts.bind (Restricts.refl _ _) fun _ => selectItems_restricts h _
  refine Restricts.bind (Restricts.refl _ _) fun next => ?_
  cases next with
  | none => exact hitems
  | some token =>
    dsimp only
    split
    · exact Restricts.bind (Restricts.refl _ _) fun _ => hitems
    · exact hitems

/-- **A larger registry lifts refusals of items and changes nothing else.**  The items of a piece
that was recognised are the same under both, so it is the refusal of another piece that can go
away. -/
theorem query_restricts_larger (h : ∀ name m, registry.resolve? name = some m →
      larger.resolve? name = some m) (demand : ProofDemand) :
    Restricts ItemRefusal (query ⟨.strict, registry⟩ demand) (query ⟨.strict, larger⟩ demand) :=
  Restricts.bind (selectClause_restricts h) fun _ => Restricts.refl _ _

/-- A mutation does not look at the registry at all. -/
theorem statement_restricts_larger (h : ∀ name m, registry.resolve? name = some m →
      larger.resolve? name = some m) :
    Restricts ItemRefusal (statement ⟨.strict, registry⟩) (statement ⟨.strict, larger⟩) := by
  refine Restricts.bind (Restricts.refl _ _) fun next => ?_
  split
  · exact Restricts.refl _ _
  · split
    · exact Restricts.refl _ _
    · exact Restricts.bind (query_restricts_larger h _) fun _ => Restricts.refl _ _

/-- What the restricted rule accepts, the other does. -/
theorem Restricts.run_map_ok {α β : Type} {own : ParseError → Prop} {rule other : Rule α}
    (h : Restricts own rule other) {f : α → β} {input : String} {b : β}
    (hok : (rule.run input).result.map f = .ok b) : (other.run input).result.map f = .ok b := by
  rcases h.run input with ⟨error, -, herror⟩ | heq
  · rw [herror] at hok
    cases hok
  · rw [← heq, hok]

end Rule

/-- **What a strict reading accepts, it accepts under a larger registry**, as the same tree.  A
strict reading that succeeded has recognised every piece, and each is the same item under the
larger one. -/
theorem parse_strict_mono {registry larger : Registry}
    (h : ∀ name m, registry.resolve? name = some m → larger.resolve? name = some m)
    {action : Action} {input : String} {tree : Parsed}
    (hok : (parse ⟨.strict, registry⟩ action input).result = .ok tree) :
    (parse ⟨.strict, larger⟩ action input).result = .ok tree := by
  cases action with
  | mutation => exact hok
  | query =>
    simp only [parse, parseQuery, Outcome.map_result, Outcome.accepted_result] at hok ⊢
    exact (Rule.query_restricts_larger h _).run_map_ok hok
  | slipstream =>
    simp only [parse, parseSlipstream, Outcome.map_result, Outcome.accepted_result] at hok ⊢
    exact (Rule.query_restricts_larger h _).run_map_ok hok
  | dependentType =>
    simp only [parse, parseDependentType, Outcome.map_result, Outcome.accepted_result] at hok ⊢
    exact (Rule.query_restricts_larger h _).run_map_ok hok
  | statement =>
    simp only [parse, parseStatement, Outcome.map_result, Outcome.accepted_result] at hok ⊢
    exact (Rule.statement_restricts_larger h).run_map_ok hok

/-! ## 3. Both questions

The dependence in full, for reachable registries. -/

/-- Validation asks what is held, in no order. -/
theorem Statement.validate_congr {registry other : Registry}
    (h : ∀ m, m ∈ registry.modalities ↔ m ∈ other.modalities) (s : Statement) :
    s.validate registry = s.validate other := by
  have hcontains : registry.contains = other.contains := by
    funext m
    rw [Bool.eq_iff_iff, Registry.contains_iff, Registry.contains_iff, h]
  rw [validate_eq, validate_eq, Registry.firstUnknown, Registry.firstUnknown, hcontains]

/-- What was known stays known. -/
theorem Statement.validate_mono {registry larger : Registry}
    (h : ∀ m ∈ registry.modalities, m ∈ larger.modalities) {s : Statement}
    (hs : s.validate registry = .ok ()) : s.validate larger = .ok () := by
  rw [validate_eq, Registry.firstUnknown_eq_ok_iff] at hs ⊢
  intro reference hreference
  exact Registry.contains_iff.mpr (h _ (Registry.contains_iff.mp (hs reference hreference)))

/-- **How answers depend on the registry.**  Reachable registries that hold the same modalities, in
whatever order, give the same outcome of every reading, events and errors included, and the same
verdict on every statement.  Under one that holds more, what a strict reading accepted is accepted
as the same tree, and what was valid stays valid. -/
theorem registry_dependence {registry other : Registry} (h : registry.Reachable)
    (h' : other.Reachable) :
    ((∀ m, m ∈ registry.modalities ↔ m ∈ other.modalities) →
      (∀ mode action input,
        parse ⟨mode, registry⟩ action input = parse ⟨mode, other⟩ action input) ∧
      ∀ s : Statement, s.validate registry = s.validate other) ∧
    ((∀ m ∈ registry.modalities, m ∈ other.modalities) →
      (∀ action input tree, (parse ⟨.strict, registry⟩ action input).result = .ok tree →
        (parse ⟨.strict, other⟩ action input).result = .ok tree) ∧
      ∀ s : Statement, s.validate registry = .ok () → s.validate other = .ok ()) := by
  constructor
  · intro hsame
    refine ⟨fun mode action input => ?_, Statement.validate_congr hsame⟩
    rw [parse_congr mode (SelectItem.parse?_congr (h.resolve?_congr h' hsame))]
  · intro hmore
    refine ⟨fun action input tree => ?_, fun s => Statement.validate_mono hmore⟩
    exact parse_strict_mono fun name m => h.resolve?_mono h' hmore

/-- Two modalities in both orders, and a third beside them. -/
theorem parse_reordered_and_extended :
    parse ⟨.lenient, ⟨[.graph, .vector]⟩⟩ .query "SELECT vector, SPATIAL FROM HEXAD h1" =
      parse ⟨.lenient, ⟨[.vector, .graph]⟩⟩ .query "SELECT vector, SPATIAL FROM HEXAD h1" ∧
    (parse ⟨.strict, ⟨[.vector, .graph, ⟨"Spatial"⟩]⟩⟩ .query "SELECT vector FROM HEXAD h1").result =
      .ok (.query { select := { modalities := [.modality .vector] }, source := .hexad "h1" }) := by
  have hpair : Registry.Reachable ⟨[.graph, .vector]⟩ :=
    Registry.reachable_ofNames (show Registry.ofNames ["GRAPH", "vector"] = .ok _ by decide)
  have hturned : Registry.Reachable ⟨[.vector, .graph]⟩ :=
    Registry.reachable_ofNames (show Registry.ofNames ["vector", "Graph"] = .ok _ by decide)
  have hmore : Registry.Reachable ⟨[.vector, .graph, ⟨"Spatial"⟩]⟩ :=
    Registry.reachable_ofNames
      (show Registry.ofNames ["vector", "graph", "SPATIAL"] = .ok _ by decide)
  refine ⟨((registry_dependence hpair hturned).1 ?_).1 _ _ _,
    ((registry_dependence hpair hmore).2 (by decide)).1 _ _ _ (by decide)⟩
  intro m
  simp [or_comm]

end HexadQuery
