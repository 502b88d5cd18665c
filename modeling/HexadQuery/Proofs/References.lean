/-
# The references of a statement

Validation walks a statement part by part and stops at the first modality it does not know.  In the
source that is `validate_query` and `validate_mutation`, which call `check` for one part after the
other, each with the clause to report.  Here the walk is undone: `Statement.references` lists all
that is asked about, each with its clause, and validation reports the first entry of that list that
the registry does not hold (`Statement.validate_eq`).  What can be said of validation is then said
of a list.

A reference is kept as the report it would lead to, a modality with a clause, so the list is a list
of possible answers and validation picks one of them or none.
-/
import HexadQuery.Statement.Validation

namespace HexadQuery

/-! ## 1. Lists of references

Two lists one behind the other are checked one behind the other, which is all that is needed to
turn the walk into a list. -/

/-- References from one clause.  A reference is kept as what would be reported of it. -/
def Clause.references (clause : Clause) (modalities : List Modality) : List UnknownModality :=
  modalities.map fun modality => ⟨modality, clause⟩

namespace Registry

/-- Report the first reference to something that is not registered. -/
def firstUnknown (registry : Registry) (references : List UnknownModality) :
    Except UnknownModality Unit :=
  match references.find? fun reference => !registry.contains reference.modality with
  | none => .ok ()
  | some reference => .error reference

/-- The first reference is looked at first. -/
theorem firstUnknown_cons (registry : Registry) (reference : UnknownModality)
    (more : List UnknownModality) :
    registry.firstUnknown (reference :: more) =
      if registry.contains reference.modality then registry.firstUnknown more
      else .error reference := by
  unfold firstUnknown
  rw [List.find?_cons]
  by_cases h : registry.contains reference.modality = true
  · simp [h]
  · simp [h]

/-- Two parts of a statement, one after the other. -/
theorem firstUnknown_append (registry : Registry) (references more : List UnknownModality) :
    registry.firstUnknown (references ++ more) =
      registry.firstUnknown references >>= fun _ => registry.firstUnknown more := by
  unfold firstUnknown
  rw [List.find?_append]
  cases references.find? fun reference => !registry.contains reference.modality with
  | none => rfl
  | some reference => rfl

/-- Nothing is reported exactly if all is registered. -/
theorem firstUnknown_eq_ok_iff {registry : Registry} {references : List UnknownModality} :
    registry.firstUnknown references = .ok () ↔
      ∀ reference ∈ references, registry.contains reference.modality = true := by
  have hfind : (∀ reference ∈ references, registry.contains reference.modality = true) ↔
      references.find? (fun reference => !registry.contains reference.modality) = none := by
    simp [List.find?_eq_none]
  rw [hfind, firstUnknown]
  split
  · next hnone => simp [hnone]
  · next hsome => simp [hsome]

/-- What is reported is not registered, and all that is asked about ahead of it is. -/
theorem firstUnknown_eq_error_iff {registry : Registry} {references : List UnknownModality}
    {unknown : UnknownModality} :
    registry.firstUnknown references = .error unknown ↔
      ∃ known later, references = known ++ unknown :: later ∧
        (∀ reference ∈ known, registry.contains reference.modality = true) ∧
        registry.contains unknown.modality = false := by
  have hfind : registry.firstUnknown references = .error unknown ↔
      references.find? (fun reference => !registry.contains reference.modality) = some unknown := by
    rw [firstUnknown]
    split
    · next hnone => simp [hnone]
    · next hsome => simp [hsome]
  rw [hfind, List.find?_eq_some_iff_append]
  constructor
  · rintro ⟨hunknown, known, later, rfl, hknown⟩
    exact ⟨known, later, rfl, fun reference hmem => by simpa using hknown reference hmem,
      by simpa using hunknown⟩
  · rintro ⟨known, later, rfl, hknown, hunknown⟩
    exact ⟨by simpa using hunknown, known, later, rfl,
      fun reference hmem => by simpa using hknown reference hmem⟩

/-- Checking the modalities of a clause is checking its references. -/
theorem checkAll_eq (registry : Registry) (clause : Clause) : ∀ modalities : List Modality,
    registry.checkAll clause modalities = registry.firstUnknown (clause.references modalities)
  | [] => rfl
  | modality :: more => by
    rw [checkAll, checkAll_eq registry clause more]
    exact (registry.firstUnknown_cons ⟨modality, clause⟩ _).symm

end Registry

/-! ## 2. What a statement refers to

The parts in the order they are checked: a query by its SELECT list, GROUP BY and ORDER BY, an
INSERT by its payloads.  An UPDATE and a DELETE refer to no modality. -/

/-- The references of a query: the SELECT list with its entries, projections and aggregates, then
GROUP BY, then ORDER BY. -/
def Query.references (q : Query) : List UnknownModality :=
  Clause.select.references (q.select.modalities.filterMap Selected.modality?) ++
    (Clause.select.references (q.select.projections.map (·.modality)) ++
      (Clause.select.references (q.select.aggregates.filterMap Aggregate.modality?) ++
        (Clause.groupBy.references (q.groupBy.map (·.modality)) ++
          Clause.orderBy.references (q.orderBy.map (·.projection.modality)))))

/-- The references of a mutation: the payloads of an INSERT. -/
def Mutation.references : Mutation → List UnknownModality
  | insert payloads _ => Clause.insert.references (payloads.map (·.modality))
  | update .. => []
  | delete .. => []

def Statement.references : Statement → List UnknownModality
  | query q => q.references
  | mutation m => m.references

/-- **Validation reports the first unknown reference.**  The source goes through the statement
clause by clause and returns at the first failure; the references are listed in that order. -/
theorem Statement.validate_eq (s : Statement) (registry : Registry) :
    s.validate registry = registry.firstUnknown s.references := by
  cases s with
  | query q =>
    simp only [validate, Query.validate, references, Query.references, Registry.checkAll_eq,
      Registry.firstUnknown_append]
  | mutation m =>
    cases m with
    | insert payloads proof => exact registry.checkAll_eq _ _
    | update id assignments proof => rfl
    | delete id proof => rfl

end HexadQuery
