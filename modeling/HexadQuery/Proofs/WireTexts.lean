/-
# The wire form determines the tree

Two trees have the same compact JSON text exactly if they are equal up to one identification: in
the list of selected modalities the wildcard and a modality named `All` have one form
(`wire_text_eq_iff`).  Texts determine JSON values, so what is left is a question about values, and
it is answered node by node: each encoding has an `.._inj` lemma that says when two nodes have the
same form, and the lemmas of the parts settle the whole.

Two places need a look.  An absent value is `null`, so a form that can be absent must never be
`null` itself (`orNull_inj`); and the lists that `null_if_empty` writes as `null` when empty are
arrays otherwise (`listOrNull_inj`), so nothing is confused with an empty list.

A third is the top of a tree.  A query that was read by a query grammar is written bare, and one
that was read as a statement has a tag around it; so do mutations, with tags of their own.  A bare
query has no tag, and the tags of statements and of mutations differ, so trees of different kinds
have different forms.

A modality has the name of its canonical form on the wire, and the wildcard is written as `All`.  A
registered modality may have that name, since `all` is an identifier like others; it is canonical
as `All`, and that is the identification.  Everywhere else a modality stands alone and the wildcard
can not be.
-/
import HexadQuery.Proofs.JsonTexts
import HexadQuery.Statement.Wire

namespace HexadQuery

/-! ## 1. Variants, absent values, lists

The three ways to encode that are used for several nodes. -/

namespace Json

@[simp] theorem tagged_inj {tag tag' : String} {members members' : List (String × Json)} :
    tagged tag members = tagged tag' members' ↔ tag = tag' ∧ members = members' := by
  simp [tagged]

variable {α : Type} {encode : α → Json}

/-- A value that may be absent, if the value itself is never `null`. -/
theorem orNull_inj (hinj : ∀ a b, encode a = encode b ↔ a = b) (hnull : ∀ a, encode a ≠ null)
    {a b : Option α} : orNull encode a = orNull encode b ↔ a = b := by
  cases a with
  | none =>
    cases b with
    | none => simp
    | some b => simpa [orNull] using (hnull b).symm
  | some a =>
    cases b with
    | none => simpa [orNull] using hnull a
    | some b => simpa [orNull] using hinj a b

/-- A list is encoded item by item. -/
theorem map_inj (hinj : ∀ a b, encode a = encode b ↔ a = b) {as bs : List α} :
    as.map encode = bs.map encode ↔ as = bs :=
  List.map_inj_right fun a b h => (hinj a b).mp h

/-- A list that is `null` when empty is never an array without items. -/
theorem listOrNull_inj (hinj : ∀ a b, encode a = encode b ↔ a = b) {as bs : List α} :
    listOrNull encode as = listOrNull encode bs ↔ as = bs := by
  cases as with
  | nil => cases bs <;> simp [listOrNull]
  | cons a as =>
    cases bs with
    | nil => simp [listOrNull]
    | cons b bs => rw [listOrNull, listOrNull, arr.injEq, map_inj hinj] <;> simp

end Json

open Json

/-! ## 2. The nodes of a query

One lemma for each node, tagged so that the lemma of a node that contains it is by simplification.
-/

@[simp] theorem Modality.toJson_inj {m n : Modality} : m.toJson = n.toJson ↔ m = n := by
  obtain ⟨name⟩ := m
  obtain ⟨name'⟩ := n
  simp [toJson]

@[simp] theorem Projection.toJson_inj {p q : Projection} : p.toJson = q.toJson ↔ p = q := by
  obtain ⟨modality, field⟩ := p
  obtain ⟨modality', field'⟩ := q
  simp [toJson]

@[simp] theorem AggregateFunction.wireName_inj {f g : AggregateFunction} :
    f.wireName = g.wireName ↔ f = g := by
  cases f <;> cases g <;> decide

@[simp] theorem Aggregate.toJson_inj {a b : Aggregate} : a.toJson = b.toJson ↔ a = b := by
  cases a with
  | countAll => cases b <;> simp [toJson]
  | ofField function operand =>
    cases b with
    | countAll => simp [toJson]
    | ofField function' operand' =>
      obtain ⟨modality, field⟩ := operand
      obtain ⟨modality', field'⟩ := operand'
      simp [toJson]

@[simp] theorem Source.toJson_inj {s t : Source} : s.toJson = t.toJson ↔ s = t := by
  have hdrift : ∀ {d d' : Option String}, orNull .str d = orNull .str d' ↔ d = d' :=
    orNull_inj (by simp) (by simp)
  cases s <;> cases t <;> simp [toJson, hdrift]

/-- A present condition is an object, also an empty one. -/
@[simp] theorem orNull_conditionJson_inj {c d : Option String} :
    orNull conditionJson c = orNull conditionJson d ↔ c = d :=
  orNull_inj (by simp [conditionJson]) (by simp [conditionJson, tagged])

@[simp] theorem ProofSpec.toJson_inj {s t : ProofSpec} : s.toJson = t.toJson ↔ s = t := by
  obtain ⟨type, contract⟩ := s
  obtain ⟨type', contract'⟩ := t
  simp [toJson]

@[simp] theorem Direction.wireName_inj {d e : Direction} : d.wireName = e.wireName ↔ d = e := by
  cases d <;> cases e <;> decide

@[simp] theorem OrderItem.toJson_inj {i j : OrderItem} : i.toJson = j.toJson ↔ i = j := by
  obtain ⟨projection, direction⟩ := i
  obtain ⟨projection', direction'⟩ := j
  simp [toJson]

@[simp] theorem orNull_num_inj {n m : Option UInt64} :
    orNull (fun k : UInt64 => num k.toNat) n = orNull (fun k : UInt64 => num k.toNat) m ↔ n = m :=
  orNull_inj (by simp [UInt64.toNat_inj]) (by simp)

/-! ## 3. The wildcard

`identified` takes a wildcard for a modality, in an entry, in a query and in a tree. -/

namespace Selected

/-- The modality an entry reads as on the wire. -/
def onWire : Selected → Modality
  | all => ⟨"All"⟩
  | modality m => m

/-- On the wire an entry is a modality. -/
theorem toJson_eq (selected : Selected) : selected.toJson = selected.onWire.toJson := by
  cases selected <;> rfl

/-- An entry with the wildcard taken for the modality `All`. -/
def identified (selected : Selected) : Selected := .modality selected.onWire

/-- Lists of entries have one form if they are equal up to the wildcard. -/
theorem map_toJson_inj {ss ts : List Selected} :
    ss.map toJson = ts.map toJson ↔ ss.map identified = ts.map identified := by
  have hform : ∀ l : List Selected, l.map toJson = (l.map onWire).map Modality.toJson := by
    intro l
    rw [List.map_map]
    exact List.map_congr_left fun s _ => toJson_eq s
  have hidentified : ∀ l : List Selected,
      l.map identified = (l.map onWire).map Selected.modality := by
    intro l
    rw [List.map_map]
    rfl
  rw [hform, hform, hidentified, hidentified, Json.map_inj fun _ _ => Modality.toJson_inj,
    List.map_inj_right fun _ _ h => Selected.modality.inj h]

end Selected

/-- A query with the wildcard among its modalities taken for the modality `All`. -/
def Query.identified (query : Query) : Query :=
  { query with
    select := { query.select with modalities := query.select.modalities.map Selected.identified } }

/-- A statement with the wildcard of a query taken for the modality `All`. -/
def Statement.identified : Statement → Statement
  | query q => .query q.identified
  | mutation m => .mutation m

/-- A tree with the wildcard of a query taken for the modality `All`. -/
def Parsed.identified : Parsed → Parsed
  | query q => .query q.identified
  | mutation m => .mutation m
  | statement s => .statement s.identified

/-! ## 4. Whole trees

Queries, mutations and statements, and that no two kinds of tree share a form. -/

/-- Queries have one form if they are equal up to the wildcard. -/
theorem Query.toJson_inj {q r : Query} : q.toJson = r.toJson ↔ q.identified = r.identified := by
  obtain ⟨⟨modalities, projections, aggregates⟩, source, filter, groupBy, having', proof, orderBy,
    limit, offset⟩ := q
  obtain ⟨⟨modalities', projections', aggregates'⟩, source', filter', groupBy', having'', proof',
    orderBy', limit', offset'⟩ := r
  simp [toJson, identified, Selected.map_toJson_inj,
    listOrNull_inj fun _ _ => Projection.toJson_inj, listOrNull_inj fun _ _ => Aggregate.toJson_inj,
    listOrNull_inj fun _ _ => ProofSpec.toJson_inj, listOrNull_inj fun _ _ => OrderItem.toJson_inj,
    and_assoc]

theorem Payload.toJson_inj {p q : Payload} : p.toJson = q.toJson ↔ p = q := by
  obtain ⟨modality, text⟩ := p
  obtain ⟨modality', text'⟩ := q
  simp [toJson]

theorem Assignment.toJson_inj {a b : Assignment} : a.toJson = b.toJson ↔ a = b := by
  obtain ⟨field, value⟩ := a
  obtain ⟨field', value'⟩ := b
  simp [toJson]

theorem Mutation.toJson_inj {m n : Mutation} : m.toJson = n.toJson ↔ m = n := by
  cases m <;> cases n <;>
    simp [toJson, Json.map_inj fun _ _ => Payload.toJson_inj,
      Json.map_inj fun _ _ => Assignment.toJson_inj, listOrNull_inj fun _ _ => ProofSpec.toJson_inj]

theorem Statement.toJson_inj {s t : Statement} :
    s.toJson = t.toJson ↔ s.identified = t.identified := by
  cases s <;> cases t <;> simp [toJson, identified, Query.toJson_inj, Mutation.toJson_inj]

/-- A bare query names no variant. -/
theorem Query.toJson_ne_tagged (q : Query) (tag : String) (members : List (String × Json)) :
    q.toJson ≠ tagged tag members := by
  simp [toJson, tagged]

/-- A mutation has one of three tags. -/
theorem Mutation.toJson_tagged (m : Mutation) :
    ∃ tag ∈ ["Insert", "Update", "Delete"], ∃ members, m.toJson = tagged tag members := by
  cases m <;> exact ⟨_, by decide, _, rfl⟩

/-- A statement has one of two tags. -/
theorem Statement.toJson_tagged (s : Statement) :
    ∃ tag ∈ ["Query", "Mutation"], ∃ members, s.toJson = tagged tag members := by
  cases s <;> exact ⟨_, by decide, _, rfl⟩

/-- So neither of them looks like a bare query. -/
theorem Mutation.toJson_ne_query (m : Mutation) (q : Query) : m.toJson ≠ q.toJson := by
  obtain ⟨tag, -, members, hm⟩ := m.toJson_tagged
  rw [hm]
  exact (q.toJson_ne_tagged tag members).symm

theorem Statement.toJson_ne_query (s : Statement) (q : Query) : s.toJson ≠ q.toJson := by
  obtain ⟨tag, -, members, hs⟩ := s.toJson_tagged
  rw [hs]
  exact (q.toJson_ne_tagged tag members).symm

/-- Nor does a statement look like a bare mutation. -/
theorem Statement.toJson_ne_mutation (s : Statement) (m : Mutation) : s.toJson ≠ m.toJson := by
  obtain ⟨tag, htag, members, hs⟩ := s.toJson_tagged
  obtain ⟨tag', htag', members', hm⟩ := m.toJson_tagged
  rw [hs, hm, Ne, tagged_inj]
  rintro ⟨rfl, -⟩
  revert htag htag'
  simp only [List.mem_cons, List.not_mem_nil, or_false]
  rintro (rfl | rfl) <;> decide

/-- Trees have one form if they are of one kind and equal up to the wildcard. -/
theorem Parsed.toJson_inj {p p' : Parsed} :
    p.toJson = p'.toJson ↔ p.identified = p'.identified := by
  cases p with
  | query q =>
    cases p' with
    | query q' => simp [toJson, identified, Query.toJson_inj]
    | mutation m => simpa [toJson, identified] using (m.toJson_ne_query q).symm
    | statement s => simpa [toJson, identified] using (s.toJson_ne_query q).symm
  | mutation m =>
    cases p' with
    | query q => simpa [toJson, identified] using m.toJson_ne_query q
    | mutation m' => simp [toJson, identified, Mutation.toJson_inj]
    | statement s => simpa [toJson, identified] using (s.toJson_ne_mutation m).symm
  | statement s =>
    cases p' with
    | query q => simpa [toJson, identified] using s.toJson_ne_query q
    | mutation m => simpa [toJson, identified] using s.toJson_ne_mutation m
    | statement s' => simp [toJson, identified, Statement.toJson_inj]

/-- **The wire text determines the tree**, up to the wildcard and a modality named `All` among
the selected modalities.  The compact text determines the value, and the value determines the
tree field by field; the wildcard is written as the text that the modality is written as. -/
theorem wire_text_eq_iff (p p' : Parsed) :
    p.toJson.compact = p'.toJson.compact ↔ p.identified = p'.identified := by
  rw [compact_injective.eq_iff, Parsed.toJson_inj]

end HexadQuery
