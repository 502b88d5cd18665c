/-
# Items that collect to a list

Collecting forgets how projections, aggregates and bare names were mixed; writing has to find an
order again.  The order need not be the one that was read, but it has to mention the modalities in
the same order, and it may write a name bare only where the name was written bare before, because a
registry need not know the modality of a projection.

`firstMentions` says what a sequence of items mentions, apart from what is `seen` already, and
`collect_eq` says that this and the two subsequences are all that collecting keeps.  `spread_spec`
follows `SelectList.spread` entry by entry: the invariant is that some sequence of items still
collects to what is left, and a step takes items out of that sequence which mention nothing new.

The invariant is `Pending`, and it has a sequence in it that is nowhere in the program: the items
as they were read, without those that have been written again.  It is what tells that a name was
bare.  If the next entry is mentioned first by an item that is neither the next projection nor the
next aggregate of a field, then that item is the bare name, since a projection that comes first
among those with a new modality is the next of all that are left (`Pending.bare_mem`).

A step has three parts, as the loop of `select_items` has: introduce the entry, by the next
projection, the next aggregate or the bare name; then write the projections that mention only what
has been seen; then the aggregates.  The aggregates of no field, `COUNT(*)`, mention nothing and
are written where they come.
-/
import HexadQuery.Statement.SelectList
import Mathlib.Data.List.TakeDrop
import Mathlib.Data.List.TakeWhile

namespace HexadQuery

namespace SelectItem

/-! ## 1. What items mention

An item mentions one entry or none.  `firstMentions` is the list of modalities that reading the
items would build, starting from one that holds what is seen. -/

/-- The entry an item mentions, if it mentions one. -/
def mentioned? : SelectItem → Option Selected
  | selected s => some s
  | projection p => some (.modality p.modality)
  | aggregate a => a.modality?.map .modality

/-- The projection, the aggregate: an item is one of them at most. -/
def projection? : SelectItem → Option Projection
  | selected _ => none
  | projection p => some p
  | aggregate _ => none

def aggregate? : SelectItem → Option Aggregate
  | selected _ => none
  | projection _ => none
  | aggregate a => some a

/-- No item is both. -/
theorem aggregate?_of_projection? {item : SelectItem} {p : Projection}
    (h : item.projection? = some p) : item.aggregate? = none := by
  cases item with
  | selected s => rfl
  | projection p => rfl
  | aggregate a => exact absurd h (by simp [projection?])

theorem projection?_of_aggregate? {item : SelectItem} {a : Aggregate}
    (h : item.aggregate? = some a) : item.projection? = none := by
  cases item with
  | selected s => rfl
  | projection p => exact absurd h (by simp [aggregate?])
  | aggregate a => rfl

/-- The item mentions nothing that has not been seen. -/
def Quiet (seen : List Selected) (item : SelectItem) : Prop :=
  ∀ entry, item.mentioned? = some entry → entry ∈ seen

/-- The entries a sequence mentions beyond those seen, first mention first. -/
def firstMentions (seen : List Selected) : List SelectItem → List Selected
  | [] => []
  | item :: items =>
    match item.mentioned? with
    | none => firstMentions seen items
    | some entry =>
      if entry ∈ seen then firstMentions seen items
      else entry :: firstMentions (seen ++ [entry]) items

variable {seen : List Selected}

/-- What mentions nothing new mentions nothing new when more has been seen. -/
theorem Quiet.mono {item : SelectItem} {more : List Selected} (h : item.Quiet seen)
    (hmore : ∀ entry ∈ seen, entry ∈ more) : item.Quiet more :=
  fun entry hentry => hmore entry (h entry hentry)

/-- A quiet item adds nothing. -/
theorem firstMentions_cons_quiet {item : SelectItem} (h : item.Quiet seen)
    (items : List SelectItem) : firstMentions seen (item :: items) = firstMentions seen items := by
  rw [firstMentions]
  cases hentry : item.mentioned? with
  | none => rfl
  | some entry => exact if_pos (h entry hentry)

/-- Any other adds the entry it mentions. -/
theorem firstMentions_cons_new {item : SelectItem} {entry : Selected}
    (hentry : item.mentioned? = some entry) (hnew : entry ∉ seen) (items : List SelectItem) :
    firstMentions seen (item :: items) = entry :: firstMentions (seen ++ [entry]) items := by
  rw [firstMentions, hentry]
  exact if_neg hnew

/-- Quiet items in front change nothing. -/
theorem firstMentions_append_quiet : ∀ {quiet : List SelectItem}, (∀ item ∈ quiet, item.Quiet seen) →
    ∀ items, firstMentions seen (quiet ++ items) = firstMentions seen items
  | [], _, _ => rfl
  | item :: quiet, h, items => by
    rw [List.cons_append, firstMentions_cons_quiet (h item List.mem_cons_self)]
    exact firstMentions_append_quiet (fun i hi => h i (List.mem_cons_of_mem _ hi)) items

/-- A sequence mentions something at its first item, beyond the quiet ones ahead of it. -/
theorem firstMentions_cons_iff : ∀ {items : List SelectItem} {seen : List Selected}
    {entry : Selected} {entries : List Selected}, firstMentions seen items = entry :: entries →
    ∃ quiet item later, items = quiet ++ item :: later ∧ (∀ i ∈ quiet, i.Quiet seen) ∧
      item.mentioned? = some entry ∧ entry ∉ seen ∧ firstMentions (seen ++ [entry]) later = entries
  | [], _, _, _, h => by simp [firstMentions] at h
  | item :: items, seen, entry, entries, h => by
    by_cases hquiet : item.Quiet seen
    · rw [firstMentions_cons_quiet hquiet] at h
      obtain ⟨quiet, first, later, rfl, hq, hentry, hnew, hlater⟩ := firstMentions_cons_iff h
      refine ⟨item :: quiet, first, later, rfl, ?_, hentry, hnew, hlater⟩
      intro i hi
      rcases List.mem_cons.mp hi with rfl | hi
      · exact hquiet
      · exact hq i hi
    · obtain ⟨e, he, hnew⟩ : ∃ e, item.mentioned? = some e ∧ e ∉ seen := by
        simpa [Quiet] using hquiet
      rw [firstMentions_cons_new he hnew, List.cons.injEq] at h
      obtain ⟨rfl, hlater⟩ := h
      exact ⟨[], item, items, rfl, by simp, he, hnew, hlater⟩

/-- Where nothing new is mentioned, all items are quiet. -/
theorem firstMentions_eq_nil : ∀ {items : List SelectItem} {seen : List Selected},
    firstMentions seen items = [] → ∀ item ∈ items, item.Quiet seen
  | [], _, _ => by simp
  | item :: items, seen, h => by
    by_cases hquiet : item.Quiet seen
    · rw [firstMentions_cons_quiet hquiet] at h
      intro i hi
      rcases List.mem_cons.mp hi with rfl | hi
      · exact hquiet
      · exact firstMentions_eq_nil h i hi
    · obtain ⟨e, he, hnew⟩ : ∃ e, item.mentioned? = some e ∧ e ∉ seen := by
        simpa [Quiet] using hquiet
      rw [firstMentions_cons_new he hnew] at h
      exact absurd h (by simp)

/-- Taking a quiet item out changes no mention. -/
theorem firstMentions_erase : ∀ {front : List SelectItem} {seen : List Selected}
    {item : SelectItem}, item.Quiet seen → ∀ back,
    firstMentions seen (front ++ item :: back) = firstMentions seen (front ++ back)
  | [], _, _, h, back => firstMentions_cons_quiet h back
  | first :: front, seen, item, h, back => by
    rw [List.cons_append, List.cons_append]
    by_cases hquiet : first.Quiet seen
    · rw [firstMentions_cons_quiet hquiet, firstMentions_cons_quiet hquiet]
      exact firstMentions_erase h back
    · obtain ⟨e, he, hnew⟩ : ∃ e, first.mentioned? = some e ∧ e ∉ seen := by
        simpa [Quiet] using hquiet
      rw [firstMentions_cons_new he hnew, firstMentions_cons_new he hnew]
      rw [firstMentions_erase (h.mono fun e he => List.mem_append_left _ he) back]

end SelectItem

open SelectItem

namespace SelectList

/-! ## 2. Collecting

Collecting is a fold, and its three components do not interfere. -/

/-- An entry is put down once. -/
theorem mention_eq (list : SelectList) (entry : Selected) :
    list.mention entry = { list with
      modalities := if entry ∈ list.modalities then list.modalities
        else list.modalities ++ [entry] } := by
  unfold mention
  by_cases h : entry ∈ list.modalities
  · rw [if_pos (List.contains_iff_mem.mpr h), if_pos h]
  · rw [if_neg (mt List.contains_iff_mem.mp h), if_neg h]

/-- **The fold, from any list**: what was there, and what the items add to it. -/
theorem foldl_add : ∀ (items : List SelectItem) (list : SelectList),
    items.foldl add list =
      ⟨list.modalities ++ firstMentions list.modalities items,
        list.projections ++ items.filterMap projection?,
        list.aggregates ++ items.filterMap aggregate?⟩
  | [], list => by simp [firstMentions]
  | item :: items, list => by
    rw [List.foldl_cons, foldl_add items]
    cases item with
    | selected s =>
      by_cases h : s ∈ list.modalities <;>
        simp [add, mention_eq, firstMentions, mentioned?, projection?, aggregate?, List.filterMap_cons, h]
    | projection p =>
      by_cases h : Selected.modality p.modality ∈ list.modalities <;>
        simp [add, mention_eq, firstMentions, mentioned?, projection?, aggregate?, List.filterMap_cons, h]
    | aggregate a =>
      cases ha : a.modality? with
      | none => simp [add, firstMentions, mentioned?, projection?, aggregate?, List.filterMap_cons, ha]
      | some m =>
        by_cases h : Selected.modality m ∈ list.modalities <;>
          simp [add, mention_eq, firstMentions, mentioned?, projection?, aggregate?, List.filterMap_cons, ha, h]

/-- **What collecting keeps**: the first mentions, the projections and the aggregates.  A field
and a call are added at the end of their lists, and a modality only if no item ahead mentions it. -/
theorem collect_eq (items : List SelectItem) :
    collect items =
      ⟨firstMentions [] items, items.filterMap projection?, items.filterMap aggregate?⟩ := by
  rw [collect, foldl_add]
  simp

/-! ## 3. Taking items out

The sequence of the invariant gets shorter: what has been written is taken out of it, one kind at a
time, and nothing else about it changes. -/

/-- Quiet items of one kind can be taken out from the front of that kind: the sequence that is left
has the other items, and mentions what it did. -/
theorem exists_without {β γ : Type} {kind : SelectItem → Option β} (other : SelectItem → Option γ)
    (seen : List Selected) (hkinds : ∀ item b, kind item = some b → other item = none) :
    ∀ {now later : List β} {items : List SelectItem}, items.filterMap kind = now ++ later →
      (∀ item, ∀ b ∈ now, kind item = some b → item.Quiet seen) →
      ∃ left, left.filterMap kind = later ∧ left.filterMap other = items.filterMap other ∧
        firstMentions seen left = firstMentions seen items ∧ ∀ item ∈ left, item ∈ items
  | [], later, items, h, _ => ⟨items, h, rfl, rfl, fun _ hitem => hitem⟩
  | b :: now, later, items, h, hquiet => by
    obtain ⟨front, item, back, rfl, hfront, hitem, hback⟩ := List.filterMap_eq_cons_iff.mp h
    have hshorter : (front ++ back).filterMap kind = now ++ later := by
      rw [List.filterMap_append, List.filterMap_eq_nil_iff.mpr hfront, List.nil_append]
      exact hback
    obtain ⟨left, hkind, hother, hmentions, hmem⟩ := exists_without other seen hkinds hshorter
      fun i b' hb' => hquiet i b' (List.mem_cons_of_mem _ hb')
    have hq : item.Quiet seen := hquiet item b List.mem_cons_self hitem
    refine ⟨left, hkind, ?_, ?_, ?_⟩
    · rw [hother, List.filterMap_append, List.filterMap_append, List.filterMap_cons,
        hkinds item b hitem]
    · rw [hmentions, firstMentions_erase hq]
    · intro i hi
      rcases List.mem_append.mp (hmem i hi) with hi | hi
      · exact List.mem_append_left _ hi
      · exact List.mem_append_right _ (List.mem_cons_of_mem _ hi)

/-- A projection is quiet exactly where the writer takes it for written. -/
theorem quiet_projection {seen : List Selected} {p : Projection} {item : SelectItem}
    (hitem : item.projection? = some p) :
    item.Quiet seen ↔ isWritten seen p.modality = true := by
  cases item with
  | selected s => simp [projection?] at hitem
  | aggregate a => simp [projection?] at hitem
  | projection p' =>
    obtain rfl : p' = p := by simpa [projection?] using hitem
    simp [Quiet, mentioned?, isWritten]

/-- And an aggregate exactly where the writer takes it for ready. -/
theorem quiet_aggregate {seen : List Selected} {a : Aggregate} {item : SelectItem}
    (hitem : item.aggregate? = some a) : item.Quiet seen ↔ isReady seen a = true := by
  cases item with
  | selected s => simp [aggregate?] at hitem
  | projection p => simp [aggregate?] at hitem
  | aggregate a' =>
    obtain rfl : a' = a := by simpa [aggregate?] using hitem
    cases ha : a'.modality? <;> simp [Quiet, mentioned?, isReady, isWritten, ha]

/-! ## 4. Introducing an entry

Which of the three ways is taken, and what it leaves.  `Introduces` says of any way what the
invariant needs to know of it. -/

/-- The entry that the next projection mentions. -/
def nextOfProjection (projections : List Projection) : Option Modality :=
  projections.head?.map (·.modality)

/-- The entry that the next aggregate of a field mentions. -/
def nextOfAggregate (aggregates : List Aggregate) : Option Modality :=
  aggregates.findSome? (·.modality?)

/-- What writes an entry: items that mention nothing, and one that mentions the entry.  It is bare
only where neither a projection nor an aggregate can introduce the entry. -/
structure Introduces (entry : Selected) (projections : List Projection)
    (aggregates : List Aggregate) (counts : List SelectItem) (item : SelectItem)
    (laterP : List Projection) (laterA : List Aggregate) : Prop where
  /-- what goes ahead mentions nothing -/
  silent : ∀ c ∈ counts, c.mentioned? = none
  /-- the item mentions the entry -/
  mentions : item.mentioned? = some entry
  /-- the projections are those written here and those that are left -/
  spendsP : (counts ++ [item]).filterMap projection? ++ laterP = projections
  /-- and so are the aggregates -/
  spendsA : (counts ++ [item]).filterMap aggregate? ++ laterA = aggregates
  /-- the item is bare only if neither list has the entry next -/
  bare : ∀ s, item = .selected s → ∀ m, entry = .modality m →
    nextOfProjection projections ≠ some m ∧ nextOfAggregate aggregates ≠ some m

/-- Items made of aggregates are these aggregates, and no projections; and the other way round. -/
theorem filterMap_aggregate (aggregates : List Aggregate) :
    (aggregates.map SelectItem.aggregate).filterMap aggregate? = aggregates := by
  rw [List.filterMap_map]
  exact List.filterMap_some

theorem filterMap_projection (projections : List Projection) :
    (projections.map SelectItem.projection).filterMap projection? = projections := by
  rw [List.filterMap_map]
  exact List.filterMap_some

theorem filterMap_aggregate_projection (projections : List Projection) :
    (projections.map SelectItem.projection).filterMap aggregate? = [] := by
  rw [List.filterMap_map]
  exact List.filterMap_eq_nil_iff.mpr fun _ _ => rfl

theorem filterMap_projection_aggregate (aggregates : List Aggregate) :
    (aggregates.map SelectItem.aggregate).filterMap projection? = [] := by
  rw [List.filterMap_map]
  exact List.filterMap_eq_nil_iff.mpr fun _ _ => rfl

/-- The bare name is the way that is left. -/
theorem introduces_bare {entry : Selected} {projections : List Projection}
    {aggregates : List Aggregate}
    (h : ∀ m, entry = .modality m →
      nextOfProjection projections ≠ some m ∧ nextOfAggregate aggregates ≠ some m) :
    Introduces entry projections aggregates [] (.selected entry) projections aggregates :=
  ⟨by simp, rfl, rfl, rfl, fun _ _ => h⟩

/-- The first aggregate of a field, and the `COUNT(*)`s ahead of it. -/
theorem nextOfAggregate_eq (aggregates : List Aggregate) :
    (∃ counts a later, aggregates.span (·.modality?.isNone) = (counts, a :: later) ∧
      aggregates = counts ++ a :: later ∧ (∀ c ∈ counts, c.modality? = none) ∧
      nextOfAggregate aggregates = a.modality?) ∨
    (aggregates.span (·.modality?.isNone) = (aggregates, []) ∧
      (∀ a ∈ aggregates, a.modality? = none) ∧ nextOfAggregate aggregates = none) := by
  have hspan := List.span_eq_takeWhile_dropWhile (p := fun a : Aggregate => a.modality?.isNone)
    (l := aggregates)
  have hjoin := List.takeWhile_append_dropWhile (p := fun a : Aggregate => a.modality?.isNone)
    (l := aggregates)
  have hcounts : ∀ c ∈ aggregates.takeWhile (·.modality?.isNone), c.modality? = none := by
    intro c hc
    simpa using List.mem_takeWhile_imp hc
  cases hdrop : aggregates.dropWhile (·.modality?.isNone) with
  | nil =>
    rw [hdrop, List.append_nil] at hjoin
    rw [hjoin] at hcounts
    refine Or.inr ⟨by rw [hspan, hdrop, hjoin], hcounts, ?_⟩
    exact List.findSome?_eq_none_iff.mpr hcounts
  | cons a later =>
    rw [hdrop] at hjoin
    refine Or.inl ⟨_, a, later, by rw [hspan, hdrop], hjoin.symm, hcounts, ?_⟩
    -- the span stops at the first call on a field, which is the one `findSome?` finds
    have ha := List.head?_dropWhile_not (fun a : Aggregate => a.modality?.isNone) aggregates
    rw [hdrop] at ha
    obtain ⟨m, hm⟩ : ∃ m, a.modality? = some m := Option.isSome_iff_exists.mp (by simpa using ha)
    rw [nextOfAggregate, ← hjoin, List.findSome?_append, List.findSome?_eq_none_iff.mpr hcounts]
    simp [hm]

/-- Where the next projection is of another modality, the next aggregate of a field decides. -/
theorem introduce_of_span {m : Modality} {projections : List Projection}
    {aggregates counts later : List Aggregate} {a : Aggregate}
    (hnext : nextOfProjection projections ≠ some m)
    (hspan : aggregates.span (·.modality?.isNone) = (counts, a :: later)) :
    introduce (.modality m) projections aggregates =
      if a.modality? = some m then ((counts ++ [a]).map .aggregate, projections, later)
      else ([.selected (.modality m)], projections, aggregates) := by
  cases projections with
  | nil => simp only [introduce, hspan]
  | cons p projections =>
    have hp : p.modality ≠ m := by simpa [nextOfProjection] using hnext
    simp only [introduce, hspan, if_neg hp]

/-- With no aggregate of a field left, the name is written bare. -/
theorem introduce_of_span_nil {m : Modality} {projections : List Projection}
    {aggregates counts : List Aggregate} (hnext : nextOfProjection projections ≠ some m)
    (hspan : aggregates.span (·.modality?.isNone) = (counts, [])) :
    introduce (.modality m) projections aggregates =
      ([.selected (.modality m)], projections, aggregates) := by
  cases projections with
  | nil => simp only [introduce, hspan]
  | cons p projections =>
    have hp : p.modality ≠ m := by simpa [nextOfProjection] using hnext
    simp only [introduce, hspan, if_neg hp]

/-- **An entry is introduced** by the next projection, else the next aggregate, else bare.
Counts that are ahead of the aggregate go with it, since their order among the aggregates has to
stay. -/
theorem introduce_spec (entry : Selected) (projections : List Projection)
    (aggregates : List Aggregate) :
    ∃ counts item laterP laterA,
      introduce entry projections aggregates = (counts ++ [item], laterP, laterA) ∧
      Introduces entry projections aggregates counts item laterP laterA := by
  cases entry with
  | all => exact ⟨[], _, _, _, rfl, introduces_bare (by simp)⟩
  | modality m =>
    by_cases hprojection : nextOfProjection projections = some m
    · obtain ⟨p, later, rfl, hp⟩ : ∃ p later, projections = p :: later ∧ p.modality = m := by
        cases projections with
        | nil => simp [nextOfProjection] at hprojection
        | cons p later => exact ⟨p, later, rfl, by simpa [nextOfProjection] using hprojection⟩
      refine ⟨[], .projection p, later, aggregates, by simp [introduce, hp], ?_⟩
      exact ⟨by simp, by simp [mentioned?, hp], rfl, rfl, by simp⟩
    · -- the name stands alone if neither list has it next
      have hbare : nextOfAggregate aggregates ≠ some m →
          Introduces (.modality m) projections aggregates [] (.selected (.modality m)) projections
            aggregates := by
        intro haggregate
        refine introduces_bare ?_
        rintro m' hm'
        obtain rfl : m = m' := by simpa using hm'
        exact ⟨hprojection, haggregate⟩
      rcases nextOfAggregate_eq aggregates with
        ⟨counts, a, later, hspan, haggregates, hcounts, hnext⟩ | ⟨hspan, -, hnext⟩
      · rw [introduce_of_span hprojection hspan]
        by_cases ha : a.modality? = some m
        · refine ⟨counts.map .aggregate, .aggregate a, projections, later, ?_, ?_, ?_, ?_, ?_, ?_⟩
          · simp [ha]
          · intro c hc
            obtain ⟨d, hd, rfl⟩ := List.mem_map.mp hc
            simp [mentioned?, hcounts d hd]
          · simp [mentioned?, ha]
          · rw [List.filterMap_append, filterMap_projection_aggregate]
            rfl
          · rw [List.filterMap_append, filterMap_aggregate, haggregates]
            simp [aggregate?]
          · simp
        · exact ⟨[], _, _, _, if_neg ha, hbare (by rw [hnext]; exact ha)⟩
      · rw [introduce_of_span_nil hprojection hspan]
        exact ⟨[], _, _, _, rfl, hbare (by simp [hnext])⟩

/-! ## 5. Spreading the entries

The step and the run. -/

/-- Some sequence of items collects to what is left, and what is next has not been seen. -/
structure Pending (seen : List Selected) (entries : List Selected) (projections : List Projection)
    (aggregates : List Aggregate) (items : List SelectItem) : Prop where
  /-- the entries are what the items mention and has not been written -/
  mentions : firstMentions seen items = entries
  /-- the projections are theirs -/
  fields : items.filterMap projection? = projections
  /-- the aggregates are theirs -/
  calls : items.filterMap aggregate? = aggregates
  /-- the next projection waits for an entry that is still to come -/
  nextP : ∀ m, nextOfProjection projections = some m → .modality m ∉ seen
  /-- and so does the next aggregate that mentions one -/
  nextA : ∀ m, nextOfAggregate aggregates = some m → .modality m ∉ seen

variable {seen entries : List Selected} {projections : List Projection}
  {aggregates : List Aggregate} {items : List SelectItem}

/-- Quiet items ahead of others hold no projection, if the next one is not seen. -/
theorem filterMap_projection_quiet (hquiet : ∀ item ∈ items, item.Quiet seen)
    {later : List Projection}
    (hnext : ∀ m, nextOfProjection (items.filterMap projection? ++ later) = some m →
      .modality m ∉ seen) : items.filterMap projection? = [] := by
  cases h : items.filterMap projection? with
  | nil => rfl
  | cons p more =>
    obtain ⟨item, hitem, hp⟩ := List.mem_filterMap.mp (h ▸ List.mem_cons_self : p ∈ _)
    refine absurd (hquiet item hitem _ ?_) (hnext p.modality (by rw [h]; rfl))
    cases item with
    | selected s => simp [projection?] at hp
    | aggregate a => simp [projection?] at hp
    | projection p' =>
      obtain rfl : p' = p := by simpa [projection?] using hp
      rfl

/-- Quiet items ahead of others hold no aggregate of a field, if the next one is not seen. -/
theorem filterMap_aggregate_quiet (hquiet : ∀ item ∈ items, item.Quiet seen)
    {later : List Aggregate}
    (hnext : ∀ m, nextOfAggregate (items.filterMap aggregate? ++ later) = some m →
      .modality m ∉ seen) : ∀ a ∈ items.filterMap aggregate?, a.modality? = none := by
  cases h : (items.filterMap aggregate?).findSome? (·.modality?) with
  | none => exact List.findSome?_eq_none_iff.mp h
  | some m =>
    obtain ⟨a, ha, hm⟩ := List.exists_of_findSome?_eq_some h
    obtain ⟨item, hitem, hitem'⟩ := List.mem_filterMap.mp ha
    refine absurd (hquiet item hitem (.modality m) ?_) (hnext m ?_)
    · cases item with
      | selected s => simp [aggregate?] at hitem'
      | projection p => simp [aggregate?] at hitem'
      | aggregate a' =>
        obtain rfl : a' = a := by simpa [aggregate?] using hitem'
        simp [mentioned?, hm]
    · rw [nextOfAggregate, List.findSome?_append, h]
      rfl

/-- A name is written bare only where it was. -/
theorem Pending.bare_mem {entry : Selected}
    (h : Pending seen (entry :: entries) projections aggregates items)
    (hbare : ∀ m, entry = .modality m →
      nextOfProjection projections ≠ some m ∧ nextOfAggregate aggregates ≠ some m) :
    .selected entry ∈ items := by
  obtain ⟨quiet, item, later, rfl, hquiet, hentry, -, -⟩ := firstMentions_cons_iff h.mentions
  obtain ⟨-, rfl, rfl, hnextP, hnextA⟩ := h
  rw [List.filterMap_append] at hnextP hnextA
  simp only [List.filterMap_append] at hbare
  have hnoP := filterMap_projection_quiet hquiet hnextP
  have hnoA := filterMap_aggregate_quiet hquiet hnextA
  -- the item that mentions the name first; were it a field or a call, its list would have it next
  cases item with
  | selected s =>
    obtain rfl : s = entry := by simpa [mentioned?] using hentry
    simp
  | projection p =>
    refine absurd ?_ (hbare p.modality (by simpa [mentioned?] using hentry.symm)).1
    rw [hnoP]
    rfl
  | aggregate a =>
    cases ha : a.modality? with
    | none => simp [mentioned?, ha] at hentry
    | some m =>
      refine absurd ?_ (hbare m (by simpa [mentioned?, ha] using hentry.symm)).2
      rw [nextOfAggregate, List.findSome?_append, List.findSome?_eq_none_iff.mpr hnoA]
      simp [aggregate?, ha]

/-- The items that introduce an entry mention nothing else. -/
theorem Introduces.quiet {entry : Selected} {counts : List SelectItem} {item : SelectItem}
    {laterP : List Projection} {laterA : List Aggregate}
    (h : Introduces entry projections aggregates counts item laterP laterA) :
    ∀ i ∈ counts ++ [item], i.Quiet (seen ++ [entry]) := by
  intro i hi e he
  rcases List.mem_append.mp hi with hi | hi
  · rw [h.silent i hi] at he
    exact absurd he (by simp)
  · obtain rfl : i = item := by simpa using hi
    rw [h.mentions, Option.some.injEq] at he
    simp [he]

/-- Behind the projections that are written the next one is new. -/
theorem nextOfProjection_dropWhile (seen : List Selected) (projections : List Projection) :
    ∀ m, nextOfProjection (projections.dropWhile fun p => isWritten seen p.modality) = some m →
      .modality m ∉ seen := by
  intro m hm hmem
  have hnot := List.head?_dropWhile_not (fun p : Projection => isWritten seen p.modality) projections
  obtain ⟨p, hp, rfl⟩ := Option.map_eq_some_iff.mp hm
  rw [hp] at hnot
  simp [isWritten, hmem] at hnot

/-- And so is the next aggregate of a field. -/
theorem nextOfAggregate_dropWhile (seen : List Selected) (aggregates : List Aggregate) :
    ∀ m, nextOfAggregate (aggregates.dropWhile (isReady seen)) = some m → .modality m ∉ seen := by
  intro m hm hmem
  have hnot := List.head?_dropWhile_not (isReady seen) aggregates
  cases hlist : aggregates.dropWhile (isReady seen) with
  | nil => simp [hlist, nextOfAggregate] at hm
  | cons a later =>
    rw [hlist] at hnot hm
    cases ha : a.modality? with
    | none => simp [isReady, ha] at hnot
    | some m' =>
      obtain rfl : m' = m := by simpa [nextOfAggregate, ha] using hm
      simp [isReady, ha, isWritten, hmem] at hnot

/-- **One entry of a spreading**: what is left after it is pending again.  What it writes are an
item that mentions the entry and others that mention nothing new, so the items which are left
mention the other entries. -/
theorem Pending.step {entry : Selected} {counts : List SelectItem} {item : SelectItem}
    {laterP : List Projection} {laterA : List Aggregate}
    (h : Pending seen (entry :: entries) projections aggregates items)
    (hintro : Introduces entry projections aggregates counts item laterP laterA) :
    ∃ left, Pending (seen ++ [entry]) entries
        (laterP.dropWhile fun p => isWritten (seen ++ [entry]) p.modality)
        (laterA.dropWhile (isReady (seen ++ [entry]))) left ∧
      ∀ i ∈ left, i ∈ items := by
  have hseen : firstMentions (seen ++ [entry]) items = entries := by
    obtain ⟨quiet, first, later, rfl, hquiet, hentry, -, hlater⟩ :=
      firstMentions_cons_iff h.mentions
    have hfirst : first.Quiet (seen ++ [entry]) := by
      intro e he
      rw [hentry, Option.some.injEq] at he
      simp [he]
    rw [firstMentions_append_quiet fun i hi => (hquiet i hi).mono fun e he =>
      List.mem_append_left _ he, firstMentions_cons_quiet hfirst, hlater]
  -- what is written in this step, and what is left: the item, then the fields whose modality is
  -- mentioned by now
  have hsplitP : items.filterMap projection? =
      ((counts ++ [item]).filterMap projection? ++
        laterP.takeWhile fun p => isWritten (seen ++ [entry]) p.modality) ++
      laterP.dropWhile fun p => isWritten (seen ++ [entry]) p.modality := by
    rw [h.fields, ← hintro.spendsP, List.append_assoc, List.takeWhile_append_dropWhile]
  have hsplitA : items.filterMap aggregate? =
      ((counts ++ [item]).filterMap aggregate? ++ laterA.takeWhile (isReady (seen ++ [entry]))) ++
      laterA.dropWhile (isReady (seen ++ [entry])) := by
    rw [h.calls, ← hintro.spendsA, List.append_assoc, List.takeWhile_append_dropWhile]
  -- first the written fields are taken out of the items, then the written calls; none of them has a
  -- mention of its own left, so the mentions stay
  obtain ⟨mid, hmidP, hmidA, hmid, hmemMid⟩ := exists_without aggregate? (seen ++ [entry])
    (fun i p hp => aggregate?_of_projection? hp) hsplitP (by
      intro i p hp hi
      rw [quiet_projection hi]
      rcases List.mem_append.mp hp with hp | hp
      · obtain ⟨j, hj, hjp⟩ := List.mem_filterMap.mp hp
        exact (quiet_projection hjp).mp (hintro.quiet j hj)
      · simpa using List.mem_takeWhile_imp hp)
  obtain ⟨left, hleftA, hleftP, hleft, hmemLeft⟩ := exists_without projection? (seen ++ [entry])
    (fun i a ha => projection?_of_aggregate? ha) (hmidA.trans hsplitA) (by
      intro i a ha hi
      rw [quiet_aggregate hi]
      rcases List.mem_append.mp ha with ha | ha
      · obtain ⟨j, hj, hja⟩ := List.mem_filterMap.mp ha
        exact (quiet_aggregate hja).mp (hintro.quiet j hj)
      · exact List.mem_takeWhile_imp ha)
  exact ⟨left, ⟨hleft.trans (hmid.trans hseen), hleftP.trans hmidP, hleftA,
    nextOfProjection_dropWhile _ _, nextOfAggregate_dropWhile _ _⟩,
    fun i hi => hmemMid i (hmemLeft i hi)⟩

/-- What is written at one entry collects to the entry, and to what it takes. -/
theorem spread_cons {entry : Selected} {counts : List SelectItem} {item : SelectItem}
    {laterP : List Projection} {laterA : List Aggregate}
    (heq : introduce entry projections aggregates = (counts ++ [item], laterP, laterA)) :
    spread seen (entry :: entries) projections aggregates =
      (counts ++ [item]) ++
        ((laterP.takeWhile fun p => isWritten (seen ++ [entry]) p.modality).map .projection ++
          ((laterA.takeWhile (isReady (seen ++ [entry]))).map .aggregate ++
            spread (seen ++ [entry]) entries
              (laterP.dropWhile fun p => isWritten (seen ++ [entry]) p.modality)
              (laterA.dropWhile (isReady (seen ++ [entry]))))) := by
  rw [spread, heq]
  simp [List.span_eq_takeWhile_dropWhile]

/-- With nothing left to mention, no projection is left, and no aggregate of a field. -/
theorem Pending.exhausted (h : Pending seen [] projections aggregates items) :
    projections = [] ∧ ∀ a ∈ aggregates, a.modality? = none := by
  have hquiet := firstMentions_eq_nil h.mentions
  obtain ⟨-, rfl, rfl, hnextP, hnextA⟩ := h
  rw [← List.append_nil (items.filterMap projection?)] at hnextP
  rw [← List.append_nil (items.filterMap aggregate?)] at hnextA
  exact ⟨filterMap_projection_quiet hquiet hnextP, filterMap_aggregate_quiet hquiet hnextA⟩

/-- **The run of a spreading**: whatever is pending collects again, and no name becomes bare.
The induction is on the modalities that are left to write. -/
theorem spread_spec : ∀ (entries : List Selected) {seen : List Selected}
    {projections : List Projection} {aggregates : List Aggregate} {items : List SelectItem},
    Pending seen entries projections aggregates items →
    firstMentions seen (spread seen entries projections aggregates) = entries ∧
      (spread seen entries projections aggregates).filterMap projection? = projections ∧
      (spread seen entries projections aggregates).filterMap aggregate? = aggregates ∧
      ∀ s, .selected s ∈ spread seen entries projections aggregates → .selected s ∈ items
  | [], seen, projections, aggregates, items, h => by
    obtain ⟨rfl, hnoA⟩ := h.exhausted
    have hsilent : ∀ i ∈ aggregates.map SelectItem.aggregate, i.Quiet seen := by
      intro i hi e he
      obtain ⟨a, ha, rfl⟩ := List.mem_map.mp hi
      simp [mentioned?, hnoA a ha] at he
    refine ⟨?_, ?_, ?_, ?_⟩
    · have := firstMentions_append_quiet hsilent []
      rwa [List.append_nil] at this
    · exact filterMap_projection_aggregate aggregates
    · exact filterMap_aggregate aggregates
    · intro s hs
      simp [spread] at hs
  | entry :: entries, seen, projections, aggregates, items, h => by
    obtain ⟨counts, item, laterP, laterA, heq, hintro⟩ :=
      introduce_spec entry projections aggregates
    obtain ⟨left, hleft, hmem⟩ := h.step hintro
    obtain ⟨hmentions, hfields, hcalls, hbare⟩ := spread_spec entries hleft
    have hnew : entry ∉ seen := by
      obtain ⟨-, -, -, -, -, -, hnew, -⟩ := firstMentions_cons_iff h.mentions
      exact hnew
    rw [spread_cons heq]
    refine ⟨?_, ?_, ?_, ?_⟩
    · -- the counts and what was written behind the item mention nothing new; the item mentions the
      -- name
      rw [List.append_assoc, List.singleton_append,
        firstMentions_append_quiet fun i hi e he => by simp [hintro.silent i hi] at he,
        firstMentions_cons_new hintro.mentions hnew, firstMentions_append_quiet,
        firstMentions_append_quiet, hmentions]
      · intro i hi
        obtain ⟨a, ha, rfl⟩ := List.mem_map.mp hi
        exact (quiet_aggregate rfl).mpr (List.mem_takeWhile_imp ha)
      · intro i hi
        obtain ⟨p, hp, rfl⟩ := List.mem_map.mp hi
        exact (quiet_projection rfl).mpr (by simpa using List.mem_takeWhile_imp hp)
    · rw [← hintro.spendsP]
      simp only [List.filterMap_append, filterMap_projection, filterMap_projection_aggregate, hfields,
        List.nil_append, List.takeWhile_append_dropWhile]
    · rw [← hintro.spendsA]
      simp only [List.filterMap_append, filterMap_aggregate_projection, filterMap_aggregate, hcalls,
        List.nil_append, List.takeWhile_append_dropWhile]
    · intro s hs
      simp only [List.mem_append, List.mem_singleton, List.mem_map, reduceCtorEq, and_false,
        exists_false, false_or] at hs
      rcases hs with (hs | hs) | hs
      · exact absurd (hintro.silent _ hs) (by simp [mentioned?])
      · have hentry := hintro.mentions
        rw [← hs] at hentry
        obtain rfl : s = entry := by simpa [mentioned?] using hentry
        exact h.bare_mem (hintro.bare s hs.symm)
      · exact hmem _ (hbare s hs)

/-- **Items are written that collect to the list they were collected to**, and no item is written
that was not: above all, no name is written bare that was not. -/
theorem collect_items (xs : List SelectItem) :
    collect (collect xs).items = collect xs ∧ ∀ item ∈ (collect xs).items, item ∈ xs := by
  have hpending : Pending [] (collect xs).modalities (collect xs).projections
      (collect xs).aggregates xs := by
    rw [collect_eq]
    exact ⟨rfl, rfl, rfl, by simp, by simp⟩
  obtain ⟨hmentions, hfields, hcalls, hbare⟩ := spread_spec _ hpending
  refine ⟨by rw [collect_eq (collect xs).items, items, hmentions, hfields, hcalls], ?_⟩
  have hP : (collect xs).items.filterMap projection? = xs.filterMap projection? :=
    hfields.trans (by rw [collect_eq])
  have hA : (collect xs).items.filterMap aggregate? = xs.filterMap aggregate? :=
    hcalls.trans (by rw [collect_eq])
  intro item hitem
  cases item with
  | selected s => exact hbare s hitem
  | projection p =>
    have hp : p ∈ xs.filterMap projection? :=
      hP ▸ List.mem_filterMap.mpr ⟨_, hitem, rfl⟩
    obtain ⟨x, hx, hxp⟩ := List.mem_filterMap.mp hp
    cases x with
    | selected s => simp [projection?] at hxp
    | projection p' => rwa [← Option.some.inj hxp]
    | aggregate a => simp [projection?] at hxp
  | aggregate a =>
    have ha : a ∈ xs.filterMap aggregate? :=
      hA ▸ List.mem_filterMap.mpr ⟨_, hitem, rfl⟩
    obtain ⟨x, hx, hxa⟩ := List.mem_filterMap.mp ha
    cases x with
    | selected s => simp [aggregate?] at hxa
    | projection p => simp [aggregate?] at hxa
    | aggregate a' => rwa [← Option.some.inj hxa]

/-- Nothing is written for a list exactly if it mentions nothing and holds no aggregate.  The
items collect to the list again, and each kind of item leaves something there. -/
theorem items_collect_eq_nil {xs : List SelectItem} :
    (collect xs).items = [] ↔ (collect xs).modalities = [] ∧ (collect xs).aggregates = [] := by
  constructor
  · intro h
    have heq := (collect_items xs).1
    rw [h] at heq
    rw [← heq]
    exact ⟨rfl, rfl⟩
  · rintro ⟨hm, ha⟩
    rw [List.eq_nil_iff_forall_not_mem]
    intro item hitem
    have hmem := (collect_items xs).2 item hitem
    rw [collect_eq] at hm ha
    have hquiet := firstMentions_eq_nil hm item hmem
    cases item with
    | selected s => exact absurd (hquiet s rfl) (by simp)
    | projection p => exact absurd (hquiet _ rfl) (by simp)
    | aggregate a =>
      have : a ∈ xs.filterMap aggregate? := List.mem_filterMap.mpr ⟨_, hmem, rfl⟩
      rw [show xs.filterMap aggregate? = [] from ha] at this
      exact absurd this (by simp)

end SelectList

end HexadQuery
