/-
# A SELECT list written by index

`SelectList.items` takes projections and aggregates off the front of what is left of them.  The
same items can be written with the lists left whole and two indices that move through them: look at
the element an index stands at, look ahead from it, and copy a stretch of the list.  That is how
`select_items` of the source goes about it, with slices that would fail behind the end of a list,
so `walk?` checks them all and yields nothing where one fails.

None ever does, for any list whatever (`walk?_eq`): the indices stay in range, and what is behind
them is what `spread` has left.  The induction is on the entries, with the entries passed so far as
the slice in front.

The lists need not come from a text.  A query that was put together by other means may have
modalities that no projection mentions and projections whose modality is not in the list; nothing
fails there either, and what is written is still all projections, all aggregates and some of the
entries.

The other half says what is written: all projections, all aggregates and some of the entries, each
kind in its own order (`interleaves_items`).  It needs no sequence of items that the list was
collected from; where there is one, `collect_items` says that it is found again.
-/
import HexadQuery.Proofs.SelectItems

namespace HexadQuery

/-! ## 1. Checked reads

Slices and loops over indices, as functions of a list and an index.  Each is brought back to a
function on what is behind the index, and from there on no index is computed with. -/

section Slices

variable {α : Type}

/-- The elements from index `i` on; the index may stand at the end, not behind it. -/
def sliceFrom? (list : List α) (i : Nat) : Option (List α) :=
  if i ≤ list.length then some (list.drop i) else none

/-- The elements from index `i` to index `j`, both included. -/
def slice? (list : List α) (i j : Nat) : Option (List α) :=
  if i ≤ j + 1 ∧ j < list.length then some ((list.drop i).take (j + 1 - i)) else none

/-- The elements from index `i` on that pass a test, up to the first that does not, and the index
behind them. -/
def takeFrom (test : α → Bool) (list : List α) (i : Nat) : List α × Nat :=
  if h : i < list.length then
    if test list[i] then
      let (taken, j) := takeFrom test list (i + 1)
      (list[i] :: taken, j)
    else ([], i)
  else ([], i)
termination_by list.length - i

/-- In range there is something to read. -/
theorem sliceFrom?_eq {list : List α} {i : Nat} (h : i ≤ list.length) :
    sliceFrom? list i = some (list.drop i) := if_pos h

theorem slice?_eq {list : List α} {i j : Nat} (hi : i ≤ j + 1) (hj : j < list.length) :
    slice? list i j = some ((list.drop i).take (j + 1 - i)) := if_pos ⟨hi, hj⟩

/-- A loop that copies while a test holds is a `takeWhile`, and it moves as far as it copies. -/
theorem takeFrom_eq (test : α → Bool) (list : List α) (i : Nat) :
    takeFrom test list i =
      ((list.drop i).takeWhile test, i + ((list.drop i).takeWhile test).length) := by
  fun_induction takeFrom test list i with
  | case1 i h htest taken j hrest ih =>
    rw [List.drop_eq_getElem_cons h, List.takeWhile_cons_of_pos htest]
    rw [ih] at hrest
    obtain ⟨rfl, rfl⟩ := Prod.mk.inj hrest
    simp only [List.length_cons, Prod.mk.injEq, true_and]
    omega
  | case2 i h htest =>
    rw [List.drop_eq_getElem_cons h, List.takeWhile_cons_of_neg htest]
    rfl
  | case3 i h =>
    rw [List.drop_eq_nil_of_le (by omega)]
    rfl

/-- Behind the elements taken is what `dropWhile` leaves. -/
theorem drop_takeFrom (test : α → Bool) (list : List α) (i : Nat) :
    list.drop (takeFrom test list i).2 = (list.drop i).dropWhile test := by
  have hjoin := congrArg (List.drop ((list.drop i).takeWhile test).length)
    (List.takeWhile_append_dropWhile (p := test) (l := list.drop i))
  rw [List.drop_left] at hjoin
  rw [takeFrom_eq, hjoin, List.drop_drop]

/-- It stops at the end of the list at the latest. -/
theorem takeFrom_le (test : α → Bool) {list : List α} {i : Nat} (h : i ≤ list.length) :
    (takeFrom test list i).2 ≤ list.length := by
  have hle := (List.takeWhile_sublist test (l := list.drop i)).length_le
  rw [List.length_drop] at hle
  rw [takeFrom_eq]
  omega

/-- Looking ahead for the first element that passes a test cuts a list where passing over the others
does. -/
theorem span_of_findIdx? {test : α → Bool} {list : List α} {k : Nat}
    (h : list.findIdx? test = some k) : ∃ a, list[k]? = some a ∧
      list.span (fun b => !test b) = (list.take k, a :: list.drop (k + 1)) := by
  obtain ⟨hlt, ha, hbefore⟩ := List.findIdx?_eq_some_iff_getElem.mp h
  have htake : ∀ b ∈ list.take k, (!test b) = true := by
    intro b hb
    obtain ⟨j, hj, rfl⟩ := List.mem_take_iff_getElem.mp hb
    simpa using hbefore j (by omega)
  have hsplit : list.take k ++ list[k] :: list.drop (k + 1) = list := by
    rw [List.cons_getElem_drop_succ, List.take_append_drop]
  refine ⟨list[k], List.getElem?_eq_getElem hlt, ?_⟩
  rw [List.span_eq_takeWhile_dropWhile]
  conv_lhs => rw [← hsplit]
  rw [List.takeWhile_append_of_pos htake, List.dropWhile_append_of_pos htake]
  simp [ha]

/-- If the search finds nothing, all is passed over. -/
theorem span_of_findIdx?_none {test : α → Bool} {list : List α} (h : list.findIdx? test = none) :
    list.span (fun b => !test b) = (list, []) := by
  have hall : ∀ b ∈ list, (!test b) = true := by simpa [List.findIdx?_eq_none_iff] using h
  rw [List.span_eq_takeWhile_dropWhile, List.takeWhile_eq_self_iff.mpr hall,
    List.dropWhile_eq_nil_iff.mpr hall]

end Slices

namespace SelectList

/-! ## 2. The walk

The function of the source, read by read.  The steps that copy take what mentions nothing new. -/

/-- Where a walk stands: the indices of the next projection and the next aggregate. -/
structure Cursors where
  projection : Nat := 0
  aggregate : Nat := 0

/-- The items that mention one entry, and where the walk stands behind them.  An entry is
introduced by the projection the walk stands at, or by the first aggregate of a field from there on,
or bare. -/
def introduceAt? (list : SelectList) (here : Cursors) :
    Selected → Option (List SelectItem × Cursors)
  | .all => some ([.selected .all], here)
  | .modality modality =>
    let bare := ([.selected (.modality modality)], here)
    if list.projections[here.projection]?.any (·.modality = modality) then do
      let projection ← list.projections[here.projection]?
      return ([.projection projection], { here with projection := here.projection + 1 })
    else do
      let left ← sliceFrom? list.aggregates here.aggregate
      match left.findIdx? (·.modality?.isSome) with
      | none => return bare
      | some ahead =>
        let next ← list.aggregates[here.aggregate + ahead]?
        if next.modality? = some modality then
          let run ← slice? list.aggregates here.aggregate (here.aggregate + ahead)
          return (run.map .aggregate, { here with aggregate := here.aggregate + ahead + 1 })
        else return bare

/-- Write the entries from index `index` on. -/
def walk? (list : SelectList) (index : Nat) (here : Cursors) :
    List Selected → Option (List SelectItem)
  | [] => do
    let projections ← sliceFrom? list.projections here.projection
    let aggregates ← sliceFrom? list.aggregates here.aggregate
    return projections.map .projection ++ aggregates.map .aggregate
  | entry :: entries => do
    let (items, here) ← introduceAt? list here entry
    let seen ← slice? list.modalities 0 index
    let (nowP, projection) :=
      takeFrom (fun p => isWritten seen p.modality) list.projections here.projection
    let (nowA, aggregate) := takeFrom (isReady seen) list.aggregates here.aggregate
    let rest ← walk? list (index + 1) ⟨projection, aggregate⟩ entries
    return items ++ nowP.map .projection ++ nowA.map .aggregate ++ rest

/-- The items of a list, written by index; nothing if an index is out of range. -/
def itemsByIndex? (list : SelectList) : Option (List SelectItem) :=
  walk? list 0 {} list.modalities

/-! ## 3. No index is out of range

The invariant is that both indices stand in their lists.  One entry keeps it, and so do the entries
in a row. -/

/-- Both indices stand within their lists, or at the ends. -/
structure Cursors.InRange (here : Cursors) (list : SelectList) : Prop where
  projection : here.projection ≤ list.projections.length
  aggregate : here.aggregate ≤ list.aggregates.length

variable {list : SelectList} {here : Cursors}

/-- The next projection is the one the index stands at. -/
theorem nextOfProjection_drop (here : Cursors) (list : SelectList) :
    nextOfProjection (list.projections.drop here.projection) =
      list.projections[here.projection]?.map (·.modality) := by
  rw [nextOfProjection, List.head?_drop]

/-- **One entry of a walk** writes what `introduce` does, and stands at what that leaves. -/
theorem introduceAt?_eq (h : here.InRange list) (entry : Selected) : ∃ there : Cursors,
    introduceAt? list here entry =
      some ((introduce entry (list.projections.drop here.projection)
        (list.aggregates.drop here.aggregate)).1, there) ∧
    (introduce entry (list.projections.drop here.projection)
        (list.aggregates.drop here.aggregate)).2 =
      (list.projections.drop there.projection, list.aggregates.drop there.aggregate) ∧
    there.InRange list := by
  cases entry with
  | all => exact ⟨here, rfl, rfl, h⟩
  | modality m =>
    by_cases hnext : nextOfProjection (list.projections.drop here.projection) = some m
    · rw [nextOfProjection_drop] at hnext
      obtain ⟨p, hp, rfl⟩ := Option.map_eq_some_iff.mp hnext
      obtain ⟨hlt, hget⟩ := List.getElem?_eq_some_iff.mp hp
      refine ⟨{ here with projection := here.projection + 1 }, ?_, ?_, hlt, h.aggregate⟩
      · simp [introduceAt?, hp, introduce, List.drop_eq_getElem_cons hlt, hget]
      · simp [introduce, List.drop_eq_getElem_cons hlt, hget]
    · have hany : list.projections[here.projection]?.any (·.modality = m) = false := by
        rw [nextOfProjection_drop] at hnext
        cases hp : list.projections[here.projection]? with
        | none => rfl
        | some p => simpa [hp] using hnext
      have hnot : (fun a : Aggregate => !a.modality?.isSome) = fun a => a.modality?.isNone := by
        funext a
        exact Option.not_isSome _
      cases hfind : (list.aggregates.drop here.aggregate).findIdx? (·.modality?.isSome) with
      | none =>
        have hspan := span_of_findIdx?_none hfind
        rw [hnot] at hspan
        rw [introduce_of_span_nil hnext hspan]
        refine ⟨here, ?_, rfl, h⟩
        simp [introduceAt?, hany, sliceFrom?_eq h.aggregate, hfind]
      | some ahead =>
        obtain ⟨a, ha, hspan⟩ := span_of_findIdx? hfind
        rw [hnot] at hspan
        have hget : list.aggregates[here.aggregate + ahead]? = some a := by
          rw [← List.getElem?_drop, ha]
        have hlt := (List.getElem?_eq_some_iff.mp hget).1
        rw [introduce_of_span hnext hspan]
        by_cases hm : a.modality? = some m
        · refine ⟨{ here with aggregate := here.aggregate + ahead + 1 }, ?_, ?_, h.projection, hlt⟩
          · -- the slice up to the call and the call are what the list has in front of the new index
            have hrun : slice? list.aggregates here.aggregate (here.aggregate + ahead) = some _ :=
              slice?_eq (by omega) hlt
            have htake : (list.aggregates.drop here.aggregate).take (ahead + 1) =
                (list.aggregates.drop here.aggregate).take ahead ++ [a] := by
              rw [List.take_add_one, ha]
              rfl
            rw [Nat.add_assoc, Nat.add_sub_cancel_left, htake] at hrun
            simp [introduceAt?, hany, sliceFrom?_eq h.aggregate, hfind, hget, hm, hrun]
          · simp [hm, Nat.add_assoc]
        · -- the call is on a field of another modality, so the index stays
          refine ⟨here, ?_, by simp [hm], h⟩
          simp [introduceAt?, hany, sliceFrom?_eq h.aggregate, hfind, hget, hm]

/-- **The run of a walk**: from any place in range it writes what `spread` does with the lists from
there on, and no index leaves its list. -/
theorem walk?_eq : ∀ (entries written : List Selected) (here : Cursors),
    list.modalities = written ++ entries → here.InRange list →
    walk? list written.length here entries =
      some (spread written entries (list.projections.drop here.projection)
        (list.aggregates.drop here.aggregate))
  | [], written, here, _, h => by
    simp [walk?, sliceFrom?_eq h.projection, sliceFrom?_eq h.aggregate, spread]
  | entry :: entries, written, here, hlist, h => by
    obtain ⟨there, hitems, hleft, hthere⟩ := introduceAt?_eq h entry
    obtain ⟨counts, item, laterP, laterA, hintroduce, -⟩ :=
      introduce_spec entry (list.projections.drop here.projection)
        (list.aggregates.drop here.aggregate)
    rw [hintroduce] at hitems hleft
    obtain ⟨rfl, rfl⟩ := Prod.mk.inj hleft
    have hsplit : list.modalities = (written ++ [entry]) ++ entries := by simp [hlist]
    have hseen : slice? list.modalities 0 written.length = some (written ++ [entry]) := by
      rw [slice?_eq (by omega) (by simp [hlist]), hsplit, List.drop_zero, Nat.sub_zero,
        List.take_left' (by simp)]
    have hrest := walk?_eq entries (written ++ [entry]) ⟨_, _⟩ hsplit
      ⟨takeFrom_le (fun p => isWritten (written ++ [entry]) p.modality) hthere.projection,
        takeFrom_le (isReady (written ++ [entry])) hthere.aggregate⟩
    rw [List.length_append, List.length_singleton, drop_takeFrom, drop_takeFrom,
      takeFrom_eq, takeFrom_eq] at hrest
    rw [spread_cons hintroduce]
    simp [walk?, hitems, hseen, hrest, takeFrom_eq]

/-- **No index is out of range**, whatever the list.  The walk starts in range and stays there,
and what it writes and leaves at the end is what the lists have. -/
theorem itemsByIndex?_eq (list : SelectList) : itemsByIndex? list = some list.items :=
  walk?_eq list.modalities [] {} rfl ⟨Nat.zero_le _, Nat.zero_le _⟩

/-! ## 4. What is written

Three subsequences.  The projections and aggregates are written in full; of the entries, those that
neither a projection nor an aggregate introduces. -/

end SelectList

/-- The entry an item writes bare, if it does. -/
def SelectItem.selected? : SelectItem → Option Selected
  | selected s => some s
  | projection _ => none
  | aggregate _ => none

/-- Items that are the parts of a list and nothing else: its projections in order, its aggregates in
order and some of its entries in order, each written once. -/
structure Interleaves (items : List SelectItem) (list : SelectList) : Prop where
  /-- all projections, in order -/
  projections : items.filterMap SelectItem.projection? = list.projections
  /-- all aggregates, in order -/
  aggregates : items.filterMap SelectItem.aggregate? = list.aggregates
  /-- and of the modalities those that are written by themselves, in order -/
  bare : (items.filterMap SelectItem.selected?).Sublist list.modalities

namespace SelectList

open SelectItem

/-- Projections and aggregates write nothing bare. -/
theorem filterMap_selected_parts (projections : List Projection) (aggregates : List Aggregate)
    (items : List SelectItem) :
    (projections.map SelectItem.projection ++
      (aggregates.map SelectItem.aggregate ++ items)).filterMap selected? =
        items.filterMap selected? := by
  have hprojections : (projections.map SelectItem.projection).filterMap selected? = [] := by
    rw [List.filterMap_map]
    exact List.filterMap_eq_nil_iff.mpr fun _ _ => rfl
  have haggregates : (aggregates.map SelectItem.aggregate).filterMap selected? = [] := by
    rw [List.filterMap_map]
    exact List.filterMap_eq_nil_iff.mpr fun _ _ => rfl
  rw [List.filterMap_append, List.filterMap_append, hprojections, haggregates, List.nil_append,
    List.nil_append]

/-- What introduces an entry writes it bare or not at all, and no other entry. -/
theorem Introduces.selected {entry : Selected} {projections laterP : List Projection}
    {aggregates laterA : List Aggregate} {counts : List SelectItem} {item : SelectItem}
    (h : Introduces entry projections aggregates counts item laterP laterA) :
    ((counts ++ [item]).filterMap selected?).Sublist [entry] := by
  have hcounts : counts.filterMap selected? = [] := by
    refine List.filterMap_eq_nil_iff.mpr fun c hc => ?_
    cases c with
    | selected s => exact absurd (h.silent _ hc) (by simp [mentioned?])
    | projection p => rfl
    | aggregate a => rfl
  rw [List.filterMap_append, hcounts, List.nil_append]
  cases item with
  | selected s =>
    obtain rfl : s = entry := by simpa [mentioned?] using h.mentions
    exact List.Sublist.refl _
  | projection p => exact List.nil_sublist _
  | aggregate a => exact List.nil_sublist _

/-- Spreading writes all projections, all aggregates and some of the entries, in their orders.
What one name writes is in front of what the others write of what it leaves. -/
theorem interleaves_spread (entries : List Selected) : ∀ (seen : List Selected)
    (projections : List Projection) (aggregates : List Aggregate),
    Interleaves (spread seen entries projections aggregates)
      ⟨entries, projections, aggregates⟩ := by
  induction entries with
  | nil =>
    intro seen projections aggregates
    constructor
    case projections =>
      rw [spread, List.filterMap_append, filterMap_projection, filterMap_projection_aggregate,
        List.append_nil]
    case aggregates =>
      rw [spread, List.filterMap_append, filterMap_aggregate, filterMap_aggregate_projection,
        List.nil_append]
    case bare =>
      have hnone := filterMap_selected_parts projections aggregates []
      rw [List.append_nil, List.filterMap_nil] at hnone
      exact List.sublist_nil.mpr hnone
  | cons entry entries ih =>
    intro seen projections aggregates
    obtain ⟨counts, item, laterP, laterA, heq, hintro⟩ :=
      introduce_spec entry projections aggregates
    obtain ⟨hprojections, haggregates, hbare⟩ := ih (seen ++ [entry])
      (laterP.dropWhile fun p => isWritten (seen ++ [entry]) p.modality)
      (laterA.dropWhile (isReady (seen ++ [entry])))
    rw [spread_cons heq]
    constructor
    case projections =>
      rw [← hintro.spendsP]
      simp only [List.filterMap_append, filterMap_projection, filterMap_projection_aggregate,
        hprojections, List.nil_append, List.takeWhile_append_dropWhile]
    case aggregates =>
      rw [← hintro.spendsA]
      simp only [List.filterMap_append, filterMap_aggregate_projection, filterMap_aggregate,
        haggregates, List.nil_append, List.takeWhile_append_dropWhile]
    case bare =>
      rw [List.filterMap_append, filterMap_selected_parts]
      exact hintro.selected.append hbare

/-- The items of a list are all of it that has to be written. -/
theorem interleaves_items (list : SelectList) : Interleaves list.items list :=
  interleaves_spread list.modalities [] list.projections list.aggregates

/-- **A SELECT list is written out whole, and found again.**  Of any query the items are written
with no index out of range, and they interleave the parts of its list; of a list that was collected
from items they collect to that list again, and nothing is written bare that was not. -/
theorem items_interleave_and_recollect :
    (∀ query : Query, query.select.itemsByIndex? = some query.select.items ∧
      Interleaves query.select.items query.select) ∧
    ∀ written : List SelectItem, collect (collect written).items = collect written ∧
      ∀ s, .selected s ∈ (collect written).items → .selected s ∈ written := by
  refine ⟨fun query => ⟨itemsByIndex?_eq query.select, interleaves_items query.select⟩, ?_⟩
  intro written
  obtain ⟨hcollect, hmem⟩ := collect_items written
  exact ⟨hcollect, fun s => hmem _⟩

/-- The bare name is behind both fields of the modality that was named first, and it was bare. -/
theorem items_recollect_bare_graph :
    let written : List SelectItem :=
      [.projection ⟨⟨"Spatial"⟩, "lat"⟩, .selected (.modality ⟨"Graph"⟩), .aggregate .countAll,
        .aggregate (.ofField .avg ⟨⟨"Orbit"⟩, "alt"⟩), .projection ⟨⟨"Spatial"⟩, "lon"⟩]
    .selected (.modality ⟨"Graph"⟩) ∈ (collect written).items ∧
      .selected (.modality ⟨"Graph"⟩) ∈ written := by
  intro written
  have hmem : .selected (.modality ⟨"Graph"⟩) ∈ (collect written).items := by decide
  exact ⟨hmem, (items_interleave_and_recollect.2 written).2 _ hmem⟩

end SelectList

end HexadQuery
