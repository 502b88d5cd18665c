/-
# From SELECT items to a SELECT list, and back

A SELECT list is written as a sequence of items.  Reading collects them: `SelectList.collect`
registers each in turn, and the order in which projections, aggregates and bare names were mixed is
lost.  `SelectList.items` writes a sequence that collects to the same list again, and it writes a
bare name only where no projection or aggregate introduces the modality, because a registry need
not know the modality of a projection.

`select_items` does the writing with an index into each of the two lists and slices between them.
`spread` consumes the lists instead: what is left of a list is what is behind its index, so that no
index can be out of range and the recursion is on the entries.  That the two write the same items
is proved where the indices are.

`items` is total on every list, also on lists that no sequence of items collects to; on those it
still writes every projection and every aggregate once.
-/
import HexadQuery.Statement.Basic

namespace HexadQuery

/-- One item of a SELECT list: `*` or a bare name, a projection, or an aggregate. -/
inductive SelectItem where
  | selected (selected : Selected)
  | projection (projection : Projection)
  | aggregate (aggregate : Aggregate)
  deriving DecidableEq

namespace SelectList

/-! ## 1. Collecting -/

/-- Note a modality at its first mention.  A later mention changes nothing, so the entries are in
the order of first mentions and without repetition. -/
def mention (list : SelectList) (selected : Selected) : SelectList :=
  if list.modalities.contains selected then list
  else { list with modalities := list.modalities ++ [selected] }

/-- Take one item in: mention its modality, then keep it. -/
def add (list : SelectList) : SelectItem → SelectList
  | .selected selected => list.mention selected
  | .projection projection =>
    let list := list.mention (.modality projection.modality)
    { list with projections := list.projections ++ [projection] }
  | .aggregate aggregate =>
    let list :=
      match aggregate.modality? with
      | some modality => list.mention (.modality modality)
      | none => list
    { list with aggregates := list.aggregates ++ [aggregate] }

/-- What a sequence of items collects to. -/
def collect (items : List SelectItem) : SelectList := items.foldl add {}

/-! ## 2. Writing items -/

/-- Whether a modality is among the entries written so far. -/
def isWritten (written : List Selected) (modality : Modality) : Bool :=
  written.contains (.modality modality)

/-- Whether an aggregate may be written once `written` has been mentioned. -/
def isReady (written : List Selected) (aggregate : Aggregate) : Bool :=
  match aggregate.modality? with
  | some modality => isWritten written modality
  | none => true

/-- The items that mention one entry, with the projections and aggregates that are left.  The
next projection introduces its modality; failing that the next aggregate of a field does, with
the `COUNT(*)`s ahead of it; failing that the entry is written bare. -/
def introduce (entry : Selected) (projections : List Projection) (aggregates : List Aggregate) :
    List SelectItem × List Projection × List Aggregate :=
  let bare := ([.selected entry], projections, aggregates)
  match entry with
  | .all => bare
  | .modality modality =>
    let byAggregate :=
      match aggregates.span (·.modality?.isNone) with
      | (counts, aggregate :: later) =>
        if aggregate.modality? = some modality then
          ((counts ++ [aggregate]).map .aggregate, projections, later)
        else bare
      | (_, []) => bare
    match projections with
    | projection :: later =>
      if projection.modality = modality then ([.projection projection], later, aggregates)
      else byAggregate
    | [] => byAggregate

/-- Write the entries that are left after `written`, with the projections and aggregates that
are left; each of those is written as soon as its modality has been mentioned. -/
def spread (written : List Selected) :
    List Selected → List Projection → List Aggregate → List SelectItem
  | [], projections, aggregates => projections.map .projection ++ aggregates.map .aggregate
  | entry :: entries, projections, aggregates =>
    let (items, projections, aggregates) := introduce entry projections aggregates
    let written := written ++ [entry]
    let (nowP, laterP) := projections.span fun p => isWritten written p.modality
    let (nowA, laterA) := aggregates.span (isReady written)
    items ++ nowP.map .projection ++ nowA.map .aggregate ++ spread written entries laterP laterA

/-- Items that collect to the list. -/
def items (list : SelectList) : List SelectItem :=
  spread [] list.modalities list.projections list.aggregates

end SelectList

end HexadQuery
