/-
# Fields and directions of an ORDER BY

The reading of an ORDER BY, `order_by_clause` of the source, walks over the pieces of the span
once, with a field that waits for its direction, and writes an item down when a direction, the next
field or the end of the span comes.  What it yields can be said without the walk: `OrderedBy` looks
at each field by itself, and at the pieces between it and the next field.

The walk is followed by `orderItems_waiting`, whose induction is on the pieces and carries the
field that waits: its direction is decided by what is still to come, and by nothing that has been
passed.  A piece is a direction, a field or neither, and never both of the first two, since a field
has a dot.

`OrderedBy` says three things.  The fields come out in order, one item each, so none is lost and
none is doubled.  The item of a field has the first direction behind it that is ahead of the next
field, and is ascending without one; a second direction is passed over, and one ahead of the first
field belongs to none.  And pieces of other kinds have no influence: `NULLS`, `LAST` and anything
that is misspelled can be put in anywhere.

For a whole query this is said of the words between ORDER BY and the next LIMIT or OFFSET, which is
all that is captured: a keyword of another clause in between is a piece like any other.
-/
import HexadQuery.Proofs.ItemSpellings

namespace HexadQuery

/-! ## 1. What an ORDER BY says

Without a walk: by looking at one field and what follows it. -/

/-- Whether a piece is a `MODALITY.field`. -/
def isFieldPiece (piece : String) : Bool := (Piece.projection? piece).isSome

/-- The direction of a field, by the pieces behind it: the first ASC or DESC ahead of the next
field, and ascending without one. -/
def directionAfter (later : List String) : Direction :=
  ((later.takeWhile fun piece => !isFieldPiece piece).findSome? Direction.ofName?).getD .asc

/-- The items of an ORDER BY with these pieces: one for each field, in order, with the direction
that is given behind it.  Pieces of other kinds can be left out or put in. -/
structure OrderedBy (pieces : List String) (items : List OrderItem) : Prop where
  /-- one item for each field, in order -/
  fields : items.map (·.projection) = pieces.filterMap Piece.projection?
  /-- with the direction given behind it and ahead of the next field, or ascending -/
  direction : ∀ {before later : List String} {piece : String} {p : Projection},
    pieces = before ++ piece :: later → Piece.projection? piece = some p →
      items[(before.filterMap Piece.projection?).length]? = some ⟨p, directionAfter later⟩
  /-- and pieces that are neither fields nor directions play no part -/
  others : ∀ {pieces' : List String},
    pieces'.filter isOrderPiece = pieces.filter isOrderPiece → orderItems none pieces' = items

/-! ## 2. The three kinds of pieces

One lemma for each kind of piece that can stand behind a field. -/

/-- A direction is no field. -/
theorem projection?_of_direction {piece : String} {direction : Direction}
    (h : Direction.ofName? piece = some direction) : Piece.projection? piece = none := by
  rw [Option.eq_none_iff_forall_ne_some]
  intro p hp
  obtain ⟨name, hspelled⟩ := Piece.projection?_eq_some_iff.mp hp
  have hdot : '.' ∈ piece.toList := by simp [hspelled.text_eq, String.toList_append]
  have hletters := List.find?_some h
  rw [Text.sameLetters_comm, Text.sameLetters_of_not_alpha hdot (by decide)
    (by cases direction <;> decide)] at hletters
  exact absurd hletters (by simp)

/-- A direction next is the direction. -/
theorem directionAfter_direction {piece : String} {direction : Direction}
    (h : Direction.ofName? piece = some direction) (later : List String) :
    directionAfter (piece :: later) = direction := by
  have hfield := projection?_of_direction h
  rw [directionAfter, List.takeWhile_cons_of_pos (by simp [isFieldPiece, hfield]),
    List.findSome?_cons_of_isSome (by simp [h])]
  simp [h]

/-- With a field next there is none, and ascending is meant. -/
theorem directionAfter_field {piece : String} {p : Projection}
    (h : Piece.projection? piece = some p) (later : List String) :
    directionAfter (piece :: later) = .asc := by
  rw [directionAfter, List.takeWhile_cons_of_neg (by simp [isFieldPiece, h])]
  rfl

/-- Anything else is passed over. -/
theorem directionAfter_other {piece : String} (hdirection : Direction.ofName? piece = none)
    (hfield : Piece.projection? piece = none) (later : List String) :
    directionAfter (piece :: later) = directionAfter later := by
  rw [directionAfter, List.takeWhile_cons_of_pos (by simp [isFieldPiece, hfield]),
    List.findSome?_cons_of_isNone (by simp [hdirection])]
  rfl

/-! ## 3. The walk over the pieces

`fieldItems` is the walk by itself, without a field that waits: each field makes its item when it
is met, by looking ahead.  It is shown to be the walk and to be as `OrderedBy` says. -/

/-- The items that the fields among the pieces make, each by what is behind it. -/
def fieldItems : List String → List OrderItem
  | [] => []
  | piece :: later =>
    ((Piece.projection? piece).map fun p => ⟨p, directionAfter later⟩).toList ++ fieldItems later

/-- **The walk, with a field that waits**: the pieces to come decide its direction.  The
induction is on the pieces: a direction or a field ends the waiting, any other piece leaves it as
it is. -/
theorem orderItems_waiting (pieces : List String) (waiting : Option Projection) :
    orderItems waiting pieces =
      (waiting.map fun p => ⟨p, directionAfter pieces⟩).toList ++ fieldItems pieces := by
  induction pieces generalizing waiting with
  | nil => simp [orderItems, fieldItems, directionAfter]
  | cons piece pieces ih =>
    rw [orderItems, fieldItems]
    cases hdirection : Direction.ofName? piece with
    | some direction =>
      rw [projection?_of_direction hdirection, directionAfter_direction hdirection]
      simp [ih none]
    | none =>
      cases hfield : Piece.projection? piece with
      | some p =>
        rw [directionAfter_field hfield]
        simp [ih (some p)]
      | none =>
        rw [directionAfter_other hdirection hfield]
        simp [ih waiting]

/-- Nothing waits at the start. -/
theorem orderItems_eq (pieces : List String) : orderItems none pieces = fieldItems pieces := by
  simp [orderItems_waiting]

/-- The fields of the items are the fields among the pieces. -/
theorem map_projection_fieldItems (pieces : List String) :
    (fieldItems pieces).map (·.projection) = pieces.filterMap Piece.projection? := by
  induction pieces with
  | nil => rfl
  | cons piece pieces ih =>
    cases hfield : Piece.projection? piece with
    | none => simp [fieldItems, hfield, ih]
    | some p => simp [fieldItems, hfield, ih]

/-- The item of a field stands behind those of the fields ahead of it. -/
theorem getElem?_fieldItems {before later : List String} {piece : String} {p : Projection}
    (h : Piece.projection? piece = some p) :
    (fieldItems (before ++ piece :: later))[(before.filterMap Piece.projection?).length]? =
      some ⟨p, directionAfter later⟩ := by
  induction before with
  | nil => simp [fieldItems, h]
  | cons first before ih =>
    cases hfirst : Piece.projection? first with
    | none => simpa [fieldItems, hfirst] using ih
    | some q => simpa [fieldItems, hfirst] using ih

/-- The walk passes over the pieces that are neither a direction nor a field. -/
theorem orderItems_filter (pieces : List String) (waiting : Option Projection) :
    orderItems waiting (pieces.filter isOrderPiece) = orderItems waiting pieces := by
  induction pieces generalizing waiting with
  | nil => rfl
  | cons piece pieces ih =>
    cases hkind : isOrderPiece piece with
    | true =>
      rw [List.filter_cons_of_pos hkind, orderItems, orderItems]
      simp only [ih]
    | false =>
      have hneither : Direction.ofName? piece = none ∧ Piece.projection? piece = none := by
        simpa [isOrderPiece] using hkind
      rw [List.filter_cons_of_neg (by simp [hkind]), ih, orderItems, hneither.1, hneither.2]

/-- **The items are ordered as the pieces say.**  What the walk writes is what `fieldItems` reads
off the pieces, and of that each part of the description is shown by itself. -/
theorem orderedBy_orderItems (pieces : List String) :
    OrderedBy pieces (orderItems none pieces) where
  fields := by rw [orderItems_eq, map_projection_fieldItems]
  direction := by
    rintro before later piece p rfl hpiece
    rw [orderItems_eq, getElem?_fieldItems hpiece]
  others := by
    intro pieces' hfilter
    rw [← orderItems_filter pieces', hfilter, orderItems_filter]

/-! ## 4. Captured spans

From pieces to words: the words of a span are cut at their commas, one by one. -/

/-- **An ORDER BY pairs each field with the first direction behind it.**  Whatever words stand
behind `ORDER BY` up to a LIMIT, an OFFSET or the end, they are captured, and the items are ordered
as the pieces between their commas say.  In a query that was read, these are the pieces of its
ORDER BY clause; a query without one has no items. -/
theorem orderBy_pairs_fields :
    (∀ {word : String} {span rest : List String}, Text.sameLetters word "BY" = true →
      (∀ w ∈ span, Text.isAnyOf w Rule.orderStops = false) →
      (∀ w, rest.head? = some w → Text.isAnyOf w Rule.orderStops = true) →
        Rule.Reads Rule.orderFields (word :: (span ++ rest))
          (OrderedBy (span.flatMap Piece.commaPieces)) rest) ∧
    ∀ {config : Config} {input : String} {q : Query} {written : WrittenQuery},
      (parseQuery config input).result = .ok q → written.WellFormed config →
      written.words = (tokenize input).map (·.text) →
        OrderedBy ((written.orderBy.map WrittenClause.pieces).getD []) q.orderBy := by
  refine ⟨?_, ?_⟩
  · intro word span rest hword hspan hrest
    refine Rule.Reads.bind (Rule.reads_keyword hword _) fun _ _ => ?_
    refine Rule.Reads.bind (Rule.reads_takeUntil hspan hrest) fun tokens htokens => ?_
    refine Rule.Reads.bind (Rule.reads_note _ rest) fun _ _ => ?_
    refine (Rule.reads_pure _ rest).weaken ?_
    rintro _ rfl
    rw [Rule.spanPieces_eq htokens]
    exact orderedBy_orderItems _
  · intro config input q written h hformed hwords
    rw [parseQuery, Outcome.accepted_result, Rule.query_run_eq_ok_iff] at h
    obtain ⟨other, hother, -, hwords', rfl⟩ := h
    obtain rfl := hformed.unique hother (hwords.trans hwords'.symm)
    rw [WrittenQuery.query]
    cases written.orderBy with
    | none => exact orderedBy_orderItems []
    | some clause => exact orderedBy_orderItems clause.pieces

/-- Two directions behind one field, none behind the next, and a piece that is passed over. -/
theorem orderBy_of_scattered_directions :
    (parseQuery {} "SELECT * FROM STORE s ORDER BY GRAPH.a, nulls desc,asc VECTOR.b,").result =
      .ok { select := ⟨[.all], [], []⟩, source := .store "s"
            orderBy := [⟨⟨.graph, "a"⟩, .desc⟩, ⟨⟨.vector, "b"⟩, .asc⟩] } ∧
    OrderedBy ["GRAPH.a", "nulls", "desc", "asc", "VECTOR.b"]
      [⟨⟨.graph, "a"⟩, .desc⟩, ⟨⟨.vector, "b"⟩, .asc⟩] := by
  have h : (parseQuery {}
      "SELECT * FROM STORE s ORDER BY GRAPH.a, nulls desc,asc VECTOR.b,").result =
      .ok { select := ⟨[.all], [], []⟩, source := .store "s"
            orderBy := [⟨⟨.graph, "a"⟩, .desc⟩, ⟨⟨.vector, "b"⟩, .asc⟩] } := by
    decide +kernel
  have hformed : WrittenQuery.WellFormed {} ⟨⟨["SELECT"], ["*"]⟩,
      ⟨.store, ["FROM", "STORE"], "s", none⟩, none, none, none, none,
      some ⟨["ORDER", "BY"], ["GRAPH.a,", "nulls", "desc,asc", "VECTOR.b,"]⟩,
      none, none⟩ := by
    constructor
    case opened => exact .cons (by decide) .nil
    case source => exact ⟨.cons (by decide) (.cons (by decide) .nil), by decide, by simp⟩
    case orderBy =>
      rintro _ ⟨rfl⟩
      exact ⟨.cons (by decide) (.cons (by decide) .nil), by decide⟩
    case select_from => decide
    case select_strict => decide
    all_goals simp
  exact ⟨h, orderBy_pairs_fields.2 h hformed (by decide +kernel)⟩

end HexadQuery
