/-
# Queries and their renderings

A query that was read is written by `render_query` and read again.  `Query.Writable` is what the
first reading guarantees, `Query.written` is the division of the rendering into clauses, and the
query comes back (`Query.Writable.query_written`) wherever that division is well-formed.  Three
things can stand in the way, and nothing else (`parseStatement_render_query_iff`):

* nothing is written between SELECT and FROM, when a lenient reading dropped every item;
* the last thing that is written there is a modality named FROM, which ends the list too early;
* the type of a proof is a clause keyword, which was read with the parenthesis attached to it and
  is written without.

Each of them is shown to fail from the words alone: a division of the rendering, whatever it is,
would have to start with the same words.  Divisions are unique, but that is of no use here, since
the division of the rendering that is known is not well-formed then.

A FROM that is not the last item does no harm, because a comma is written behind it and the word is
then no keyword.

Why the rest comes back.  A captured text is normal, so its words joined are the text itself, and
it holds none of its stop words.  Fields, items and operands are words without commas, so their
lists are cut where they were joined.  Directions are all written, the ascending ones too.  Numbers
are written in digits.  And the items of the SELECT list are written in the order of
`select_items`, which interleaves the three lists of a query such that reading them collects the
same three lists again; that is `SelectList.collect_items`, and here it is used as a fact about
items.
-/
import HexadQuery.Proofs.Pieces
import HexadQuery.Proofs.ProofObligations
import HexadQuery.Proofs.ProofRendering
import HexadQuery.Proofs.SelectItems

namespace HexadQuery

/-! ## 1. What a query that was read looks like

The written form of a query says what its words are, so whatever is taken from them is writable. -/

/-- What a source can be read as. -/
def Source.Writable : Source → Prop
  | hexad id => IsOperand id
  | store name => IsOperand name
  | federation pattern drift =>
    IsOperand pattern ∧ ∀ policy ∈ drift, IsOperand policy ∧ Text.upper policy = policy

/-- A text that was captured up to a stop word. -/
def Captured (stops : List String) (text : String) : Prop :=
  Text.Normal text.toList ∧ ∀ word ∈ Text.words text, Text.isAnyOf word stops = false

/-- What a query can be read as. -/
structure Query.Writable (registry : Registry) (q : Query) : Prop where
  /-- the list is what some items collect to -/
  select : ∃ items : List SelectItem, (∀ item ∈ items, item.Writable registry) ∧
    SelectList.collect items = q.select
  source : q.source.Writable
  /-- it ends ahead of the word that ends a WHERE -/
  filter : ∀ text ∈ q.filter, Captured Rule.filterStops text
  groupBy : ∀ field ∈ q.groupBy, field.Writable
  /-- and so does it for a HAVING -/
  having : ∀ text ∈ q.having, Captured Rule.havingStops text
  proof : ∀ spec ∈ q.proof, spec.Writable
  orderBy : ∀ item ∈ q.orderBy, item.projection.Writable

/-- An operand stays one in capitals; a drift policy is kept so. -/
theorem isOperand_upper {word : String} (h : IsOperand word) : IsOperand (Text.upper word) := by
  refine ⟨⟨?_, ?_⟩, ?_⟩
  · rw [Text.toList_upper]
    simpa using h.isWord.ne_nil
  · intro c hc
    rw [Text.toList_upper] at hc
    obtain ⟨d, hd, rfl⟩ := List.mem_map.mp hc
    rw [isBlank_toUpper]
    exact h.isWord.solid d hd
  · exact Text.isAnyOf_of (Text.sameLetters_upper word) h.operand

/-- What is read as a source is writable. -/
theorem WrittenSource.WellFormed.writable {written : WrittenSource} (h : written.WellFormed)
    (hwords : ∀ w ∈ written.words, Text.IsWord w.toList) : written.source.Writable := by
  have hoperand : IsOperand written.operand :=
    ⟨hwords _ (by simp [WrittenSource.words]), h.operand⟩
  unfold WrittenSource.source
  split
  · exact hoperand
  · exact hoperand
  · refine ⟨hoperand, ?_⟩
    intro policy hpolicy
    obtain ⟨clause, hclause, rfl⟩ := Option.map_eq_some_iff.mp hpolicy
    obtain ⟨-, -, word, hbody, hword⟩ := h.drift clause hclause
    have htext : clause.text = word := by simp [WrittenClause.text, hbody]
    rw [htext]
    refine ⟨isOperand_upper ⟨hwords word ?_, hword⟩, Text.upper_upper word⟩
    rw [WrittenSource.words, hclause, WrittenClause.optionWords_some, WrittenClause.words, hbody]
    simp

/-- What is captured up to a stop word is normal and holds none. -/
theorem WrittenClause.SpanFormed.captured {keywords stops : List String} {clause : WrittenClause}
    (h : clause.SpanFormed keywords stops) (hwords : ∀ w ∈ clause.words, Text.IsWord w.toList) :
    Captured stops clause.text := by
  have hbody : ∀ w ∈ clause.body, Text.IsWord w.toList := fun w hw =>
    hwords w (List.mem_append_right _ hw)
  refine ⟨Text.normal_joined hbody, ?_⟩
  rw [WrittenClause.text, Text.words_joined hbody]
  exact h.body

/-- The fields of an ORDER BY are projections of its pieces. -/
theorem writable_of_mem_orderItems : ∀ (pieces : List String) {waiting : Option Projection},
    (∀ p ∈ waiting, p.Writable) → ∀ item ∈ orderItems waiting pieces, item.projection.Writable
  | [], waiting, h, item, hitem => by
    obtain ⟨p, hp, rfl⟩ : ∃ p, waiting = some p ∧ (⟨p, .asc⟩ : OrderItem) = item := by
      simpa [orderItems] using hitem
    exact h p hp
  | piece :: pieces, waiting, h, item, hitem => by
    -- the field that waits is written out with a direction, given or not; it was read already
    have hwaiting : ∀ direction, ∀ i ∈ (waiting.map fun p => (⟨p, direction⟩ : OrderItem)).toList,
        i.projection.Writable := by
      intro direction i hi
      obtain ⟨p, hp, rfl⟩ : ∃ p, waiting = some p ∧ (⟨p, direction⟩ : OrderItem) = i := by
        simpa using hi
      exact h p hp
    rw [orderItems] at hitem
    cases hd : Direction.ofName? piece with
    | some direction =>
      simp only [hd] at hitem
      rcases List.mem_append.mp hitem with hitem | hitem
      · exact hwaiting direction item hitem
      · exact writable_of_mem_orderItems pieces (by simp) item hitem
    | none =>
      cases hp : Piece.projection? piece with
      | some p =>
        simp only [hd, hp] at hitem
        rcases List.mem_append.mp hitem with hitem | hitem
        · exact hwaiting .asc item hitem
        · refine writable_of_mem_orderItems pieces ?_ item hitem
          intro p' hp'
          obtain rfl : p = p' := by simpa using hp'
          exact Piece.writable_of_projection? hp
      | none =>
        simp only [hd, hp] at hitem
        exact writable_of_mem_orderItems pieces h item hitem

/-- **What is read as a query is writable.**  Part by part: each text was captured from words,
each item and each field was read from a piece of one. -/
theorem WrittenQuery.WellFormed.writable {config : Config} {written : WrittenQuery}
    (h : written.WellFormed config) (hregistry : config.registry.Reachable)
    (hwords : ∀ w ∈ written.words, Text.IsWord w.toList) :
    (written.query config.registry).Writable config.registry where
  select := by
    refine ⟨_, ?_, rfl⟩
    intro item hitem
    obtain ⟨piece, -, hpiece⟩ := List.mem_filterMap.mp hitem
    exact SelectItem.writable_of_parse? hregistry hpiece
  source := h.source.writable fun w hw => hwords w (by simp [words, hw])
  filter := by
    intro text htext
    obtain ⟨clause, hclause, rfl⟩ := Option.map_eq_some_iff.mp htext
    refine (h.filter clause hclause).captured fun w hw => hwords w ?_
    simp [words, afterSource, hclause, WrittenClause.optionWords, hw]
  groupBy := by
    intro field hfield
    cases hg : written.groupBy with
    | none => simp [query, hg] at hfield
    | some clause =>
      simp only [query, hg, Option.map_some, Option.getD_some] at hfield
      obtain ⟨piece, -, hpiece⟩ := List.mem_filterMap.mp hfield
      exact Piece.writable_of_projection? hpiece
  having := by
    intro text htext
    obtain ⟨clause, hclause, rfl⟩ := Option.map_eq_some_iff.mp htext
    refine (h.having clause hclause).captured fun w hw => hwords w ?_
    simp [words, afterSource, fromGroup, fromHaving, hclause, WrittenClause.optionWords, hw]
  proof := by
    refine WrittenChain.writable h.proof fun w hw => hwords w ?_
    simp [words, afterSource, fromGroup, fromHaving, fromProof, hw]
  orderBy := by
    intro item hitem
    cases ho : written.orderBy with
    | none => simp [query, ho] at hitem
    | some clause =>
      simp only [query, ho, Option.map_some, Option.getD_some] at hitem
      exact writable_of_mem_orderItems clause.pieces (by simp) item hitem

/-! ## 2. The words of a rendering

`Query.written` is put together clause by clause, as the rendering is, and its words are the words
of the rendering. -/

/-- A clause as it is rendered. -/
def renderedClause (lead : List String) (body : Option String) : Option WrittenClause :=
  body.map fun text => ⟨lead, Text.words text⟩

/-- A source as it is rendered, behind FROM. -/
def Source.written : Source → WrittenSource
  | hexad id => ⟨.hexad, ["FROM", "HEXAD"], id, none⟩
  | store name => ⟨.store, ["FROM", "STORE"], name, none⟩
  | federation pattern drift =>
    ⟨.federation, ["FROM", "FEDERATION"], pattern, renderedClause ["WITH", "DRIFT"] drift⟩

/-- A query as it is rendered. -/
def Query.written (q : Query) : WrittenQuery where
  select := ⟨["SELECT"], commaWords (q.select.items.map SelectItem.render)⟩
  source := q.source.written
  filter := renderedClause ["WHERE"] q.filter
  groupBy := renderedClause ["GROUP", "BY"] (listBody renderFields q.groupBy)
  having := renderedClause ["HAVING"] q.having
  proof := writtenProof q.proof
  orderBy := renderedClause ["ORDER", "BY"] (listBody renderOrder q.orderBy)
  limit := renderedClause ["LIMIT"] (q.limit.map fun n => n.toNat.repr)
  offset := renderedClause ["OFFSET"] (q.offset.map fun n => n.toNat.repr)

/-- A clause of a rendering has the words of its written form. -/
theorem clauseWords_eq (lead : List String) (body : Option String) :
    clauseWords lead body = WrittenClause.optionWords (renderedClause lead body) := by
  cases body <;> rfl

/-- A rendered source has the words of its written form. -/
theorem Source.Writable.words_render {source : Source} (h : source.Writable) :
    Text.words ("FROM" ++ " " ++ source.render) = source.written.words := by
  have hoperand : ∀ {kind word : String}, Text.IsWord kind.toList → IsOperand word →
      Text.words (kind ++ " " ++ word) = [kind, word] := by
    intro kind word hkind hword
    rw [Text.words_append_space, Text.words_of_isWord hkind, Text.words_of_isWord hword.isWord]
    rfl
  have hfrom : Text.words "FROM" = ["FROM"] := by decide
  rw [Text.words_append_space, hfrom]
  match source, h with
  | .hexad id, h =>
    have hrender : Source.render (.hexad id) = "HEXAD" ++ " " ++ id := rfl
    rw [hrender, hoperand (by decide) h]
    rfl
  | .store name, h =>
    have hrender : Source.render (.store name) = "STORE" ++ " " ++ name := rfl
    rw [hrender, hoperand (by decide) h]
    rfl
  | .federation pattern none, h =>
    have hrender : Source.render (.federation pattern none) = "FEDERATION" ++ " " ++ pattern := rfl
    rw [hrender, hoperand (by decide) h.1]
    rfl
  | .federation pattern (some policy), h =>
    have hrender : Source.render (.federation pattern (some policy)) =
        "FEDERATION" ++ " " ++ pattern ++ " " ++ ("WITH" ++ " " ++ ("DRIFT" ++ " " ++ policy)) := by
      rw [← String.toList_inj]
      simp [Source.render, String.toList_append]
    have hwith : Text.words "WITH" = ["WITH"] := by decide
    rw [hrender, Text.words_append_space, Text.words_append_space "WITH", hwith,
      hoperand (by decide) h.1, hoperand (by decide) (h.2 policy rfl).1]
    simp [Source.written, WrittenSource.words, renderedClause, WrittenClause.optionWords,
      WrittenClause.words, Text.words_of_isWord (h.2 policy rfl).1.isWord]

namespace Query

variable {registry : Registry} {q : Query}

/-- The items that are written are writable. -/
theorem Writable.items (h : q.Writable registry) :
    SelectList.collect q.select.items = q.select ∧
      ∀ item ∈ q.select.items, item.Writable registry := by
  obtain ⟨xs, hxs, hcollect⟩ := h.select
  rw [← hcollect]
  obtain ⟨hitems, hmem⟩ := SelectList.collect_items xs
  exact ⟨hitems, fun item hitem => hxs item (hmem item hitem)⟩

/-- The items that are written are words without commas. -/
theorem Writable.solid_items (h : q.Writable registry) :
    ∀ text ∈ q.select.items.map SelectItem.render, Solid text := by
  intro text htext
  obtain ⟨item, hitem, rfl⟩ := List.mem_map.mp htext
  exact (h.items.2 item hitem).solid

/-- **The rendering of a query divides into its clauses.**  Every part is rendered with a space
ahead of it, so the words of the whole are those of the parts, and for each part its rendering
has the words of a clause. -/
theorem Writable.words_render (h : q.Writable registry) :
    Text.words q.render = q.written.words := by
  have hhead : "SELECT " ++ q.select.render ++ " FROM " ++ q.source.render =
      "SELECT" ++ " " ++ (q.select.render ++ " " ++ ("FROM" ++ " " ++ q.source.render)) := by
    rw [← String.toList_inj]
    simp [String.toList_append]
  have hselect : Text.words q.select.render =
      commaWords (q.select.items.map SelectItem.render) := words_commaList h.solid_items
  have hlead : Text.words "SELECT" = ["SELECT"] ∧ Text.words "WHERE" = ["WHERE"] ∧
      Text.words "GROUP BY" = ["GROUP", "BY"] ∧ Text.words "HAVING" = ["HAVING"] ∧
      Text.words "ORDER BY" = ["ORDER", "BY"] ∧ Text.words "LIMIT" = ["LIMIT"] ∧
      Text.words "OFFSET" = ["OFFSET"] := by decide
  obtain ⟨h₁, h₂, h₃, h₄, h₅, h₆, h₇⟩ := hlead
  unfold Query.render
  rw [words_append_clauseText, words_append_clauseText, words_append_clauseText,
    words_append_proofText _ h.proof, words_append_clauseText, words_append_clauseText,
    words_append_clauseText, hhead, Text.words_append_space, Text.words_append_space,
    h.source.words_render, hselect, h₁, h₂, h₃, h₄, h₅, h₆, h₇]
  simp only [clauseWords_eq, List.append_assoc]
  rfl

end Query

/-! ## 3. What the clauses of a rendering say

Each clause by itself: its words are those of its written form, the form is well-formed, and its
value is the field it was written for. -/

/-- A written source says which source it is. -/
theorem Source.Writable.source_written {source : Source} (h : source.Writable) :
    source.written.source = source := by
  match source, h with
  | .hexad id, _ => rfl
  | .store name, _ => rfl
  | .federation pattern none, _ => rfl
  | .federation pattern (some policy), h =>
    obtain ⟨hpolicy, hupper⟩ := h.2 policy rfl
    change Source.federation pattern (some (Text.upper (" ".intercalate (Text.words policy)))) = _
    rw [Text.joined_words hpolicy.isWord.normal, hupper]

/-- The fields of a rendered list are its pieces. -/
theorem words_renderFields {fields : List Projection} (h : ∀ field ∈ fields, field.Writable) :
    Text.words (renderFields fields) = commaWords (fields.map Projection.render) := by
  refine words_commaList ?_
  intro text htext
  obtain ⟨field, hfield, rfl⟩ := List.mem_map.mp htext
  exact (h field hfield).solid

/-- Rendered fields are read back, all of them. -/
theorem filterMap_projection?_render {fields : List Projection}
    (h : ∀ field ∈ fields, field.Writable) :
    (fields.map Projection.render).filterMap Piece.projection? = fields := by
  rw [List.filterMap_map]
  refine (List.filterMap_congr fun field hfield => ?_).trans List.filterMap_some
  rw [Function.comp_apply, Piece.projection?_render (h field hfield)]

/-- Rendered items are read back, all of them. -/
theorem filterMap_parse?_render {registry : Registry} {items : List SelectItem}
    (h : ∀ item ∈ items, item.Writable registry) :
    (items.map SelectItem.render).filterMap (SelectItem.parse? registry) = items := by
  rw [List.filterMap_map]
  refine (List.filterMap_congr fun item hitem => ?_).trans List.filterMap_some
  rw [Function.comp_apply, SelectItem.parse?_render (h item hitem)]

/-- The words of rendered fields and directions. -/
def orderWords : List OrderItem → List String
  | [] => []
  | [item] => [item.projection.render, item.direction.keyword]
  | item :: next :: items =>
    item.projection.render :: (item.direction.keyword ++ ",") :: orderWords (next :: items)

/-- The words of a rendered ORDER BY: two for each item, with the comma at the direction. -/
theorem words_renderOrder : ∀ {items : List OrderItem},
    (∀ item ∈ items, item.projection.Writable) → Text.words (renderOrder items) = orderWords items
  | [], _ => rfl
  | [item], h => by
    have hlist : renderOrder [item] = item.projection.render ++ " " ++ item.direction.keyword := by
      simp [renderOrder, commaList, OrderItem.render]
    rw [hlist, Text.words_append_space,
      Text.words_of_isWord (h item List.mem_cons_self).solid.isWord,
      Text.words_of_isWord item.direction.solid.isWord]
    rfl
  | item :: next :: items, h => by
    have hlist : renderOrder (item :: next :: items) = item.projection.render ++ " " ++
        ((item.direction.keyword ++ ",") ++ " " ++ renderOrder (next :: items)) := by
      rw [← String.toList_inj]
      simp [renderOrder, commaList, OrderItem.render, String.toList_append]
    rw [hlist, Text.words_append_space, Text.words_append_space,
      Text.words_of_isWord (h item List.mem_cons_self).solid.isWord,
      Text.words_of_isWord item.direction.solid.isWord_comma,
      words_renderOrder fun i hi => h i (List.mem_cons_of_mem _ hi)]
    rfl

/-- And its pieces, without the commas. -/
theorem flatMap_orderWords : ∀ {items : List OrderItem},
    (∀ item ∈ items, item.projection.Writable) →
    (orderWords items).flatMap Piece.commaPieces = orderPieces items
  | [], _ => rfl
  | [item], h => by
    simp [orderWords, orderPieces, (h item List.mem_cons_self).solid.commaPieces,
      item.direction.solid.commaPieces]
  | item :: next :: items, h => by
    have ih := flatMap_orderWords fun i hi => h i (List.mem_cons_of_mem item hi)
    rw [orderWords, List.flatMap_cons, List.flatMap_cons, ih,
      (h item List.mem_cons_self).solid.commaPieces, item.direction.solid.commaPieces_comma]
    rfl

/-- A number is written as digits. -/
theorem numberFormed_repr (keyword : String) (n : UInt64) :
    Text.words n.toNat.repr = [n.toNat.repr] ∧
      WrittenClause.NumberFormed keyword ⟨[keyword], [n.toNat.repr]⟩ ∧
      WrittenClause.number ⟨[keyword], [n.toNat.repr]⟩ = n := by
  have hdigits : ∀ c ∈ n.toNat.repr.toList, c.isDigit = true := by
    intro c hc
    rw [Nat.toList_repr] at hc
    exact Nat.isDigit_of_mem_toDigits (by decide) (by decide) hc
  have hvalue : Nat.ofDigitChars 10 n.toNat.repr.toList 0 = n.toNat := by
    rw [Nat.toList_repr, Nat.ofDigitChars_ten_toDigits]
  have hlt : n.toNat ≤ 18446744073709551615 := by
    have := n.toNat_lt
    omega
  have hsolid : Solid n.toNat.repr := by
    refine solid_of_isFieldChar Nat.repr_ne_empty fun c hc => Or.inl ?_
    refine isFieldChar_of_isNameChar c ?_
    simp [Piece.isNameChar, Char.isAlphanum, hdigits c hc]
  refine ⟨Text.words_of_isWord hsolid.isWord, ⟨?_, _, rfl, Nat.repr_ne_empty, hdigits, ?_⟩, ?_⟩
  · exact List.Forall₂.cons (Text.sameLetters_refl keyword) List.Forall₂.nil
  · rw [hvalue]
    exact hlt
  · change UInt64.ofNat (Nat.ofDigitChars 10 n.toNat.repr.toList 0) = n
    rw [hvalue, UInt64.ofNat_toNat]

/-- A LIMIT or an OFFSET, if there is one. -/
theorem renderedClause_repr (keyword : String) (n : Option UInt64) :
    (renderedClause [keyword] (n.map fun v => v.toNat.repr)).map WrittenClause.number = n ∧
      ∀ c ∈ renderedClause [keyword] (n.map fun v => v.toNat.repr), c.NumberFormed keyword := by
  cases n with
  | none => exact ⟨rfl, by simp [renderedClause]⟩
  | some v =>
    obtain ⟨hwords, hformed, hvalue⟩ := numberFormed_repr keyword v
    simp only [renderedClause, Option.map_some, hwords]
    refine ⟨congrArg some hvalue, ?_⟩
    rintro _ ⟨rfl⟩
    exact hformed

/-- A WHERE or a HAVING, if there is one. -/
theorem renderedClause_text {keyword : String} {stops : List String} {body : Option String}
    (h : ∀ text ∈ body, Captured stops text) :
    (renderedClause [keyword] body).map WrittenClause.text = body ∧
      ∀ c ∈ renderedClause [keyword] body, c.SpanFormed [keyword] stops := by
  cases body with
  | none => exact ⟨rfl, by simp [renderedClause]⟩
  | some text =>
    obtain ⟨hnormal, hstops⟩ := h text rfl
    refine ⟨congrArg some (Text.joined_words hnormal), ?_⟩
    rintro _ ⟨rfl⟩
    exact ⟨List.Forall₂.cons (Text.sameLetters_refl keyword) List.Forall₂.nil, hstops⟩

/-- Words that hold a character that is no letter are no stop words. -/
theorem dot_mem_render (field : Projection) : '.' ∈ field.render.toList := by
  simp [Projection.toList_render]

/-- A GROUP BY, if there are fields. -/
theorem renderedClause_fields {fields : List Projection} (h : ∀ field ∈ fields, field.Writable) :
    ((renderedClause ["GROUP", "BY"] (listBody renderFields fields)).map
        fun c => c.pieces.filterMap Piece.projection?).getD [] = fields ∧
      ∀ c ∈ renderedClause ["GROUP", "BY"] (listBody renderFields fields),
        c.SpanFormed ["GROUP", "BY"] Rule.groupStops := by
  cases fields with
  | nil => exact ⟨rfl, by simp [renderedClause, listBody]⟩
  | cons field fields =>
    have hsolid : ∀ text ∈ (field :: fields).map Projection.render, Solid text := by
      intro text htext
      obtain ⟨f, hf, rfl⟩ := List.mem_map.mp htext
      exact (h f hf).solid
    have hwords := words_renderFields h
    constructor
    · change ((Text.words (renderFields (field :: fields))).flatMap Piece.commaPieces).filterMap
        Piece.projection? = field :: fields
      rw [hwords, flatMap_commaWords hsolid, filterMap_projection?_render h]
    · rintro _ ⟨rfl⟩
      refine ⟨List.Forall₂.cons (by decide) (List.Forall₂.cons (by decide) List.Forall₂.nil), ?_⟩
      change ∀ word ∈ Text.words (renderFields (field :: fields)), _
      rw [hwords]
      intro word hword
      obtain ⟨text, htext, hcase⟩ := exists_of_mem_commaWords hword
      obtain ⟨f, -, rfl⟩ := List.mem_map.mp htext
      refine Text.isAnyOf_of_not_alpha (c := '.') ?_ (by decide) (by decide)
      rcases hcase with rfl | rfl
      · rw [String.toList_append]
        exact List.mem_append_left _ (dot_mem_render f)
      · exact dot_mem_render f

/-- The words of an ORDER BY are no stop words. -/
theorem isAnyOf_orderWords : ∀ (items : List OrderItem), ∀ word ∈ orderWords items,
    Text.isAnyOf word Rule.orderStops = false := by
  have hfield : ∀ field : Projection, Text.isAnyOf field.render Rule.orderStops = false := by
    intro field
    exact Text.isAnyOf_of_not_alpha (dot_mem_render field) (by decide) (by decide)
  have hdirection : ∀ direction : Direction,
      Text.isAnyOf direction.keyword Rule.orderStops = false ∧
        Text.isAnyOf (direction.keyword ++ ",") Rule.orderStops = false := by
    intro direction
    cases direction <;> decide
  intro items
  induction items with
  | nil => simp [orderWords]
  | cons item items ih =>
    cases items with
    | nil =>
      intro word hword
      have hcase : word = item.projection.render ∨ word = item.direction.keyword := by
        simpa [orderWords] using hword
      rcases hcase with rfl | rfl
      · exact hfield item.projection
      · exact (hdirection item.direction).1
    | cons next items =>
      intro word hword
      rcases List.mem_cons.mp hword with rfl | hword
      · exact hfield item.projection
      rcases List.mem_cons.mp hword with rfl | hword
      · exact (hdirection item.direction).2
      · exact ih word hword

/-- An ORDER BY, if there are items. -/
theorem renderedClause_order {items : List OrderItem}
    (h : ∀ item ∈ items, item.projection.Writable) :
    ((renderedClause ["ORDER", "BY"] (listBody renderOrder items)).map
        fun c => orderItems none c.pieces).getD [] = items ∧
      ∀ c ∈ renderedClause ["ORDER", "BY"] (listBody renderOrder items),
        c.SpanFormed ["ORDER", "BY"] Rule.orderStops := by
  cases items with
  | nil => exact ⟨rfl, by simp [renderedClause, listBody]⟩
  | cons item items =>
    have hwords := words_renderOrder h
    constructor
    · change orderItems none
        ((Text.words (renderOrder (item :: items))).flatMap Piece.commaPieces) = item :: items
      rw [hwords, flatMap_orderWords h, orderItems_orderPieces h]
    · rintro _ ⟨rfl⟩
      refine ⟨List.Forall₂.cons (by decide) (List.Forall₂.cons (by decide) List.Forall₂.nil), ?_⟩
      change ∀ word ∈ Text.words (renderOrder (item :: items)), _
      rw [hwords]
      exact isAnyOf_orderWords (item :: items)

namespace Query

variable {registry : Registry} {q : Query}

/-- **The parts of a rendering say what the query says.**  For the spans this is that words
joined by spaces are trimmed to themselves, for the lists that their pieces are read back. -/
theorem Writable.query_written (h : q.Writable registry) : q.written.query registry = q := by
  have hselect : (q.written.query registry).select = q.select := by
    change SelectList.collect ((selectTexts (commaWords (q.select.items.map
      SelectItem.render))).filterMap (SelectItem.parse? registry)) = q.select
    rw [selectTexts_commaWords h.solid_items, filterMap_parse?_render h.items.2, h.items.1]
  have hsource : (q.written.query registry).source = q.source := h.source.source_written
  have hfilter : (q.written.query registry).filter = q.filter := (renderedClause_text h.filter).1
  have hgroup : (q.written.query registry).groupBy = q.groupBy := (renderedClause_fields h.groupBy).1
  have hhaving : (q.written.query registry).having = q.having := (renderedClause_text h.having).1
  have hproof : (q.written.query registry).proof = q.proof := optionSpecs_writtenProof h.proof
  have horder : (q.written.query registry).orderBy = q.orderBy := (renderedClause_order h.orderBy).1
  have hlimit : (q.written.query registry).limit = q.limit := (renderedClause_repr "LIMIT" _).1
  have hoffset : (q.written.query registry).offset = q.offset := (renderedClause_repr "OFFSET" _).1
  calc q.written.query registry
      = ⟨(q.written.query registry).select, (q.written.query registry).source,
          (q.written.query registry).filter, (q.written.query registry).groupBy,
          (q.written.query registry).having, (q.written.query registry).proof,
          (q.written.query registry).orderBy, (q.written.query registry).limit,
          (q.written.query registry).offset⟩ := rfl
    _ = q := by
        rw [hselect, hsource, hfilter, hgroup, hhaving, hproof, horder, hlimit, hoffset]

end Query

/-! ## 4. When the rendering of a query is read again

The three obstacles.  Without them the division is well-formed; with one of them a well-formed
division of the same words is led to a contradiction. -/

/-- A written source is well-formed: its operands are. -/
theorem Source.Writable.written_wellFormed {source : Source} (h : source.Writable) :
    source.written.WellFormed := by
  have hopened : ∀ kind : SourceKind,
      (⟨["FROM", kind.keyword], []⟩ : WrittenClause).Opened ["FROM", kind.keyword] := fun kind =>
    List.Forall₂.cons (Text.sameLetters_refl _)
      (List.Forall₂.cons (Text.sameLetters_refl _) List.Forall₂.nil)
  match source, h with
  | .hexad id, h => exact ⟨hopened .hexad, h.operand, by simp [written]⟩
  | .store name, h => exact ⟨hopened .store, h.operand, by simp [written]⟩
  | .federation pattern drift, h =>
    refine ⟨hopened .federation, h.1.operand, ?_⟩
    intro clause hclause
    obtain ⟨policy, hpolicy, rfl⟩ := Option.map_eq_some_iff.mp hclause
    obtain ⟨hoperand, -⟩ := h.2 policy hpolicy
    refine ⟨rfl, ?_, policy, Text.words_of_isWord hoperand.isWord, hoperand.operand⟩
    exact List.Forall₂.cons (by decide) (List.Forall₂.cons (by decide) List.Forall₂.nil)

/-- A word that ends in a comma is no FROM. -/
theorem sameLetters_comma (text : String) : Text.sameLetters (text ++ ",") "FROM" = false :=
  Text.sameLetters_of_not_alpha (c := ',') (by simp [String.toList_append]) (by decide) (by decide)

namespace Query

variable {config : Config} {q : Query}

/-- The words of the SELECT list that is written hold no FROM, unless its last item is one. -/
theorem select_from_written
    (hlast : (q.select.items.map SelectItem.render).getLast? ≠ some "FROM") :
    ∀ word ∈ q.written.select.body, Text.sameLetters word "FROM" = false := by
  change ∀ word ∈ commaWords (q.select.items.map SelectItem.render), _
  intro word hword
  cases hitems : q.select.items.getLast? with
  | none =>
    rw [List.getLast?_eq_none_iff.mp hitems] at hword
    simp [commaWords] at hword
  | some item =>
    have hrender : (q.select.items.map SelectItem.render).getLast? = some item.render := by
      rw [List.getLast?_map, hitems]
      rfl
    obtain ⟨front, heq, hfront⟩ := commaWords_eq hrender
    rw [heq] at hword
    rcases List.mem_append.mp hword with hword | hword
    · obtain ⟨text, rfl⟩ := hfront word hword
      exact sameLetters_comma text
    · obtain rfl : word = item.render := by simpa using hword
      by_contra hfrom
      refine hlast ?_
      rw [hrender, SelectItem.eq_from_of_sameLetters (by simpa using hfrom)]

/-- **The rendering is well-formed** where nothing stands in the way.  The three conditions are
the ones under which the SELECT list is not empty, ends where it is read to end, and the types
are operands. -/
theorem Writable.written_wellFormed (h : q.Writable config.registry) (hne : q.select.items ≠ [])
    (hlast : (q.select.items.map SelectItem.render).getLast? ≠ some "FROM")
    (htypes : ∀ spec ∈ q.proof, Text.isAnyOf spec.proofType Rule.clauseKeywords = false) :
    q.written.WellFormed config where
  opened := List.Forall₂.cons (by decide) List.Forall₂.nil
  select_ne := commaWords_ne_nil (by simpa using hne)
  select_from := select_from_written hlast
  select_strict := by
    intro _ piece hpiece
    change piece ∈ selectTexts (commaWords (q.select.items.map SelectItem.render)) at hpiece
    rw [selectTexts_commaWords h.solid_items] at hpiece
    obtain ⟨item, hitem, rfl⟩ := List.mem_map.mp hpiece
    rw [SelectItem.parse?_render (h.items.2 item hitem)]
    simp
  source := h.source.written_wellFormed
  filter := (renderedClause_text h.filter).2
  groupBy := (renderedClause_fields h.groupBy).2
  having := (renderedClause_text h.having).2
  proof := writtenProof_wellFormed h.proof htypes
  orderBy := (renderedClause_order h.orderBy).2
  limit := (renderedClause_repr "LIMIT" _).2
  offset := (renderedClause_repr "OFFSET" _).2

/-- An empty SELECT list is not read: the first word behind SELECT is FROM. -/
theorem items_ne_nil_of_words {written : WrittenQuery} (h : written.WellFormed config)
    (hwords : written.words = q.written.words) : q.select.items ≠ [] := by
  intro hnil
  obtain ⟨word, hopening, -⟩ := h.opened.eq_singleton
  obtain ⟨first, more, hbody⟩ := List.exists_cons_of_ne_nil h.select_ne
  have hfrom := h.select_from first (by rw [hbody]; exact List.mem_cons_self)
  have hsecond : written.words[1]? = some first := by
    simp [WrittenQuery.words, WrittenClause.words, hopening, hbody]
  have hkeyword : ∀ source : Source, source.written.words.head? = some "FROM" := by
    intro source
    cases source <;> rfl
  have hsecond' : q.written.words[1]? = some "FROM" := by
    have hsplit : q.written.words =
        "SELECT" :: (q.source.written.words ++ q.written.afterSource) := by
      change ("SELECT" :: commaWords (q.select.items.map SelectItem.render)) ++
        (q.source.written.words ++ q.written.afterSource) = _
      rw [hnil]
      rfl
    rw [hsplit, List.getElem?_cons_succ, ← List.head?_eq_getElem?, List.head?_append,
      hkeyword q.source]
    rfl
  rw [hwords, hsecond', Option.some.injEq] at hsecond
  rw [← hsecond] at hfrom
  exact absurd hfrom (by decide)

/-- A FROM at the end of the SELECT list is not read: the next word would be the kind of the
source. -/
theorem last_ne_from_of_words {written : WrittenQuery} (h : written.WellFormed config)
    (hwords : written.words = q.written.words) :
    (q.select.items.map SelectItem.render).getLast? ≠ some "FROM" := by
  intro hlast
  obtain ⟨front, heq, hfront⟩ := commaWords_eq hlast
  obtain ⟨from_, kind, hkind, hdrop⟩ :
      ∃ from_ kind, Text.sameLetters kind written.source.kind.keyword = true ∧
        written.words.dropWhile (fun word => !Text.sameLetters word "FROM") =
          from_ :: kind :: written.source.operand ::
            (WrittenClause.optionWords written.source.drift ++ written.afterSource) :=
    dropWhile_from (WrittenQuery.select_words h.opened h.select_from) h.source
  have hkeyword : ∀ source : Source, ∃ tail, source.written.words = "FROM" :: tail := by
    intro source
    cases source <;> exact ⟨_, rfl⟩
  obtain ⟨tail, htail⟩ := hkeyword q.source
  -- no word up to the last item is FROM: those of the list have a comma
  have hpass : ∀ word ∈ "SELECT" :: front, (!Text.sameLetters word "FROM") = true := by
    intro word hword
    rcases List.mem_cons.mp hword with rfl | hword
    · decide
    · obtain ⟨text, rfl⟩ := hfront word hword
      rw [sameLetters_comma]
      rfl
  have hdrop' : q.written.words.dropWhile (fun word => !Text.sameLetters word "FROM") =
      "FROM" :: "FROM" :: (tail ++ q.written.afterSource) := by
    have hsplit : q.written.words =
        ("SELECT" :: front) ++ "FROM" :: "FROM" :: (tail ++ q.written.afterSource) := by
      change ("SELECT" :: commaWords (q.select.items.map SelectItem.render)) ++
        (q.source.written.words ++ q.written.afterSource) = _
      rw [heq, htail]
      simp
    rw [hsplit, List.dropWhile_append_of_pos hpass]
    rfl
  -- so FROM would be the kind of the source
  rw [hwords, hdrop'] at hdrop
  simp only [List.cons.injEq] at hdrop
  rw [← hdrop.2.1] at hkind
  revert hkind
  cases written.source.kind <;> decide

/-- A rendered clause is opened by its own keywords. -/
theorem opened_renderedClause (lead : List String) (body : Option String) :
    ∀ c ∈ renderedClause lead body, c.Opened lead := by
  intro c hc
  obtain ⟨text, -, rfl⟩ := Option.map_eq_some_iff.mp hc
  exact List.forall₂_same.mpr fun word _ => Text.sameLetters_refl word

/-- What may follow the source in a rendering. -/
theorem ledBy_written (q : Query) :
    LedBy ["WHERE", "GROUP", "HAVING", "PROOF", "ORDER", "LIMIT", "OFFSET"]
      q.written.afterSource := by
  have hoffset : LedBy ["OFFSET"] (WrittenClause.optionWords q.written.offset) := by
    rw [← List.append_nil (WrittenClause.optionWords q.written.offset)]
    exact (ledBy_nil []).option (opened_renderedClause ["OFFSET"] _)
  have hlimit : LedBy ["LIMIT", "OFFSET"] q.written.fromLimit :=
    hoffset.option (opened_renderedClause ["LIMIT"] _)
  have horder : LedBy ["ORDER", "LIMIT", "OFFSET"] q.written.fromOrder :=
    hlimit.option (opened_renderedClause ["ORDER", "BY"] _)
  have hproof : LedBy ["PROOF", "ORDER", "LIMIT", "OFFSET"] q.written.fromProof := by
    refine horder.proof ?_
    intro c hc
    rw [opening_writtenProof hc]
    exact Text.sameLetters_refl "PROOF"
  have hhaving : LedBy ["HAVING", "PROOF", "ORDER", "LIMIT", "OFFSET"] q.written.fromHaving :=
    hproof.option (opened_renderedClause ["HAVING"] _)
  have hgroup : LedBy ["GROUP", "HAVING", "PROOF", "ORDER", "LIMIT", "OFFSET"]
      q.written.fromGroup := hhaving.option (opened_renderedClause ["GROUP", "BY"] _)
  exact hgroup.option (opened_renderedClause ["WHERE"] _)

/-- The words from the PROOF clause on, without those ahead of it. -/
theorem dropWhile_proof (written : WrittenQuery) (opening : String) (chain tail : List String)
    (hbefore : ∀ word ∈ written.beforeProof, Text.sameLetters word "PROOF" = false)
    (hopening : Text.sameLetters opening "PROOF" = true)
    (hproof : written.fromProof = opening :: chain ++ tail) :
    written.afterSource.dropWhile (fun word => !Text.sameLetters word "PROOF") =
      opening :: chain ++ tail := by
  have hpass : ∀ word ∈ written.beforeProof, (!Text.sameLetters word "PROOF") = true := by
    intro word hword
    rw [hbefore word hword]
    rfl
  rw [written.afterSource_eq, List.dropWhile_append_of_pos hpass, hproof]
  simp [hopening]

/-- A clause keyword for the type of a proof is not read. -/
theorem operand_of_words {written : WrittenQuery} (hq : q.Writable config.registry)
    (h : written.WellFormed config) (hwords : written.words = q.written.words)
    (hproof : WrittenChain.optionSpecs written.proof = q.proof) :
    ∀ spec ∈ q.proof, Text.isAnyOf spec.proofType Rule.clauseKeywords = false := by
  have hselect : ∀ word ∈ q.written.select.words, Text.sameLetters word "FROM" = false := by
    intro word hword
    rcases List.mem_append.mp hword with hword | hword
    · obtain rfl : word = "SELECT" := by simpa [Query.written] using hword
      decide
    · exact select_from_written (last_ne_from_of_words h hwords) word hword
  have hafter : written.afterSource = q.written.afterSource := by
    rw [← h.afterSource_words, hwords]
    exact afterSource_append hselect hq.source.written_wellFormed
      (q.ledBy_written.head_eq (by decide))
  cases hchain : written.proof with
  | none =>
    rw [hchain] at hproof
    rw [← hproof]
    simp [WrittenChain.optionSpecs]
  | some chain =>
    rw [hchain] at hproof
    have hspecs : chain.specs = q.proof := hproof
    have hne : q.proof ≠ [] := by
      rw [← hspecs]
      exact List.cons_ne_nil _ _
    -- nothing ahead of the PROOF clause is PROOF, so it begins at the same word in both
    have hread := dropWhile_proof written chain.opening
      (chain.head.words ++ WrittenChain.linkWords chain.links) written.fromOrder
      (WrittenQuery.beforeProof_apart h.filter h.groupBy h.having (Or.inl rfl))
      (h.proof chain hchain).opening (by
        rw [WrittenQuery.fromProof, hchain]
        rfl)
    have hrendered := dropWhile_proof q.written "PROOF" (proofWords q.proof) q.written.fromOrder
      (WrittenQuery.beforeProof_apart (renderedClause_text hq.filter).2
        (renderedClause_fields hq.groupBy).2 (renderedClause_text hq.having).2 (Or.inl rfl))
      (by decide) (by
        change WrittenChain.optionWords (writtenProof q.proof) ++ _ = _
        rw [optionWords_writtenProof hne])
    rw [hafter, hrendered] at hread
    exact (h.proof chain hchain).operand_of_words hq.proof hspecs hread.symm

end Query

/-- **The canonical rendering of a query, exactly.**  A query that was read comes back from its
rendering if and only if something is written in its SELECT list, the last item there is not the
bare word FROM, and no proof type is a clause keyword. -/
theorem parseStatement_render_query_iff {config : Config} {input : String} {q : Query}
    (hregistry : config.registry.Reachable)
    (h : (parseStatement config input).result = .ok (.query q)) :
    (parseStatement config (Statement.query q).render).result = .ok (.query q) ↔
      (q.select.modalities ≠ [] ∨ q.select.aggregates ≠ []) ∧
      (q.select.items.map SelectItem.render).getLast? ≠ some "FROM" ∧
      ∀ spec ∈ q.proof, Text.isAnyOf spec.proofType Rule.clauseKeywords = false := by
  have hwritable : q.Writable config.registry := by
    rw [parseStatement_query_iff, parseQuery, Outcome.accepted_result,
      Rule.query_run_eq_ok_iff] at h
    obtain ⟨written, hformed, -, hwords, rfl⟩ := h
    refine hformed.writable hregistry fun w hw => ?_
    rw [hwords, map_text_tokenize] at hw
    exact Text.isWord_of_mem_words hw
  have hitems : q.select.items ≠ [] ↔ q.select.modalities ≠ [] ∨ q.select.aggregates ≠ [] := by
    obtain ⟨xs, -, hcollect⟩ := hwritable.select
    rw [← hcollect, ne_eq, SelectList.items_collect_eq_nil, not_and_or]
  rw [parseStatement_query_iff, parseQuery, Outcome.accepted_result, Rule.query_run_eq_ok_iff,
    map_text_tokenize, ← hitems]
  change (∃ written : WrittenQuery, _ ∧ _ ∧ written.words = Text.words q.render ∧ _) ↔ _
  rw [hwritable.words_render]
  -- read again, the rendering is divided somehow; conversely it is divided as it was written
  constructor
  · rintro ⟨written, hformed, -, hwords, hquery⟩
    refine ⟨Query.items_ne_nil_of_words hformed hwords,
      Query.last_ne_from_of_words hformed hwords, ?_⟩
    exact Query.operand_of_words hwritable hformed hwords (congrArg Query.proof hquery)
  · rintro ⟨hne, hlast, htypes⟩
    exact ⟨q.written, hwritable.written_wellFormed hne hlast htypes, ⟨by simp, by simp⟩, rfl,
      hwritable.query_written⟩

/-- A query with interleaved items and a PROOF chain comes back from its rendering.  One whose
proof type is a clause keyword is read, from a text where the parenthesis touches the keyword, and
does not come back: the rendering sets the two apart. -/
theorem parseStatement_render_interleaved :
    let query : Query :=
      { select := ⟨[.modality .vector, .modality .graph, .modality .document],
          [⟨.vector, "b"⟩], [.ofField .avg ⟨.graph, "a"⟩, .countAll]⟩
        source := .federation "f" (some "STRICT")
        filter := some "a = b"
        groupBy := [⟨.graph, "x"⟩]
        proof := [⟨"t", "c (d)"⟩, ⟨"u", "e"⟩]
        orderBy := [⟨⟨.vector, "y"⟩, .desc⟩, ⟨⟨.graph, "x"⟩, .asc⟩]
        limit := some 7 }
    let bounded : Query :=
      { select := ⟨[.modality .vector], [⟨.vector, "b"⟩], []⟩, source := .hexad "h1"
        proof := [⟨"LIMIT", "c"⟩] }
    (parseStatement {} (Statement.query query).render).result = .ok (.query query) ∧
      (parseStatement {} (Statement.query bounded).render).result ≠ .ok (.query bounded) := by
  intro query bounded
  have hquery : (parseStatement {} ("select vector.b avg (graph.a) document,count(*) from " ++
      "federation f with drift strict where a  = b group by graph.x proof t( c (d)) and u(e) " ++
      "order by vector.y desc, graph.x limit 7")).result = .ok (.query query) := by
    decide +kernel
  have hbounded : (parseStatement {} "select vector.b from hexad h1 proof LIMIT(c)").result =
      .ok (.query bounded) := by
    decide +kernel
  constructor
  · exact (parseStatement_render_query_iff Registry.Reachable.builtin hquery).mpr
      ⟨by decide, by decide, by decide⟩
  · intro hback
    have htypes := ((parseStatement_render_query_iff .builtin hbounded).mp hback).2.2
    exact absurd (htypes _ List.mem_cons_self) (by decide)

end HexadQuery
