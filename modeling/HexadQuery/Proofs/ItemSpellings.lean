/-
# How an item is spelled

`SelectItem.Spelled registry piece item` says what a piece of a SELECT list has to look like to be
an item, one rule for each kind of item, and without an order in which the kinds are tried.  The
reading of a piece, `select_item` of the source, tries them in order: the star, a call, a field,
and a registered name last.  The two agree on pieces without blanks
(`SelectItem.parse?_eq_some_iff`), and every piece is one of those: it is cut out of a word.

That the order does not matter rests on the registry: its names are identifiers, so a bare name is
no star, no call and no projection.  A call and a field are told apart by the character that ends
the name, which is a parenthesis or a dot.  So the kinds exclude each other, and `Spelled` could be
read in any order.  One thing the order does decide: a call with an operand that is none, such as
`SUM(*)`, is refused as a call and not looked up as a name, but it could not be one either.

The parts come first.  A field is read by cutting at the first character that is none of a name
(`Piece.projection?_eq_some_iff`), a call by cutting at the parenthesis and at the end
(`Piece.aggregateCall?_eq_some`); both cuts are spans, and what a span cut off and what it stopped
at is all there is to know of it (`Piece.span_eq_cons`).

Two consequences are what other modules use: an item holds no comma (`Spelled.comma`) and does not
start with a parenthesis (`Spelled.head?_ne`), so whatever does is no item.
-/
import HexadQuery.Proofs.Pieces
import HexadQuery.Proofs.RegistryRuns

namespace HexadQuery

/-! ## 1. Fields

`MODALITY.field` with a name that matches the pattern of identifiers and a field of letters,
digits, underscores, dots and the like; the field may hold dots, the name may not, so the first dot
is the one between them. -/

/-- `MODALITY.field`. -/
structure Projection.SpelledBy (p : Projection) (name text : String) : Prop where
  text_eq : text = name ++ "." ++ p.field
  /-- the name is an identifier, registered or not -/
  pattern : MatchesPattern name
  /-- in the canonical casing -/
  modality : p.modality = Modality.ofName name
  field_ne : p.field ≠ ""
  /-- any characters but blanks, commas and parentheses -/
  field : ∀ c ∈ p.field.toList, Piece.isFieldChar c = true

/-- A name holds nothing but name characters, so it holds no dot. -/
theorem MatchesPattern.isNameChar {name : String} (h : MatchesPattern name) :
    ∀ c ∈ name.toList, Piece.isNameChar c = true :=
  isNameChar_of_isIdentifier ((isIdentifier_iff name).mpr h)

namespace Piece

/-- What a span cut off, and what it stopped at. -/
theorem span_eq_cons {p : Char → Bool} {cs as bs : List Char} {b : Char}
    (h : cs.span p = (as, b :: bs)) :
    cs = as ++ b :: bs ∧ (∀ c ∈ as, p c = true) ∧ p b = false := by
  rw [List.span_eq_takeWhile_dropWhile, Prod.mk.injEq] at h
  obtain ⟨rfl, hdrop⟩ := h
  refine ⟨?_, fun c hc => List.mem_takeWhile_imp hc, ?_⟩
  · rw [← hdrop, List.takeWhile_append_dropWhile]
  · have hnot := List.head?_dropWhile_not p cs
    rw [hdrop] at hnot
    exact hnot

/-- **A piece is read as the projection it spells.**  The name is cut off at the dot, the first
character that is none of a name. -/
theorem projection?_eq_some_iff {piece : String} {p : Projection} :
    projection? piece = some p ↔ ∃ name, p.SpelledBy name piece := by
  constructor
  · intro h
    unfold projection? at h
    split at h
    · next name field hspan =>
      split at h
      · next hcheck =>
        simp only [Bool.and_eq_true, decide_eq_true_eq, List.all_eq_true] at hcheck
        obtain ⟨⟨hid, hne⟩, hfield⟩ := hcheck
        obtain rfl := Option.some.inj h
        refine ⟨String.ofList name, ?_, (isIdentifier_iff _).mp hid, rfl, ?_, ?_⟩
        · rw [← String.toList_inj, (span_eq_cons hspan).1]
          simp [String.toList_append]
        · exact mt (fun hnil => by simpa using congrArg String.toList hnil) hne
        · simpa using hfield
      · exact absurd h (by simp)
    · exact absurd h (by simp)
  · rintro ⟨name, rfl, hname, hmodality, hne, hfield⟩
    have hlist : (name ++ "." ++ p.field).toList = name.toList ++ '.' :: p.field.toList := by
      simp [String.toList_append]
    have hfield_ne : decide (p.field.toList ≠ []) = true := by simpa using hne
    unfold projection?
    rw [hlist, span_isNameChar hname.isNameChar (by decide)]
    simp only [String.ofList_toList, (isIdentifier_iff name).mpr hname, hfield_ne, Bool.true_and,
      List.all_eq_true.mpr hfield, if_true, ← hmodality]

end Piece

/-! ## 2. Calls

`FUNCTION(operand)`, the name in any casing.  What may be an operand is not looked at yet: an empty
one makes no call, any other does. -/

namespace AggregateFunction

/-- The names of the functions are words of letters. -/
theorem isAlpha_keyword (function : AggregateFunction) :
    function.keyword.toList.all Char.isAlpha = true := by
  cases function <;> decide

/-- Functions are found by the spellings of their names. -/
theorem ofName?_eq_some_iff {name : String} {function : AggregateFunction} :
    ofName? name = some function ↔ Text.sameLetters name function.keyword = true := by
  constructor
  · intro h
    have hfound := List.find?_some h
    rwa [Text.sameLetters_comm] at hfound
  · intro h
    have hname : ofName? name = ofName? function.keyword := by
      refine congrArg (List.find? · _) (funext fun other => ?_)
      exact Text.sameLetters_congr_right h other.keyword
    rw [hname, SelectItem.ofName?_keyword]

end AggregateFunction

/-- A spelling of a word of letters has letters only. -/
theorem Text.isAlpha_of_sameLetters {word keyword : String} (h : sameLetters word keyword = true)
    (hk : keyword.toList.all Char.isAlpha = true) : ∀ c ∈ word.toList, c.isAlpha = true := by
  intro c hc
  by_contra hnot
  rw [sameLetters_of_not_alpha hc (by simpa using hnot) hk] at h
  exact absurd h (by simp)

/-- The name of a call, in some casing. -/
def NamesFunction (name : String) (function : AggregateFunction) : Prop :=
  Text.sameLetters name function.keyword = true

namespace NamesFunction

variable {name : String} {function : AggregateFunction}

/-- A name of a function is letters. -/
theorem isAlpha (h : NamesFunction name function) : ∀ c ∈ name.toList, c.isAlpha = true :=
  Text.isAlpha_of_sameLetters h function.isAlpha_keyword

theorem isNameChar (h : NamesFunction name function) :
    ∀ c ∈ name.toList, Piece.isNameChar c = true :=
  fun c hc => isNameChar_of_isAlpha (h.isAlpha c hc)

/-- And at least one of them, since no function has an empty name. -/
theorem ne_nil (h : NamesFunction name function) : name.toList ≠ [] := by
  intro hnil
  have heq : name.toList.map Char.toLower = function.keyword.toList.map Char.toLower := by
    simpa [NamesFunction, Text.sameLetters] using h
  rw [hnil, List.map_nil, eq_comm, List.map_eq_nil_iff] at heq
  cases function <;> exact absurd heq (by decide)

/-- A name of a function has neither a blank nor a comma, so no cut goes through it. -/
theorem solid (h : NamesFunction name function) : Solid name :=
  solid_of_isFieldChar (mt String.toList_eq_nil_iff.mpr h.ne_nil)
    fun c hc => Or.inl (isFieldChar_of_isNameChar c (h.isNameChar c hc))

end NamesFunction

/-- A call by its characters. -/
theorem toList_call (name inside : String) :
    (name ++ "(" ++ inside ++ ")").toList = name.toList ++ '(' :: (inside.toList ++ [')']) := by
  simp [String.toList_append]

namespace Piece

/-- What the parts of a call are. -/
theorem aggregateCall?_eq_some {piece : String} {function : AggregateFunction} {op : Operand}
    (h : aggregateCall? piece = some (function, op)) :
    ∃ name inside, piece = name ++ "(" ++ inside ++ ")" ∧ NamesFunction name function ∧
      inside ≠ "" ∧ operand inside = op := by
  unfold aggregateCall? at h
  split at h
  · next name rest hspan =>
    split at h
    · next inside hinside =>
      split at h
      · exact absurd h (by simp)
      · next hne =>
        obtain ⟨found, hfound, hcall⟩ := Option.map_eq_some_iff.mp h
        obtain ⟨rfl, rfl⟩ := Prod.mk.inj hcall
        refine ⟨String.ofList name, String.ofList inside, ?_,
          AggregateFunction.ofName?_eq_some_iff.mp hfound, ?_, rfl⟩
        · -- both cuts are spans, so the parts are the piece
          rw [← String.toList_inj, toList_call, String.toList_ofList, String.toList_ofList,
            (span_eq_cons hspan).1, (span_eq_cons hinside).1]
        · exact mt (fun hnil => by simpa using congrArg String.toList hnil) hne
    · exact absurd h (by simp)
  · exact absurd h (by simp)

/-- An operand without blanks is read as it stands. -/
theorem operand_of_isWord {text : String} (h : Text.IsWord text.toList) :
    operand text =
      if text = "*" then .star
      else match projection? text with
        | some p => .field p
        | none => .other := by
  have htrim : Text.trim text = text := by
    rw [Text.trim, h.normal.trim, String.ofList_toList]
  cases hp : projection? text <;> simp only [operand, htrim, hp]

end Piece

/-! ## 3. Items

The kinds together.  Of the two directions, the one from spelling to reading is where the kinds
have to be told apart: the reading tries others first, and they must not fit. -/

/-- The item a piece spells: `*`, a registered name in some casing, `MODALITY.field`, `COUNT(*)` or
`FUNCTION(MODALITY.field)`. -/
inductive SelectItem.Spelled (registry : Registry) : String → SelectItem → Prop
  /-- the wildcard -/
  | star : Spelled registry "*" (.selected .all)
  /-- a registered name in some casing -/
  | bare {piece : String} {m : Modality} (hm : m ∈ registry.modalities)
      (hname : Text.sameLetters m.name piece = true) :
      Spelled registry piece (.selected (.modality m))
  /-- a field of a modality, which may be one that is not registered -/
  | field {piece name : String} {p : Projection} (hp : p.SpelledBy name piece) :
      Spelled registry piece (.projection p)
  /-- the one call without a field -/
  | countAll {function : String} (hname : NamesFunction function .count) :
      Spelled registry (function ++ "(" ++ "*" ++ ")") (.aggregate .countAll)
  /-- a function of a field -/
  | call {function name operand : String} {f : AggregateFunction} {p : Projection}
      (hname : NamesFunction function f) (hp : p.SpelledBy name operand) :
      Spelled registry (function ++ "(" ++ operand ++ ")") (.aggregate (.ofField f p))

namespace Projection.SpelledBy

variable {p : Projection} {name text : String}

/-- A spelled field, by its characters. -/
theorem toList_text (h : p.SpelledBy name text) :
    text.toList = name.toList ++ '.' :: p.field.toList := by
  rw [h.text_eq]
  simp [String.toList_append]

/-- It holds nothing but field characters, the dot being one of them. -/
theorem isFieldChar (h : p.SpelledBy name text) :
    ∀ c ∈ text.toList, Piece.isFieldChar c = true := by
  intro c hc
  rw [h.toList_text] at hc
  rcases List.mem_append.mp hc with hc | hc
  · exact isFieldChar_of_isNameChar c (h.pattern.isNameChar c hc)
  rcases List.mem_cons.mp hc with rfl | hc
  · decide
  · exact h.field c hc

/-- It holds a dot, which tells it from a bare name. -/
theorem dot_mem (h : p.SpelledBy name text) : '.' ∈ text.toList := by
  rw [h.toList_text]
  simp

theorem solid (h : p.SpelledBy name text) : Solid text := by
  refine solid_of_isFieldChar ?_ fun c hc => Or.inl (h.isFieldChar c hc)
  rintro rfl
  exact absurd h.dot_mem (by simp)

/-- No field is written with a star alone. -/
theorem ne_star (h : p.SpelledBy name text) : text ≠ "*" := by
  rintro rfl
  exact absurd h.dot_mem (by decide)

/-- A field is no call: a dot ends its name. -/
theorem aggregateCall?_eq_none (h : p.SpelledBy name text) : Piece.aggregateCall? text = none := by
  refine Piece.aggregateCall?_eq_none h.pattern.isNameChar ?_ h.toList_text
  intro c hc
  obtain rfl : '.' = c := by simpa using hc
  decide

/-- A field is read as an operand. -/
theorem operand_eq (h : p.SpelledBy name text) : Piece.operand text = .field p := by
  rw [Piece.operand_of_isWord h.solid.isWord, if_neg h.ne_star,
    Piece.projection?_eq_some_iff.mpr ⟨name, h⟩]

end Projection.SpelledBy

namespace SelectItem

variable {registry : Registry} {piece : String} {item : SelectItem}

/-- A call of a function is read by what its operand is. -/
theorem parse?_of_call {name inside : String} {function : AggregateFunction}
    (hname : NamesFunction name function) (hne : inside ≠ "")
    (hinside : ∀ c ∈ inside.toList, c ≠ '(' ∧ c ≠ ')') :
    parse? registry (name ++ "(" ++ inside ++ ")") =
      match function, Piece.operand inside with
      | .count, .star => some (.aggregate .countAll)
      | function, .field operand => some (.aggregate (.ofField function operand))
      | _, _ => none := by
  have hcall : Piece.aggregateCall? (name ++ "(" ++ inside ++ ")") =
      some (function, Piece.operand inside) := by
    have hfound : AggregateFunction.ofName? (String.ofList name.toList) = some function := by
      rw [String.ofList_toList]
      exact AggregateFunction.ofName?_eq_some_iff.mpr hname
    have hread := Piece.aggregateCall?_render hname.isNameChar hfound
      (mt String.toList_eq_nil_iff.mp hne) hinside (toList_call name inside)
    rwa [String.ofList_toList] at hread
  have hstar : name ++ "(" ++ inside ++ ")" ≠ "*" := by
    intro hstar
    rw [hstar, show Piece.aggregateCall? "*" = none by decide] at hcall
    exact absurd hcall (by simp)
  unfold parse?
  rw [if_neg hstar, hcall]
  cases function <;> cases Piece.operand inside <;> rfl

/-- A field is an item under every registry. -/
theorem parse?_of_field {name : String} {p : Projection} (hp : p.SpelledBy name piece) :
    parse? registry piece = some (.projection p) := by
  unfold parse?
  rw [if_neg hp.ne_star, hp.aggregateCall?_eq_none, Piece.projection?_eq_some_iff.mpr ⟨_, hp⟩]

/-- So is a function of a field. -/
theorem parse?_of_fieldCall {function name operand : String} {f : AggregateFunction}
    {p : Projection} (hname : NamesFunction function f) (hp : p.SpelledBy name operand) :
    parse? registry (function ++ "(" ++ operand ++ ")") = some (.aggregate (.ofField f p)) := by
  have hne : operand ≠ "" := by
    rintro rfl
    exact absurd hp.dot_mem (by simp)
  have hinside : ∀ c ∈ operand.toList, c ≠ '(' ∧ c ≠ ')' := by
    intro c hc
    have hfield := hp.isFieldChar c hc
    constructor
    · rintro rfl
      exact absurd hfield (by decide)
    · rintro rfl
      exact absurd hfield (by decide)
  rw [parse?_of_call hname hne hinside, hp.operand_eq]
  cases f <;> rfl

/-- What spells an item is read as it. -/
theorem Spelled.parse?_eq (hregistry : registry.Reachable) (h : Spelled registry piece item) :
    parse? registry piece = some item := by
  cases h with
  | star => rfl
  | bare hm hname =>
    rw [parse?_of_isIdentifier (hregistry.isIdentifier_of_spelled ⟨_, hm, hname⟩),
      hregistry.resolve?_eq_some_iff.mpr ⟨hm, hname⟩, Option.map_some]
  | field hp => exact parse?_of_field hp
  | countAll hname =>
    rw [parse?_of_call hname (by decide) (by simp), show Piece.operand "*" = .star by decide]
  | call hname hp => exact parse?_of_fieldCall hname hp

/-- What is read as an item spells it, if it has no blanks. -/
theorem spelled_of_parse? (hpiece : Text.IsWord piece.toList)
    (h : parse? registry piece = some item) : Spelled registry piece item := by
  have hoperand : ∀ {name inside : String}, piece = name ++ "(" ++ inside ++ ")" → inside ≠ "" →
      Text.IsWord inside.toList := by
    rintro name inside rfl hne
    refine ⟨mt String.toList_eq_nil_iff.mp hne, fun c hc => hpiece.solid c ?_⟩
    rw [toList_call]
    simp [hc]
  unfold parse? at h
  split at h
  · next hstar =>
    obtain rfl := Option.some.inj h
    rw [hstar]
    exact .star
  split at h
  · next hcall =>
    obtain rfl := Option.some.inj h
    obtain ⟨name, inside, hpiece_eq, hname, hne, hop⟩ := Piece.aggregateCall?_eq_some hcall
    rw [Piece.operand_of_isWord (hoperand hpiece_eq hne)] at hop
    split at hop
    · next hstar =>
      rw [hpiece_eq, hstar]
      exact .countAll hname
    · split at hop <;> exact absurd hop (by simp)
  · next function p hcall =>
    obtain rfl := Option.some.inj h
    obtain ⟨name, inside, hpiece_eq, hname, hne, hop⟩ := Piece.aggregateCall?_eq_some hcall
    rw [Piece.operand_of_isWord (hoperand hpiece_eq hne)] at hop
    split at hop
    · exact absurd hop (by simp)
    · split at hop
      · next found hfound =>
        obtain rfl : found = p := by simpa using hop
        obtain ⟨field, hfield⟩ := Piece.projection?_eq_some_iff.mp hfound
        rw [hpiece_eq]
        exact .call hname hfield
      · exact absurd hop (by simp)
  · exact absurd h (by simp)
  · split at h
    · next p hp =>
      obtain rfl := Option.some.inj h
      obtain ⟨name, hname⟩ := Piece.projection?_eq_some_iff.mp hp
      exact .field hname
    · obtain ⟨m, hm, rfl⟩ := Option.map_eq_some_iff.mp h
      obtain ⟨hmem, hspell⟩ := Registry.resolve?_eq_some hm
      exact .bare hmem hspell

/-- No item is spelled with a comma. -/
theorem Spelled.comma (hregistry : registry.Reachable) (h : Spelled registry piece item) :
    ',' ∉ piece.toList := by
  cases h with
  | star => decide
  | bare hm hname =>
    have hid := hregistry.isIdentifier_of_spelled ⟨_, hm, hname⟩
    exact fun hc => absurd (isNameChar_of_isIdentifier hid ',' hc) (by decide)
  | field hp => exact hp.solid.comma
  | countAll hname =>
    rw [toList_call]
    simp [hname.solid.comma]
  | call hname hp =>
    rw [toList_call]
    simp [hname.solid.comma, hp.solid.comma]

/-- No item starts with a parenthesis. -/
theorem Spelled.head?_ne (hregistry : registry.Reachable) (h : Spelled registry piece item) :
    piece.toList.head? ≠ some '(' := by
  have hcall : ∀ {name inside : String} {f : AggregateFunction}, NamesFunction name f →
      (name ++ "(" ++ inside ++ ")").toList.head? ≠ some '(' := by
    intro name inside f hname hopens
    rw [toList_call, List.head?_append_of_ne_nil _ hname.ne_nil] at hopens
    exact absurd (hname.isAlpha '(' (List.mem_of_mem_head? hopens)) (by decide)
  cases h with
  | star => decide
  | bare hm hname =>
    have hid := hregistry.isIdentifier_of_spelled ⟨_, hm, hname⟩
    exact fun hopens =>
      absurd (isNameChar_of_isIdentifier hid '(' (List.mem_of_mem_head? hopens)) (by decide)
  | field hp =>
    exact fun hopens => absurd (hp.isFieldChar '(' (List.mem_of_mem_head? hopens)) (by decide)
  | countAll hname => exact hcall hname
  | call hname _ => exact hcall hname

/-- **A piece without blanks is read as the item it spells.**  Each kind of item is read as it is
spelled; that no kind is taken for one that is tried before is a fact about the first character
which is none of a name. -/
theorem parse?_eq_some_iff (hregistry : registry.Reachable) (hpiece : Text.IsWord piece.toList) :
    parse? registry piece = some item ↔ Spelled registry piece item :=
  ⟨spelled_of_parse? hpiece, fun h => h.parse?_eq hregistry⟩

end SelectItem

end HexadQuery
