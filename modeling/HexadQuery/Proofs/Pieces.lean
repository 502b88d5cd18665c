/-
# Pieces and what they are written as

A piece is read as a projection, an aggregate call or a registered name, and each of these is
written as one piece again.  What reading guarantees is gathered in `Projection.Writable`,
`Aggregate.Writable` and `SelectItem.Writable`: exactly what writing and reading again needs.

Renderings of writable parts are words without commas, so a list of them is cut at its commas and
nowhere else (`flatMap_commaWords`, `selectTexts_commaWords`).  The lists are those of
`write_list`: a comma and a space between two texts, so each comma ends a word and no word has one
inside.

Each kind of part has the same three lemmas, up to names.  What was read is writable, what is
writable is read back from its rendering, and the rendering is `Solid`.  For a projection the first
two rest on where the name ends, at the first character that is none of a name, which is the dot;
for a call on the parenthesis; for a bare name on the registry, which resolves the keyword of a
modality to that modality.

Readings try the kinds in an order, so a rendering has to be kept from being taken for another
kind: a call is not a field, since its name ends in a parenthesis (`Piece.aggregateCall?_eq_none`),
and a field is no direction and no keyword, since it holds a dot (`Direction.ofName?_render`,
`Projection.sameLetters_render`).

The exception is the word FROM.  A modality may have that name, and then its rendering ends the
list where it stands.  `SelectItem.eq_from_of_sameLetters` says that this is the only item which
does.
-/
import HexadQuery.Proofs.QueryGrammar
import HexadQuery.Statement.Printer

namespace HexadQuery

/-! ## 1. Comma lists

Cutting a text at its commas and dropping the empty pieces.  The lemmas are about where a comma
comes in: at the end of one part, between two, or nowhere. -/

namespace Piece

/-- An empty text has no piece. -/
@[simp] theorem commaPieces_empty : commaPieces "" = [] := rfl

/-- A comma parts pieces. -/
theorem commaPieces_append_comma (front back : String) :
    commaPieces (front ++ "," ++ back) = commaPieces front ++ commaPieces back := by
  have hlist : (front ++ "," ++ back).toList = front.toList ++ ',' :: back.toList := by
    simp [String.toList_append]
  rw [commaPieces, hlist, List.splitOn_append_cons_self, List.filter_append, List.map_append]
  rfl

/-- A comma at the end ends a piece and starts none. -/
theorem commaPieces_comma (front : String) : commaPieces (front ++ ",") = commaPieces front := by
  have h := commaPieces_append_comma front ""
  rwa [String.append_empty, commaPieces_empty, List.append_nil] at h

/-- What is empty or ends in a comma is cut apart from what follows. -/
theorem commaPieces_append {front : String} (h : front = "" ∨ ∃ text, front = text ++ ",")
    (back : String) : commaPieces (front ++ back) = commaPieces front ++ commaPieces back := by
  rcases h with rfl | ⟨text, rfl⟩
  · rw [String.empty_append, commaPieces_empty, List.nil_append]
  · rw [commaPieces_append_comma, commaPieces_comma]

/-- A text without commas is one piece. -/
theorem commaPieces_of_not_mem {text : String} (hne : text ≠ "") (h : ',' ∉ text.toList) :
    commaPieces text = [text] := by
  rw [commaPieces, List.splitOn_eq_singleton h, List.filter_cons_of_pos]
  · simp
  · simpa using hne

/-- Commas at the end of a text make no pieces. -/
theorem commaPieces_append_commas (text : String) {commas : String}
    (h : ∀ c ∈ commas.toList, c = ',') : commaPieces (text ++ commas) = commaPieces text := by
  have hcount : ∀ n,
      commaPieces (text ++ String.ofList (List.replicate n ',')) = commaPieces text := by
    intro n
    induction n with
    | zero => rw [List.replicate_zero, String.ofList_nil, String.append_empty]
    | succ n ih =>
      rw [List.replicate_succ', String.ofList_append, ← String.append_assoc,
        show String.ofList [','] = "," from rfl, commaPieces_comma, ih]
  have hcommas : commas = String.ofList (List.replicate commas.toList.length ',') := by
    rw [← List.eq_replicate_length.mpr h, String.ofList_toList]
  rw [hcommas]
  exact hcount _

/-- A text is cut behind its last comma. -/
theorem exists_last_comma (text : String) : ∃ front back, text = front ++ back ∧
    (front = "" ∨ ∃ more, front = more ++ ",") ∧ ',' ∉ back.toList := by
  have hlist : ∀ cs : List Char, ∃ front back, cs = front ++ back ∧
      (front = [] ∨ ∃ more, front = more ++ [',']) ∧ ',' ∉ back := by
    intro cs
    induction cs using List.reverseRecOn with
    | nil => exact ⟨[], [], rfl, Or.inl rfl, by simp⟩
    | append_singleton cs c ih =>
      by_cases hc : c = ','
      · exact ⟨cs ++ [c], [], by simp, Or.inr ⟨cs, by rw [hc]⟩, by simp⟩
      · obtain ⟨front, back, rfl, hfront, hback⟩ := ih
        exact ⟨front, back ++ [c], by simp, hfront, by simp [hback, Ne.symm hc]⟩
  obtain ⟨front, back, heq, hfront, hback⟩ := hlist text.toList
  refine ⟨String.ofList front, String.ofList back, ?_, ?_, by simpa using hback⟩
  · rw [← String.ofList_append, ← heq, String.ofList_toList]
  · rcases hfront with rfl | ⟨more, rfl⟩
    · exact Or.inl rfl
    · exact Or.inr ⟨String.ofList more, by rw [String.ofList_append]⟩

/-- A piece of a word is a word. -/
theorem isWord_of_mem_commaPieces {word piece : String} (hword : Text.IsWord word.toList)
    (h : piece ∈ commaPieces word) : Text.IsWord piece.toList := by
  obtain ⟨cs, hcs, rfl⟩ := List.mem_map.mp h
  obtain ⟨hmem, hne⟩ := List.mem_filter.mp hcs
  rw [String.toList_ofList]
  refine ⟨by simpa using hne, fun c hc => hword.solid c ?_⟩
  have hjoin : [','].intercalate (word.toList.splitOn ',') = word.toList :=
    List.intercalate_splitOn ','
  rw [← hjoin]
  exact (infix_intercalate hmem).subset hc

end Piece

/-- A word without commas. -/
structure Solid (text : String) : Prop where
  isWord : Text.IsWord text.toList
  comma : ',' ∉ text.toList

/-- With a comma behind it, it is still one word. -/
theorem Solid.isWord_comma {text : String} (h : Solid text) :
    Text.IsWord (text ++ ",").toList := by
  rw [String.toList_append]
  refine ⟨by simp, ?_⟩
  intro c hc
  rcases List.mem_append.mp hc with hc | hc
  · exact h.isWord.solid c hc
  · obtain rfl : c = ',' := by simpa using hc
    decide

/-- A text without commas is one piece, and so it is with a comma behind it. -/
theorem Solid.commaPieces {text : String} (h : Solid text) : Piece.commaPieces text = [text] :=
  Piece.commaPieces_of_not_mem (mt String.toList_eq_nil_iff.mpr h.isWord.ne_nil) h.comma

theorem Solid.commaPieces_comma {text : String} (h : Solid text) :
    Piece.commaPieces (text ++ ",") = [text] :=
  (Piece.commaPieces_comma text).trans h.commaPieces

/-- The words of a comma list of words. -/
def commaWords : List String → List String
  | [] => []
  | [text] => [text]
  | text :: next :: texts => (text ++ ",") :: commaWords (next :: texts)

/-- **A rendered list has a word for each of its texts**, with the comma at all but the last.
The texts have no blanks, so the space behind each comma is where words end. -/
theorem words_commaList : ∀ {texts : List String}, (∀ text ∈ texts, Solid text) →
    Text.words (commaList texts) = commaWords texts
  | [], _ => rfl
  | [text], h => by
    rw [commaList, String.intercalate_singleton]
    exact Text.words_of_isWord (h text List.mem_cons_self).isWord
  | text :: next :: texts, h => by
    have hlist : commaList (text :: next :: texts) =
        (text ++ ",") ++ " " ++ commaList (next :: texts) := by
      rw [commaList, String.intercalate_cons_cons, ← String.toList_inj]
      simp [String.toList_append, commaList]
    rw [hlist, Text.words_append_space,
      Text.words_of_isWord (h text List.mem_cons_self).isWord_comma,
      words_commaList fun t ht => h t (List.mem_cons_of_mem _ ht)]
    rfl

/-- The words of a comma list end in a comma, up to the last. -/
theorem commaWords_eq : ∀ {texts : List String} {last : String}, texts.getLast? = some last →
    ∃ front, commaWords texts = front ++ [last] ∧ ∀ word ∈ front, ∃ text, word = text ++ ","
  | [], _, h => by simp at h
  | [text], last, h => by
    obtain rfl : text = last := by simpa using h
    exact ⟨[], rfl, by simp⟩
  | text :: next :: texts, last, h => by
    rw [List.getLast?_cons_cons] at h
    obtain ⟨front, heq, hfront⟩ := commaWords_eq h
    refine ⟨(text ++ ",") :: front, by rw [commaWords, heq]; rfl, ?_⟩
    intro word hword
    rcases List.mem_cons.mp hword with rfl | hword
    · exact ⟨text, rfl⟩
    · exact hfront word hword

/-- A word of a comma list has the characters of one of the texts. -/
theorem exists_of_mem_commaWords : ∀ {texts : List String} {word : String},
    word ∈ commaWords texts → ∃ text ∈ texts, word = text ++ "," ∨ word = text
  | [], _, h => by simp [commaWords] at h
  | [text], word, h => ⟨text, List.mem_cons_self, Or.inr (by simpa [commaWords] using h)⟩
  | text :: next :: texts, word, h => by
    rcases List.mem_cons.mp h with rfl | h
    · exact ⟨text, List.mem_cons_self, Or.inl rfl⟩
    · obtain ⟨t, ht, hw⟩ := exists_of_mem_commaWords h
      exact ⟨t, List.mem_cons_of_mem _ ht, hw⟩

/-- A list with a text has a word. -/
theorem commaWords_ne_nil : ∀ {texts : List String}, texts ≠ [] → commaWords texts ≠ []
  | [], h => absurd rfl h
  | [_], _ => by simp [commaWords]
  | _ :: _ :: _, _ => by simp [commaWords]

/-- **A comma list is cut at its commas.**  The texts have no commas, so what is cut off a word
is its last character. -/
theorem flatMap_commaWords : ∀ {texts : List String}, (∀ text ∈ texts, Solid text) →
    (commaWords texts).flatMap Piece.commaPieces = texts
  | [], _ => rfl
  | [text], h => by simp [commaWords, (h text List.mem_cons_self).commaPieces]
  | text :: next :: texts, h => by
    rw [commaWords, List.flatMap_cons, (h text List.mem_cons_self).commaPieces_comma,
      flatMap_commaWords fun t ht => h t (List.mem_cons_of_mem _ ht)]
    rfl

/-- A word that ends in a comma does not wait for an operand. -/
theorem awaitsOperand_comma (text : String) :
    SelectPiece.awaitsOperand (Token.ofWord (text ++ ",")) = false := by
  simp [SelectPiece.awaitsOperand, Token.ofWord, String.toList_append]

/-- **A SELECT list of such texts is cut at its commas**: no text takes the next for its operand.
Only the last word does not end in a comma, and nothing is behind it. -/
theorem selectTexts_commaWords : ∀ {texts : List String}, (∀ text ∈ texts, Solid text) →
    selectTexts (commaWords texts) = texts
  | [], _ => rfl
  | [text], h => by
    simp [commaWords, selectTexts, SelectPiece.ofTokens, SelectPiece.ofToken, Token.ofWord,
      (h text List.mem_cons_self).commaPieces]
  | text :: next :: texts, h => by
    have ih := selectTexts_commaWords fun t ht => h t (List.mem_cons_of_mem text ht)
    obtain ⟨word, words, hwords⟩ := List.exists_cons_of_ne_nil
      (commaWords_ne_nil (List.cons_ne_nil next texts))
    rw [commaWords, hwords]
    rw [hwords] at ih
    simp only [selectTexts, List.map_cons] at ih ⊢
    rw [SelectPiece.ofTokens, awaitsOperand_comma, Bool.false_and, if_neg (by simp),
      List.map_append, ih]
    simp [SelectPiece.ofToken, Token.ofWord, (h text List.mem_cons_self).commaPieces_comma]

/-! ## 2. Projections

`MODALITY.field`.  The modality is written in capitals, and the field as it is. -/

/-- Characters of names are characters of fields. -/
theorem isFieldChar_of_isNameChar (c : Char) (h : Piece.isNameChar c = true) :
    Piece.isFieldChar c = true := by
  have hlt : c.toNat < 128 := toNat_lt_of_isNameChar h
  refine forall_char (P := fun c => c.toNat < 128 → Piece.isNameChar c = true →
    Piece.isFieldChar c = true) (by decide) ?_ c hlt h
  intro c hle hlt
  omega

/-- Field characters and parentheses are neither blanks nor commas. -/
theorem solid_of_isFieldChar {text : String} (hne : text ≠ "")
    (h : ∀ c ∈ text.toList, Piece.isFieldChar c = true ∨ c = '(' ∨ c = ')') : Solid text := by
  refine ⟨⟨mt String.toList_eq_nil_iff.mp hne, fun c hc => ?_⟩, fun hc => ?_⟩
  · rcases h c hc with hfield | rfl | rfl
    · simp only [Piece.isFieldChar, Bool.and_eq_true, Bool.not_eq_true'] at hfield
      exact hfield.2
    · decide
    · decide
  · exact absurd (h ',' hc) (by decide)

/-- What `MODALITY.field` can be read as. -/
structure Projection.Writable (projection : Projection) : Prop where
  /-- so it is found again by its keyword -/
  modality : projection.modality.IsCanonical
  field_ne : projection.field ≠ ""
  /-- so the rendering is one word and one piece -/
  field : ∀ c ∈ projection.field.toList, Piece.isFieldChar c = true

/-- The keyword of a modality is made of name characters. -/
theorem Modality.IsCanonical.isNameChar {modality : Modality} (h : modality.IsCanonical) :
    ∀ c ∈ modality.keyword.toList, Piece.isNameChar c = true :=
  isNameChar_of_isIdentifier h.isIdentifier_keyword

/-- A name ends at the first character that is none of a name. -/
theorem span_isNameChar {name rest : List Char} {c : Char}
    (hname : ∀ c ∈ name, Piece.isNameChar c = true) (hc : Piece.isNameChar c = false) :
    (name ++ c :: rest).span Piece.isNameChar = (name, c :: rest) := by
  rw [List.span_eq_takeWhile_dropWhile, List.takeWhile_append_of_pos hname,
    List.dropWhile_append_of_pos hname, List.takeWhile_cons_of_neg (by simp [hc]),
    List.dropWhile_cons_of_neg (by simp [hc]), List.append_nil]

/-- A rendered projection, by its characters. -/
theorem Projection.toList_render (projection : Projection) :
    projection.render.toList =
      projection.modality.keyword.toList ++ '.' :: projection.field.toList := by
  simp [render, String.toList_append]

namespace Piece

/-- **What is read as a projection is writable.**  The name ahead of the dot is an identifier, so
the modality is canonical; the field is made of field characters and is not empty. -/
theorem writable_of_projection? {piece : String} {projection : Projection}
    (h : projection? piece = some projection) : projection.Writable := by
  unfold projection? at h
  split at h
  · next name field hspan =>
    split at h
    · next hcheck =>
      simp only [Bool.and_eq_true, decide_eq_true_eq, List.all_eq_true] at hcheck
      obtain rfl := Option.some.inj h
      refine ⟨Modality.isCanonical_ofName hcheck.1.1, ?_, ?_⟩
      · exact mt (fun hnil => by simpa using congrArg String.toList hnil) hcheck.1.2
      · simpa using hcheck.2
    · exact absurd h (by simp)
  · exact absurd h (by simp)

/-- **A writable projection is read back.**  The rendering has the name in capitals, and the same
modality is found by it. -/
theorem projection?_render {projection : Projection} (h : projection.Writable) :
    projection? projection.render = some projection := by
  unfold projection?
  rw [projection.toList_render, span_isNameChar h.modality.isNameChar (by decide)]
  have hfield : (decide (projection.field.toList ≠ [])) = true := by
    simpa using h.field_ne
  simp only [String.ofList_toList, h.modality.isIdentifier_keyword, hfield, Bool.true_and,
    List.all_eq_true.mpr h.field, if_true, h.modality.ofName_keyword]

end Piece

namespace Projection

variable {projection : Projection}

/-- It is not empty, because of its dot. -/
theorem render_ne (projection : Projection) : projection.render ≠ "" := by
  intro h
  have := congrArg String.toList h
  simp [toList_render] at this

/-- It is made of field characters, the dot among them. -/
theorem Writable.isFieldChar_render (h : projection.Writable) :
    ∀ c ∈ projection.render.toList, Piece.isFieldChar c = true := by
  intro c hc
  rw [toList_render] at hc
  rcases List.mem_append.mp hc with hc | hc
  · exact isFieldChar_of_isNameChar c (h.modality.isNameChar c hc)
  rcases List.mem_cons.mp hc with rfl | hc
  · decide
  · exact h.field c hc

/-- So it is a word without commas. -/
theorem Writable.solid (h : projection.Writable) : Solid projection.render :=
  solid_of_isFieldChar projection.render_ne fun c hc => Or.inl (h.isFieldChar_render c hc)

/-- A rendered projection holds a dot, so it is no keyword. -/
theorem sameLetters_render {keyword : String} (h : keyword.toList.all Char.isAlpha = true) :
    Text.sameLetters projection.render keyword = false :=
  Text.sameLetters_of_not_alpha (c := '.') (by simp [toList_render]) (by decide) h

end Projection

/-! ## 3. Aggregates and items

An aggregate is written as a call of its field, or as `COUNT(*)`; an item is one of the three
kinds, or the star. -/

/-- What an aggregate call can be read as. -/
def Aggregate.Writable : Aggregate → Prop
  | countAll => True
  | ofField _ operand => operand.Writable

/-- What a piece of a SELECT list can be read as; a bare name resolves to its modality. -/
def SelectItem.Writable (registry : Registry) : SelectItem → Prop
  | selected .all => True
  | selected (.modality m) => m.IsCanonical ∧ registry.resolve? m.keyword = some m
  | projection p => p.Writable
  | aggregate a => a.Writable

namespace Piece

/-- The name of a call, the operand and the parentheses around it. -/
theorem aggregateCall?_render {name inside : List Char} {function : AggregateFunction}
    (hname : ∀ c ∈ name, isNameChar c = true)
    (hfunction : AggregateFunction.ofName? (String.ofList name) = some function)
    (hne : inside ≠ []) (hinside : ∀ c ∈ inside, c ≠ '(' ∧ c ≠ ')') {piece : String}
    (hpiece : piece.toList = name ++ '(' :: (inside ++ [')'])) :
    aggregateCall? piece = some (function, operand (String.ofList inside)) := by
  have hspan : (inside ++ [')']).span (fun c => c != '(' && c != ')') = (inside, [')']) := by
    have hpos : ∀ c ∈ inside, (c != '(' && c != ')') = true := by
      intro c hc
      simpa using hinside c hc
    rw [List.span_eq_takeWhile_dropWhile, List.takeWhile_append_of_pos hpos,
      List.dropWhile_append_of_pos hpos]
    simp
  unfold aggregateCall?
  rw [hpiece, span_isNameChar hname (by decide)]
  simp only [hspan, hne, if_false, hfunction, Option.map_some]

/-- A piece whose name is not followed by a parenthesis is no call. -/
theorem aggregateCall?_eq_none {name rest : List Char} (hname : ∀ c ∈ name, isNameChar c = true)
    (hrest : ∀ c, rest.head? = some c → isNameChar c = false ∧ c ≠ '(') {piece : String}
    (hpiece : piece.toList = name ++ rest) : aggregateCall? piece = none := by
  unfold aggregateCall?
  rw [hpiece]
  cases rest with
  | nil =>
    have hspan : (name ++ []).span isNameChar = (name, []) := by
      rw [List.append_nil, List.span_eq_takeWhile_dropWhile, List.takeWhile_eq_self_iff.mpr hname,
        List.dropWhile_eq_nil_iff.mpr hname]
    rw [hspan]
  | cons c cs =>
    obtain ⟨hc, hopen⟩ := hrest c rfl
    rw [span_isNameChar hname hc]
    split
    · next heq =>
      simp only [Prod.mk.injEq, List.cons.injEq] at heq
      exact absurd heq.2.1 hopen
    · rfl

/-- The operand of a rendered call is read as the field it is. -/
theorem operand_render {projection : Projection} (h : projection.Writable) :
    operand projection.render = .field projection := by
  have htrim : Text.trim projection.render = projection.render := by
    rw [Text.trim, h.solid.isWord.normal.trim, String.ofList_toList]
  have hstar : projection.render ≠ "*" := by
    intro hstar
    have := congrArg String.toList hstar
    rw [projection.toList_render] at this
    simp [List.append_eq_cons_iff] at this
  unfold operand
  simp only [htrim, hstar, if_false, projection?_render h]

/-- What a call can hold, by its operand. -/
theorem writable_of_operand {text : String} {projection : Projection}
    (h : operand text = .field projection) : projection.Writable := by
  unfold operand at h
  cases hp : projection? (Text.trim text) with
  | none =>
    simp only [hp] at h
    split at h <;> exact absurd h (by simp)
  | some field =>
    simp only [hp] at h
    split at h
    · exact absurd h (by simp)
    · obtain rfl : field = projection := by simpa using h
      exact writable_of_projection? hp

/-- The operand of a call was read as one. -/
theorem exists_operand_of_aggregateCall? {piece : String} {call : AggregateFunction × Operand}
    (h : aggregateCall? piece = some call) : ∃ text, operand text = call.2 := by
  unfold aggregateCall? at h
  split at h
  · split at h
    · next inside _ =>
      split at h
      · exact absurd h (by simp)
      · obtain ⟨function, -, hcall⟩ := Option.map_eq_some_iff.mp h
        exact ⟨String.ofList inside, (Prod.mk.inj hcall).2⟩
    · exact absurd h (by simp)
  · exact absurd h (by simp)

end Piece

namespace SelectItem

variable {registry : Registry}

/-- **What is read as an item is writable.**  A bare name was resolved, so it is one that the
registry holds and will find again. -/
theorem writable_of_parse? (hregistry : registry.Reachable) {piece : String} {item : SelectItem}
    (h : parse? registry piece = some item) : item.Writable registry := by
  unfold parse? at h
  split at h
  · obtain rfl := Option.some.inj h
    trivial
  split at h
  · obtain rfl := Option.some.inj h
    trivial
  · next function operand hcall =>
    obtain rfl := Option.some.inj h
    obtain ⟨text, htext⟩ := Piece.exists_operand_of_aggregateCall? hcall
    exact Piece.writable_of_operand htext
  · exact absurd h (by simp)
  · split at h
    · next field hfield =>
      obtain rfl := Option.some.inj h
      exact Piece.writable_of_projection? hfield
    · obtain ⟨m, hm, rfl⟩ := Option.map_eq_some_iff.mp h
      exact ⟨hregistry.isCanonical m (Registry.resolve?_eq_some hm).1, Registry.resolve?_keyword hm⟩

/-- The names of the functions are known. -/
theorem ofName?_keyword (function : AggregateFunction) :
    AggregateFunction.ofName? function.keyword = some function := by
  cases function <;> decide

/-- And are made of name characters. -/
theorem isNameChar_keyword (function : AggregateFunction) :
    ∀ c ∈ function.keyword.toList, Piece.isNameChar c = true := by
  refine List.all_eq_true.mp ?_
  cases function <;> decide

/-- A rendered call, by its characters. -/
theorem toList_render_ofField (function : AggregateFunction) (operand : Projection) :
    (Aggregate.ofField function operand).render.toList =
      function.keyword.toList ++ '(' :: (operand.render.toList ++ [')']) := by
  simp [Aggregate.render, String.toList_append]

/-- An identifier is no star, no call and no projection. -/
theorem parse?_of_isIdentifier {piece : String} (h : isIdentifier piece = true) :
    parse? registry piece =
      (registry.resolve? piece).map fun modality => .selected (.modality modality) := by
  have hchars : ∀ c ∈ piece.toList, Piece.isNameChar c = true := isNameChar_of_isIdentifier h
  have hstar : piece ≠ "*" := by
    rintro rfl
    exact absurd h (by decide)
  have hcall : Piece.aggregateCall? piece = none :=
    Piece.aggregateCall?_eq_none hchars (by simp) (List.append_nil _).symm
  have hprojection : Piece.projection? piece = none := by
    unfold Piece.projection?
    rw [List.span_eq_takeWhile_dropWhile, List.dropWhile_eq_nil_iff.mpr hchars]
  unfold parse?
  rw [if_neg hstar, hcall, hprojection]

/-- **A writable item is read back.** -/
theorem parse?_render {item : SelectItem} (h : item.Writable registry) :
    parse? registry item.render = some item := by
  match item, h with
  | .selected .all, _ => rfl
  | .selected (.modality m), h =>
    change parse? registry m.keyword = _
    rw [parse?_of_isIdentifier h.1.isIdentifier_keyword, h.2, Option.map_some]
  | .projection p, h =>
    have hcall : Piece.aggregateCall? p.render = none := by
      refine Piece.aggregateCall?_eq_none h.modality.isNameChar ?_ p.toList_render
      intro c hc
      obtain rfl : '.' = c := by simpa using hc
      decide
    have hstar : p.render ≠ "*" := by
      intro hstar
      have hread := Piece.projection?_render h
      rw [hstar, show Piece.projection? "*" = none by decide] at hread
      exact absurd hread (by simp)
    change parse? registry p.render = _
    unfold parse?
    rw [if_neg hstar, hcall, Piece.projection?_render h]
  | .aggregate .countAll, _ =>
    have hcall : Piece.aggregateCall? "COUNT(*)" = some (.count, .star) := by decide
    change parse? registry "COUNT(*)" = _
    unfold parse?
    rw [if_neg (by decide), hcall]
  | .aggregate (.ofField function operand), h =>
    have hinside : ∀ c ∈ operand.render.toList, c ≠ '(' ∧ c ≠ ')' := by
      intro c hc
      have := Projection.Writable.isFieldChar_render h c hc
      constructor
      · rintro rfl
        exact absurd this (by decide)
      · rintro rfl
        exact absurd this (by decide)
    have hne : operand.render.toList ≠ [] :=
      mt String.toList_eq_nil_iff.mp operand.render_ne
    have hcall := Piece.aggregateCall?_render (isNameChar_keyword function)
      (by rw [String.ofList_toList]; exact ofName?_keyword function) hne hinside
      (toList_render_ofField function operand)
    rw [String.ofList_toList, Piece.operand_render h] at hcall
    have hstar : (Aggregate.ofField function operand).render ≠ "*" := by
      intro hstar
      rw [hstar, show Piece.aggregateCall? "*" = none by decide] at hcall
      exact absurd hcall (by simp)
    change parse? registry (Aggregate.ofField function operand).render = _
    unfold parse?
    rw [if_neg hstar, hcall]
    cases function <;> rfl

/-- Renderings of items are words without commas. -/
theorem Writable.solid {item : SelectItem} (h : item.Writable registry) : Solid item.render := by
  match item, h with
  | .selected .all, _ => exact ⟨by decide, by decide⟩
  | .selected (.modality m), h =>
    refine solid_of_isFieldChar ?_ fun c hc =>
      Or.inl (isFieldChar_of_isNameChar c (h.1.isNameChar c hc))
    exact mt String.toList_eq_nil_iff.mpr (toList_ne_nil_of_isIdentifier h.1.isIdentifier_keyword)
  | .projection p, h => exact Projection.Writable.solid h
  | .aggregate .countAll, _ => exact ⟨by decide, by decide⟩
  | .aggregate (.ofField function operand), h =>
    refine solid_of_isFieldChar ?_ ?_
    · intro hnil
      have := congrArg String.toList hnil
      rw [render, toList_render_ofField] at this
      simp at this
    · intro c hc
      rw [render, toList_render_ofField] at hc
      rcases List.mem_append.mp hc with hc | hc
      · exact Or.inl (isFieldChar_of_isNameChar c (isNameChar_keyword function c hc))
      rcases List.mem_cons.mp hc with rfl | hc
      · exact Or.inr (Or.inl rfl)
      rcases List.mem_append.mp hc with hc | hc
      · exact Or.inl (Projection.Writable.isFieldChar_render h c hc)
      · exact Or.inr (Or.inr (by simpa using hc))

/-- The rendering of an item is FROM only if it spells FROM. -/
theorem eq_from_of_sameLetters {item : SelectItem}
    (hfrom : Text.sameLetters item.render "FROM" = true) : item.render = "FROM" := by
  have hupper : ∀ s : String, Text.sameLetters (Text.upper s) "FROM" = true →
      Text.upper s = "FROM" := by
    intro s hs
    rw [← Text.upper_upper, Text.upper_of_sameLetters hs]
    decide
  have hother : ∀ c ∈ item.render.toList, c.isAlpha = true := by
    intro c hc
    by_contra hnot
    rw [Text.sameLetters_of_not_alpha hc (by simpa using hnot) (by decide)] at hfrom
    exact absurd hfrom (by simp)
  cases item with
  | selected s =>
    cases s with
    | all => exact absurd hfrom (by decide)
    | modality m => exact hupper m.name hfrom
  | projection p =>
    exact absurd (hother '.' (by simp [render, Projection.toList_render])) (by decide)
  | aggregate a =>
    cases a with
    | countAll => exact absurd hfrom (by decide)
    | ofField function operand =>
      exact absurd (hother '(' (by rw [render, toList_render_ofField]; simp)) (by decide)

end SelectItem

/-! ## 4. Fields and directions

Every direction is written, also where it is the one that is meant without any; so each field has
its own behind it, and no field waits for the next. -/

/-- A direction is read from its name. -/
theorem Direction.ofName?_keyword (direction : Direction) :
    Direction.ofName? direction.keyword = some direction := by
  cases direction <;> decide

/-- And its name is a word without commas. -/
theorem Direction.solid (direction : Direction) : Solid direction.keyword := by
  cases direction <;> exact ⟨by decide, by decide⟩

/-- A rendered field is no direction: it has a dot. -/
theorem Direction.ofName?_render (projection : Projection) :
    Direction.ofName? projection.render = none := by
  have hnot : ∀ direction : Direction,
      Text.sameLetters direction.keyword projection.render = false := by
    intro direction
    rw [Text.sameLetters_comm]
    exact Projection.sameLetters_render (by cases direction <;> decide)
  simp [Direction.ofName?, hnot]

/-- The pieces of rendered fields and directions. -/
def orderPieces (items : List OrderItem) : List String :=
  items.flatMap fun item => [item.projection.render, item.direction.keyword]

/-- **Fields and their directions are read back.**  A rendered field has its direction behind it,
so nothing waits when the next one comes. -/
theorem orderItems_orderPieces : ∀ {items : List OrderItem},
    (∀ item ∈ items, item.projection.Writable) → orderItems none (orderPieces items) = items
  | [], _ => rfl
  | item :: items, h => by
    have ih := orderItems_orderPieces fun i hi => h i (List.mem_cons_of_mem item hi)
    have hprojection := Piece.projection?_render (h item List.mem_cons_self)
    have hnone : Direction.ofName? item.projection.render = none :=
      Direction.ofName?_render item.projection
    simp only [orderPieces, List.flatMap_cons, List.cons_append, List.nil_append] at ih ⊢
    rw [orderItems, hnone, hprojection]
    simp only [Option.map_none, Option.toList_none, List.nil_append]
    rw [orderItems, item.direction.ofName?_keyword]
    simp [ih]

end HexadQuery
