/-
# Respellings

A respelling changes characters without changing their letters: it may write `a` for `A`, and it
leaves everything that is no ASCII letter alone.  Two of them matter: `Respelling.small` writes
every letter small, so two texts that it makes equal differ in the case of letters only, and
`Respelling.same` changes nothing.  What is proved here of every respelling therefore holds of
texts up to case and of texts as they are.

The parts of a token are taken apart by functions that look at characters.  Each of them commutes
with a respelling: taking the respelled text apart gives the respelled parts.  The reason is always
the same, the tests a function makes are `Blind` to case, and the difficulty is only that there are
many functions.  What comes out of a tree stays as it is where the tree keeps one casing: the names
of modalities, functions, directions and drift policies.

A test that is blind is one of three kinds: a test for a class of characters that has both cases of
each letter or neither, a comparison with a character that is no letter, and the negation of such a
one.  The first two are decided on ASCII, and nothing else changes under a respelling.

The module goes through the functions of the grammar in their order: texts, pieces, tokens and the
list they are cut into, the list clauses, groups, and the scan of a span.  Rules are not among
them; what a respelling does to readings is the matter of the module on spelling and layout.
-/
import HexadQuery.Grammar.Action
import HexadQuery.Proofs.Names

namespace HexadQuery

/-! ## 1. Characters

The tests that the grammar makes on characters, and that they are blind. -/

/-- Beyond ASCII the small form of the library is the character itself. -/
theorem toLower_of_le {c : Char} (h : 128 ≤ c.toNat) : c.toLower = c := by
  unfold Char.toLower
  rw [dif_neg]
  rintro ⟨-, hle⟩
  have h1 : c.val.toNat ≤ 90 := hle
  have h2 : 128 ≤ c.val.toNat := h
  omega

/-- A change of characters that keeps their letters. -/
structure Respelling where
  /-- what becomes of a character -/
  char : Char → Char
  /-- it has the same small letter -/
  toLower_char : ∀ c, (char c).toLower = c.toLower

/-- A test that does not look at the case of letters. -/
def Blind (test : Char → Bool) : Prop := ∀ c, test c.toLower = test c

/-- A test is blind if it is so on ASCII, since nothing else has another case. -/
theorem blind_of_ascii {test : Char → Bool}
    (h : ∀ n : Fin 128, test (Char.ofNat n).toLower = test (Char.ofNat n)) : Blind test := by
  refine forall_char h fun c hc => ?_
  rw [toLower_of_le hc]

theorem blind_isBlank : Blind Text.isBlank := blind_of_ascii (by decide)

theorem blind_isNameChar : Blind Piece.isNameChar := blind_of_ascii (by decide)

theorem blind_isFieldChar : Blind Piece.isFieldChar := blind_of_ascii (by decide)

theorem blind_isDigit : Blind Char.isDigit := blind_of_ascii (by decide)

theorem blind_isAlpha : Blind Char.isAlpha := Char.isAlpha_toLower_eq_isAlpha

/-- What is no letter has no other case. -/
theorem toLower_eq_self {c : Char} (h : c.isAlpha = false) : c.toLower = c := by
  revert h
  refine forall_char (P := fun c => c.isAlpha = false → c.toLower = c) (by decide) ?_ c
  intro c hc _
  exact toLower_of_le hc

/-- Comparing with a character that is no letter. -/
theorem blind_beq {d : Char} (hd : d.isAlpha = false) : Blind (· == d) := by
  intro c
  by_cases hc : c.isAlpha = true
  · have hne : c ≠ d := by
      rintro rfl
      rw [hd] at hc
      cases hc
    have hne' : c.toLower ≠ d := by
      rintro rfl
      rw [Char.isAlpha_toLower_eq_isAlpha, hc] at hd
      cases hd
    simp [hne, hne']
  · simp only [toLower_eq_self (by simpa using hc)]

/-- The opposite of a blind test is blind. -/
theorem Blind.not {test : Char → Bool} (h : Blind test) : Blind fun c => !test c := by
  intro c
  simp only [h c]

namespace Respelling

/-- Every letter small. -/
def small : Respelling := ⟨Char.toLower, Char.toLower_toLower_eq_toLower⟩

/-- Nothing changes. -/
def same : Respelling := ⟨id, fun _ => rfl⟩

variable (φ : Respelling)

/-- A blind test does not see a respelling. -/
theorem blind {test : Char → Bool} (h : Blind test) (c : Char) : test (φ.char c) = test c := by
  rw [← h (φ.char c), φ.toLower_char, h]

theorem blind_comp {test : Char → Bool} (h : Blind test) : test ∘ φ.char = test :=
  funext fun c => φ.blind h c

/-- A character that is no letter is respelled as itself, and nothing else becomes it. -/
theorem char_eq_iff {d : Char} (hd : d.isAlpha = false) (c : Char) : φ.char c = d ↔ c = d := by
  have h := φ.blind (blind_beq hd) c
  rwa [Bool.eq_iff_iff, beq_iff_eq, beq_iff_eq] at h

theorem char_eq {d : Char} (hd : d.isAlpha = false) : φ.char d = d := (φ.char_eq_iff hd d).mpr rfl

/-- The capital form is that of the letter. -/
theorem toUpper_char (c : Char) : (φ.char c).toUpper = c.toUpper := by
  rw [← Char.toUpper_toLower_eq_toUpper, φ.toLower_char, Char.toUpper_toLower_eq_toUpper]

/-! ## 2. Texts

Operations on texts that look at characters one by one. -/

/-- The respelled text. -/
def text (s : String) : String := String.ofList (s.toList.map φ.char)

@[simp] theorem toList_text (s : String) : (φ.text s).toList = s.toList.map φ.char :=
  String.toList_ofList

/-- Respelling goes character by character. -/
theorem text_ofList (cs : List Char) :
    φ.text (String.ofList cs) = String.ofList (cs.map φ.char) := by
  rw [text, String.toList_ofList]

@[simp] theorem text_same (s : String) : same.text s = s := by
  rw [text]
  exact (congrArg String.ofList (List.map_id _)).trans String.ofList_toList

/-- So it goes part by part. -/
theorem text_append (s t : String) : φ.text (s ++ t) = φ.text s ++ φ.text t := by
  rw [← String.toList_inj]
  simp

@[simp] theorem sameLetters_text (s t : String) :
    Text.sameLetters (φ.text s) t = Text.sameLetters s t := by
  simp [Text.sameLetters, Function.comp_def, φ.toLower_char]

@[simp] theorem sameLetters_text_right (s t : String) :
    Text.sameLetters s (φ.text t) = Text.sameLetters s t := by
  rw [Text.sameLetters_comm, sameLetters_text, Text.sameLetters_comm]

@[simp] theorem upper_text (s : String) : Text.upper (φ.text s) = Text.upper s := by
  simp [Text.upper, Function.comp_def, φ.toUpper_char]

/-- A text without letters is spelled in one way. -/
theorem text_eq_iff {t : String} (ht : t.toList.all (!·.isAlpha) = true) (s : String) :
    φ.text s = t ↔ s = t := by
  have hmap : ∀ {cs ds : List Char}, (∀ d ∈ ds, d.isAlpha = false) →
      (cs.map φ.char = ds ↔ cs = ds) := by
    intro cs
    induction cs with
    | nil => exact fun _ => Iff.rfl
    | cons c cs ih =>
      intro ds hds
      cases ds with
      | nil => simp
      | cons d ds =>
        rw [List.forall_mem_cons] at hds
        rw [List.map_cons, List.cons.injEq, List.cons.injEq, φ.char_eq_iff hds.1, ih hds.2]
  rw [← String.toList_inj, toList_text, hmap (by simpa using ht), String.toList_inj]

/-- Texts with one respelling are both a text without letters, or neither is. -/
theorem eq_iff_of_text {s s' t : String} (ht : t.toList.all (!·.isAlpha) = true)
    (h : φ.text s = φ.text s') : s = t ↔ s' = t := by
  rw [← φ.text_eq_iff ht, h, φ.text_eq_iff ht]

/-- A text is parted where it was. -/
theorem span_map {test : Char → Bool} (h : Blind test) (cs : List Char) :
    (cs.map φ.char).span test = ((cs.span test).1.map φ.char, (cs.span test).2.map φ.char) := by
  rw [List.span_eq_takeWhile_dropWhile, List.span_eq_takeWhile_dropWhile, List.takeWhile_map,
    List.dropWhile_map, φ.blind_comp h]

theorem trimChars_map (cs : List Char) :
    Text.trimChars (cs.map φ.char) = (Text.trimChars cs).map φ.char :=
  Text.trimChars_map (φ.blind blind_isBlank) cs

theorem trim_text (s : String) : Text.trim (φ.text s) = φ.text (Text.trim s) := by
  rw [Text.trim, toList_text, trimChars_map, Text.trim, text_ofList]

theorem cutTrailing_map {mark : Char} (hmark : mark.isAlpha = false) (cs : List Char) :
    Text.cutTrailing mark (cs.map φ.char) = (Text.cutTrailing mark cs).map φ.char :=
  Text.cutTrailing_map (φ.blind (blind_beq hmark)) cs

/-- Parts joined by a separator are respelled one by one, and the separator with them. -/
theorem intercalate_map (separator : List Char) : ∀ parts : List (List Char),
    (separator.map φ.char).intercalate (parts.map (List.map φ.char)) =
      (separator.intercalate parts).map φ.char
  | [] => rfl
  | [part] => by simp
  | part :: next :: parts => by
    have ih := intercalate_map separator (next :: parts)
    rw [List.map_cons] at ih
    rw [List.map_cons, List.map_cons, List.intercalate_cons_cons, List.intercalate_cons_cons, ih]
    simp

/-- A separator without letters stays. -/
theorem text_intercalate {separator : String} (h : separator.toList.all (!·.isAlpha) = true)
    (texts : List String) :
    separator.intercalate (texts.map φ.text) = φ.text (separator.intercalate texts) := by
  have hseparator : separator.toList.map φ.char = separator.toList := by
    rw [← toList_text, (φ.text_eq_iff h separator).mpr rfl]
  have htexts : (texts.map φ.text).map String.toList =
      (texts.map String.toList).map (List.map φ.char) := by
    simp [Function.comp_def]
  rw [← String.toList_inj, toList_text, String.toList_intercalate, String.toList_intercalate,
    htexts, ← intercalate_map, hseparator]

/-! ## 3. Pieces

What a piece of a text is read as.  Readings that keep one casing give the same value; the others
give the respelled one. -/

/-- A mark that is no letter parts the text in the same places. -/
theorem splitOn_map {mark : Char} (hmark : mark.isAlpha = false) : ∀ cs : List Char,
    (cs.map φ.char).splitOn mark = (cs.splitOn mark).map (List.map φ.char)
  | [] => by simp [List.splitOn]
  | c :: cs => by
    have ih := splitOn_map hmark cs
    simp only [List.splitOn] at ih ⊢
    rw [List.map_cons, List.splitOnP_cons_eq_if_modifyHead, List.splitOnP_cons_eq_if_modifyHead,
      ih, φ.blind (blind_beq hmark)]
    split
    · rfl
    · cases cs.splitOnP (· == mark) <;> rfl

theorem commaPieces_text (s : String) :
    Piece.commaPieces (φ.text s) = (Piece.commaPieces s).map φ.text := by
  have hne : (fun cs : List Char => decide (cs ≠ [])) ∘ List.map φ.char =
      fun cs => decide (cs ≠ []) := by
    funext cs
    simp
  rw [Piece.commaPieces, toList_text, φ.splitOn_map (by decide), List.filter_map, hne,
    Piece.commaPieces, List.map_map, List.map_map]
  exact List.map_congr_left fun cs _ => (φ.text_ofList cs).symm

/-- Being an identifier is a matter of letters, digits and underscores. -/
theorem isIdentifier_text (s : String) : isIdentifier (φ.text s) = isIdentifier s := by
  unfold isIdentifier
  rw [toList_text]
  cases s.toList with
  | nil => rfl
  | cons c cs =>
    simp only [List.map_cons, List.all_map, φ.blind blind_isAlpha]
    rw [show (fun d : Char => d.isAlphanum || d == '_') ∘ φ.char =
      fun d => d.isAlphanum || d == '_' from φ.blind_comp blind_isNameChar]

/-- An identifier names its modality in any spelling. -/
theorem ofName_text {s : String} (h : isIdentifier s = true) :
    Modality.ofName (φ.text s) = Modality.ofName s := by
  have h' : isIdentifier (φ.text s) = true := (φ.isIdentifier_text s).trans h
  rw [← Modality.ofName_upper h, ← Modality.ofName_upper h', upper_text]

/-- Functions and directions are found in any casing. -/
theorem functionOfName?_text (s : String) :
    AggregateFunction.ofName? (φ.text s) = AggregateFunction.ofName? s := by
  simp [AggregateFunction.ofName?]

theorem directionOfName?_text (s : String) :
    Direction.ofName? (φ.text s) = Direction.ofName? s := by
  simp [Direction.ofName?]

end Respelling

/-- A field in the new spelling; its modality is kept. -/
def Projection.respell (φ : Respelling) (projection : Projection) : Projection :=
  ⟨projection.modality, φ.text projection.field⟩

/-- An aggregate in the new spelling; its function is kept. -/
def Aggregate.respell (φ : Respelling) : Aggregate → Aggregate
  | countAll => .countAll
  | ofField function operand => .ofField function (operand.respell φ)

def Piece.Operand.respell (φ : Respelling) : Operand → Operand
  | star => .star
  | field projection => .field (projection.respell φ)
  | other => .other

def Assignment.respell (φ : Respelling) (assignment : Assignment) : Assignment :=
  ⟨φ.text assignment.field, φ.text assignment.value⟩

namespace Respelling

variable (φ : Respelling)

/-- A field is read as the field in the new spelling. -/
theorem projection?_text (s : String) :
    Piece.projection? (φ.text s) = (Piece.projection? s).map (·.respell φ) := by
  unfold Piece.projection?
  rw [toList_text, φ.span_map blind_isNameChar]
  obtain ⟨name, rest⟩ := s.toList.span Piece.isNameChar
  cases rest with
  | nil => rfl
  | cons c field =>
    by_cases hc : c = '.'
    · subst hc
      simp only [List.map_cons, φ.char_eq (show '.'.isAlpha = false by decide), ← text_ofList,
        isIdentifier_text, List.all_map, φ.blind_comp blind_isFieldChar, ne_eq, List.map_eq_nil_iff]
      by_cases hid : isIdentifier (String.ofList name) = true
      · simp only [hid, φ.ofName_text hid]
        split <;> rfl
      · simp [hid]
    · have hc' : φ.char c ≠ '.' := mt (φ.char_eq_iff (by decide) c).mp hc
      simp [hc, hc']

theorem operand_text (s : String) : Piece.operand (φ.text s) = (Piece.operand s).respell φ := by
  have hstar : φ.text (Text.trim s) = "*" ↔ Text.trim s = "*" := φ.text_eq_iff (by decide) _
  unfold Piece.operand
  simp only [trim_text, hstar, projection?_text]
  split
  · rfl
  · cases Piece.projection? (Text.trim s) <;> rfl

/-- And so is a call, by its operand.  Neither parenthesis is a letter, so the cuts are at the
same places. -/
theorem aggregateCall?_text (s : String) :
    Piece.aggregateCall? (φ.text s) =
      (Piece.aggregateCall? s).map fun (function, operand) => (function, operand.respell φ) := by
  unfold Piece.aggregateCall?
  rw [toList_text, φ.span_map blind_isNameChar]
  obtain ⟨name, rest⟩ := s.toList.span Piece.isNameChar
  cases rest with
  | nil => rfl
  | cons c rest =>
    by_cases hc : c = '('
    · subst hc
      have hinside : Blind fun c => c != '(' && c != ')' := blind_of_ascii (by decide)
      simp only [List.map_cons, φ.char_eq (show '('.isAlpha = false by decide), φ.span_map hinside]
      obtain ⟨inside, close⟩ := rest.span fun c => c != '(' && c != ')'
      rcases close with _ | ⟨d, _ | ⟨e, more⟩⟩
      · rfl
      · by_cases hd : d = ')'
        · subst hd
          simp only [List.map_cons, List.map_nil, φ.char_eq (show ')'.isAlpha = false by decide),
            List.map_eq_nil_iff, ← text_ofList, functionOfName?_text, operand_text]
          split
          · rfl
          · rw [Option.map_map, Function.comp_def]
        · have hd' : φ.char d ≠ ')' := mt (φ.char_eq_iff (by decide) d).mp hd
          simp [hd, hd']
      · simp
    · have hc' : φ.char c ≠ '(' := mt (φ.char_eq_iff (by decide) c).mp hc
      simp [hc, hc']

/-- Digits are spelled in one way. -/
theorem map_eq_of_isDigit {cs : List Char} (h : ∀ c ∈ cs, c.isDigit = true) :
    cs.map φ.char = cs :=
  (List.map_congr_left fun c hc => φ.char_eq (isAlpha_of_isDigit (h c hc))).trans (List.map_id _)

/-- Numbers are digits, and digits are no letters. -/
theorem unsigned?_text (s : String) : Piece.unsigned? (φ.text s) = Piece.unsigned? s := by
  unfold Piece.unsigned?
  simp only [toList_text, List.all_map, φ.blind_comp blind_isDigit, ne_eq, List.map_eq_nil_iff]
  split
  · next h => rw [φ.map_eq_of_isDigit (List.all_eq_true.mp h.2)]
  · rfl

theorem assignment?_text (s : String) :
    Piece.assignment? (φ.text s) = (Piece.assignment? s).map (·.respell φ) := by
  have hequals : Blind fun c => c != '=' := (blind_beq (by decide)).not
  unfold Piece.assignment?
  rw [toList_text, φ.span_map hequals]
  obtain ⟨field, rest⟩ := s.toList.span (· != '=')
  cases rest with
  | nil => rfl
  | cons c value =>
    by_cases hc : c = '='
    · subst hc
      simp only [List.map_cons, φ.char_eq (show '='.isAlpha = false by decide), List.all_map,
        φ.blind_comp blind_isBlank, trimChars_map]
      split
      · rfl
      · simp [Assignment.respell, text_ofList]
    · have hc' : φ.char c ≠ '=' := mt (φ.char_eq_iff (by decide) c).mp hc
      simp [hc, hc']

end Respelling

/-! ## 4. Tokens and SELECT lists

Tokens keep their index, since errors speak of it.  The offset in the text is given up: it plays no
part behind the tokenizer. -/

/-- A token in the new spelling, at the same index; where it stands in the text is forgotten. -/
def Token.respell (φ : Respelling) (token : Token) : Token :=
  ⟨φ.text token.text, token.position, 0⟩

def SelectPiece.respell (φ : Respelling) (piece : SelectPiece) : SelectPiece :=
  ⟨φ.text piece.text, piece.position⟩

def SelectItem.respell (φ : Respelling) : SelectItem → SelectItem
  | selected s => .selected s
  | projection p => .projection (p.respell φ)
  | aggregate a => .aggregate (a.respell φ)

/-- A SELECT list in the new spelling; the modalities it mentions are kept. -/
def SelectList.respell (φ : Respelling) (list : SelectList) : SelectList :=
  ⟨list.modalities, list.projections.map (·.respell φ), list.aggregates.map (·.respell φ)⟩

namespace Respelling

variable (φ : Respelling)

/-- A keyword is one in every casing. -/
@[simp] theorem isKeyword_respell (token : Token) (keyword : String) :
    (token.respell φ).isKeyword keyword = token.isKeyword keyword :=
  φ.sameLetters_text token.text keyword

@[simp] theorem isAnyKeyword_respell (token : Token) (keywords : List String) :
    (token.respell φ).isAnyKeyword keywords = token.isAnyKeyword keywords := by
  simp [Token.isAnyKeyword, funext (φ.isKeyword_respell token)]

theorem opensGroup_respell (token : Token) :
    Rule.opensGroup (token.respell φ) = Rule.opensGroup token := by
  simp only [Rule.opensGroup, Token.respell, toList_text, List.head?_map]
  cases token.text.toList.head? with
  | none => rfl
  | some c => exact φ.blind (blind_beq (by decide)) c

theorem ofToken_respell (token : Token) :
    SelectPiece.ofToken (token.respell φ) = (SelectPiece.ofToken token).map (·.respell φ) := by
  simp [SelectPiece.ofToken, Token.respell, commaPieces_text, SelectPiece.respell]

theorem awaitsOperand_respell (token : Token) :
    SelectPiece.awaitsOperand (token.respell φ) = SelectPiece.awaitsOperand token := by
  have hcomma : ((token.text.toList.getLast?.map φ.char) != some ',') =
      (token.text.toList.getLast? != some ',') := by
    cases token.text.toList.getLast? with
    | none => rfl
    | some c => exact congrArg not (φ.blind (blind_beq (by decide)) c)
  have hname : ((Piece.commaPieces token.text).getLast?.map φ.text).any
        (fun piece => (AggregateFunction.ofName? piece).isSome) =
      (Piece.commaPieces token.text).getLast?.any
        fun piece => (AggregateFunction.ofName? piece).isSome := by
    cases (Piece.commaPieces token.text).getLast? with
    | none => rfl
    | some piece => simp [functionOfName?_text]
  simp only [SelectPiece.awaitsOperand, Token.respell, toList_text, commaPieces_text,
    List.getLast?_map, hcomma, hname]

theorem ofCall_respell (token operand : Token) :
    SelectPiece.ofCall (token.respell φ) (operand.respell φ) =
      (SelectPiece.ofCall token operand).map (·.respell φ) := by
  have hlast : ((Piece.commaPieces token.text).map φ.text).getLastD "" =
      φ.text ((Piece.commaPieces token.text).getLastD "") := by
    have h := List.getLastD_map (f := φ.text) (l := Piece.commaPieces token.text) (a := "")
    rwa [(φ.text_eq_iff (by decide) "").mpr rfl] at h
  simp only [SelectPiece.ofCall, Token.respell, commaPieces_text, toList_text,
    φ.cutTrailing_map (show ','.isAlpha = false by decide), ← text_ofList, ← text_append, hlast,
    ← List.map_dropLast, List.map_append, List.map_map, List.map_cons, List.map_nil]
  rfl

/-- A list is cut into its pieces where it was. -/
theorem ofTokens_respell : ∀ tokens : List Token,
    SelectPiece.ofTokens (tokens.map (·.respell φ)) =
      (SelectPiece.ofTokens tokens).map (·.respell φ)
  | [] => rfl
  | [token] => φ.ofToken_respell token
  | token :: next :: rest => by
    have hrest := ofTokens_respell rest
    have hnext := ofTokens_respell (next :: rest)
    rw [List.map_cons] at hnext
    simp only [List.map_cons, SelectPiece.ofTokens, awaitsOperand_respell, opensGroup_respell,
      ofCall_respell, ofToken_respell, hrest, hnext]
    split <;> simp

/-- A piece is the same kind of item in every casing, and a name resolves to the same modality. -/
theorem parse?_text (registry : Registry) (s : String) :
    SelectItem.parse? registry (φ.text s) = (SelectItem.parse? registry s).map (·.respell φ) := by
  have hstar : φ.text s = "*" ↔ s = "*" := φ.text_eq_iff (by decide) s
  have hresolve : registry.resolve? (φ.text s) = registry.resolve? s := by
    simp [Registry.resolve?]
  unfold SelectItem.parse?
  simp only [hstar, aggregateCall?_text, projection?_text, hresolve]
  split
  · rfl
  · rcases Piece.aggregateCall? s with _ | ⟨function, operand⟩
    · rcases Piece.projection? s with _ | projection
      · cases registry.resolve? s <;> rfl
      · rfl
    · cases function <;> cases operand <;> rfl

theorem unrecognised_respell (registry : Registry) (pieces : List SelectPiece) :
    SelectPiece.unrecognised registry (pieces.map (·.respell φ)) =
      (SelectPiece.unrecognised registry pieces).map (·.respell φ) := by
  rw [SelectPiece.unrecognised, List.filter_map, SelectPiece.unrecognised]
  congr 2
  funext piece
  simp [SelectPiece.item?, SelectPiece.respell, parse?_text]

theorem mention_respell (list : SelectList) (selected : Selected) :
    (list.respell φ).mention selected = (list.mention selected).respell φ := by
  have hmodalities : (list.respell φ).modalities = list.modalities := rfl
  rw [SelectList.mention, SelectList.mention, hmodalities]
  split <;> rfl

/-- Taking an item in looks at its modality only. -/
theorem add_respell (list : SelectList) (item : SelectItem) :
    (list.respell φ).add (item.respell φ) = (list.add item).respell φ := by
  cases item with
  | selected s => exact φ.mention_respell list s
  | projection p =>
    simp only [SelectItem.respell, SelectList.add, Projection.respell, mention_respell]
    simp [SelectList.respell, Projection.respell]
  | aggregate a =>
    cases a with
    | countAll =>
      simp only [SelectItem.respell, Aggregate.respell, SelectList.add, Aggregate.modality?]
      simp [SelectList.respell, Aggregate.respell]
    | ofField function operand =>
      simp only [SelectItem.respell, Aggregate.respell, SelectList.add, Aggregate.modality?,
        Projection.respell, mention_respell]
      simp [SelectList.respell, Aggregate.respell, Projection.respell]

/-- So what is collected is the same list in the new spelling. -/
theorem collect_respell (registry : Registry) (pieces : List SelectPiece) :
    SelectPiece.collect registry (pieces.map (·.respell φ)) =
      (SelectPiece.collect registry pieces).respell φ := by
  have hitems : (pieces.map (·.respell φ)).filterMap (SelectPiece.item? registry) =
      (pieces.filterMap (SelectPiece.item? registry)).map (·.respell φ) := by
    rw [List.filterMap_map, List.map_filterMap]
    refine List.filterMap_congr fun piece _ => ?_
    rw [Function.comp_apply, SelectPiece.item?, SelectPiece.respell, parse?_text, SelectPiece.item?]
  have hfold : ∀ (items : List SelectItem) (list : SelectList),
      (items.map (·.respell φ)).foldl SelectList.add (list.respell φ) =
        (items.foldl SelectList.add list).respell φ := by
    intro items
    induction items with
    | nil => exact fun _ => rfl
    | cons item items ih =>
      intro list
      rw [List.map_cons, List.foldl_cons, List.foldl_cons, add_respell, ih]
  rw [SelectPiece.collect, hitems]
  exact hfold _ {}

end Respelling

/-! ## 5. List clauses

GROUP BY and ORDER BY, by their pieces. -/

def OrderItem.respell (φ : Respelling) (item : OrderItem) : OrderItem :=
  ⟨item.projection.respell φ, item.direction⟩

namespace Respelling

variable (φ : Respelling)

theorem spanPieces_respell (tokens : List Token) :
    spanPieces (tokens.map (·.respell φ)) = (spanPieces tokens).map φ.text := by
  simp only [spanPieces, List.flatMap_map, List.map_flatMap]
  exact List.flatMap_congr fun token _ => φ.commaPieces_text token.text

theorem filterMap_projection?_text (pieces : List String) :
    (pieces.map φ.text).filterMap Piece.projection? =
      (pieces.filterMap Piece.projection?).map (·.respell φ) := by
  rw [List.filterMap_map, List.map_filterMap]
  refine List.filterMap_congr fun piece _ => ?_
  rw [Function.comp_apply, projection?_text]

/-- The walk over the pieces sees the same directions and fields. -/
theorem orderItems_text : ∀ (pieces : List String) (waiting : Option Projection),
    orderItems (waiting.map (·.respell φ)) (pieces.map φ.text) =
      (orderItems waiting pieces).map (·.respell φ)
  | [], waiting => by cases waiting <;> rfl
  | piece :: pieces, waiting => by
    have ih := orderItems_text pieces
    rw [List.map_cons, orderItems, orderItems, directionOfName?_text, projection?_text]
    cases Direction.ofName? piece with
    | some direction =>
      rw [List.map_append, ← ih none]
      cases waiting <;> rfl
    | none =>
      cases Piece.projection? piece with
      | some projection =>
        rw [List.map_append, ← ih (some projection)]
        cases waiting <;> rfl
      | none => exact ih waiting

end Respelling

/-! ## 6. Groups

Parentheses are no letters, so groups open and close where they did. -/

def Group.respell (φ : Respelling) (group : Group) : Group :=
  ⟨φ.text group.inner, φ.text group.trailing⟩

/-- Groups are equal up to case if both their texts are. -/
theorem Group.respell_eq_iff {φ : Respelling} {group group' : Group} :
    group.respell φ = group'.respell φ ↔
      φ.text group.inner = φ.text group'.inner ∧
        φ.text group.trailing = φ.text group'.trailing := by
  simp [Group.respell]

namespace Respelling

variable (φ : Respelling)

/-- A respelling changes no depth. -/
theorem nest_char (depth : Int) (c : Char) : nest depth (φ.char c) = nest depth c := by
  simp only [nest, φ.blind (blind_beq (show '('.isAlpha = false by decide)),
    φ.blind (blind_beq (show ')'.isAlpha = false by decide))]

theorem nestAll_map (depth : Int) (cs : List Char) :
    nestAll depth (cs.map φ.char) = nestAll depth cs := by
  simp only [nestAll, List.foldl_map, φ.nest_char]

theorem groupCut_map : ∀ (cs : List Char) (depth : Int),
    Group.cut depth (cs.map φ.char) =
      ((Group.cut depth cs).1.map φ.char, (Group.cut depth cs).2.map φ.char)
  | [], depth => rfl
  | c :: cs, depth => by
    rw [List.map_cons, Group.cut, Group.cut, nest_char, groupCut_map cs]
    split <;> rfl

theorem groupOfText_map (cs : List Char) :
    Group.ofText (cs.map φ.char) = (Group.ofText cs).respell φ := by
  cases cs with
  | nil => rfl
  | cons c cs =>
    simp only [List.map_cons, Group.ofText, nest_char, groupCut_map, trimChars_map, ← text_ofList]
    rfl

/-- The same tokens are gathered. -/
theorem gather_respell : ∀ (tokens : List Token) (depth : Int),
    Rule.gather depth (tokens.map (·.respell φ)) =
      (Rule.gather depth tokens).map fun (taken, rest) =>
        (taken.map (·.respell φ), rest.map (·.respell φ))
  | [], depth => by
    rw [List.map_nil, Rule.gather]
    split <;> rfl
  | token :: tokens, depth => by
    have hdepth : nestAll depth (token.respell φ).text.toList =
        nestAll depth token.text.toList := by
      rw [Token.respell, toList_text, nestAll_map]
    rw [List.map_cons, Rule.gather, Rule.gather, hdepth, gather_respell tokens]
    split
    · rfl
    · cases Rule.gather (nestAll depth token.text.toList) tokens <;> rfl

theorem gatheredText_respell (head : List Char) (tokens : List Token) :
    Rule.gatheredText (head.map φ.char) (tokens.map (·.respell φ)) =
      (Rule.gatheredText head tokens).map φ.char := by
  simp only [Rule.gatheredText, List.map_append, List.flatMap_map, List.map_flatMap, List.map_cons,
    Token.respell, toList_text, φ.char_eq (show ' '.isAlpha = false by decide)]

end Respelling

/-! ## 7. Assignments

Neither are quotes, commas and the `=`, so a span is cut where it was. -/

/-- A scan with the character before in the new spelling. -/
def Scan.respell (φ : Respelling) (scan : Scan) : Scan :=
  { scan with previous := scan.previous.map φ.char }

def SpanChar.respell (φ : Respelling) (c : SpanChar) : SpanChar := ⟨φ.char c.char, c.position⟩

def AssignmentPiece.respell (φ : Respelling) (piece : AssignmentPiece) : AssignmentPiece :=
  ⟨φ.text piece.text, piece.position⟩

namespace Respelling

variable (φ : Respelling)

/-- Where a value can start is decided by a blank, an `=` or a comma ahead. -/
theorem startsValue_respell (scan : Scan) : (scan.respell φ).startsValue = scan.startsValue := by
  simp only [Scan.startsValue, Scan.respell]
  cases scan.previous with
  | none => rfl
  | some c =>
    simp only [Option.map_some, φ.blind blind_isBlank,
      φ.blind (blind_beq (show '='.isAlpha = false by decide)),
      φ.blind (blind_beq (show '('.isAlpha = false by decide)),
      φ.blind (blind_beq (show ','.isAlpha = false by decide))]

/-- A scan goes on in the same way. -/
theorem feed_respell (scan : Scan) (c : Char) :
    (scan.respell φ).feed (φ.char c) = (scan.feed c).respell φ := by
  have hsingle : (φ.char c == '\'') = (c == '\'') := φ.blind (blind_beq (by decide)) c
  have hdouble : (φ.char c == '"') = (c == '"') := φ.blind (blind_beq (by decide)) c
  have hquotes : (scan.respell φ).quotes = scan.quotes := rfl
  have hinSingle : (scan.respell φ).inSingle = scan.inSingle := rfl
  have hinDouble : (scan.respell φ).inDouble = scan.inDouble := rfl
  have hinQuote : (scan.respell φ).inQuote = scan.inQuote := rfl
  unfold Scan.feed
  rw [hsingle, hdouble, startsValue_respell, hquotes, hinSingle, hinDouble, hinQuote, nest_char]
  split
  · rfl
  split
  · rfl
  split <;> rfl

theorem ofTokens_spanChars (tokens : List Token) :
    SpanChar.ofTokens (tokens.map (·.respell φ)) =
      (SpanChar.ofTokens tokens).map (·.respell φ) := by
  simp only [SpanChar.ofTokens, List.flatMap_map, List.map_flatMap]
  refine List.flatMap_congr fun token _ => ?_
  simp [SpanChar.ofToken, Token.respell, SpanChar.respell, Function.comp_def,
    φ.char_eq (show ' '.isAlpha = false by decide)]

/-- The span is cut at the same commas. -/
theorem cut_respell : ∀ (cs : List SpanChar) (scan : Scan),
    SpanChar.cut (scan.respell φ) (cs.map (·.respell φ)) =
      ((SpanChar.cut scan cs).1.map (·.respell φ),
        (SpanChar.cut scan cs).2.map (List.map (·.respell φ)))
  | [], scan => rfl
  | c :: cs, scan => by
    have hfeed : (scan.respell φ).feed (c.respell φ).char = (scan.feed c.char).respell φ :=
      φ.feed_respell scan c.char
    have hcomma : ((c.respell φ).char == ',') = (c.char == ',') :=
      φ.blind (blind_beq (by decide)) c.char
    have htop : (scan.respell φ).isTop = scan.isTop := rfl
    rw [List.map_cons, SpanChar.cut, SpanChar.cut, hfeed, cut_respell cs, hcomma, htop]
    obtain ⟨first, later⟩ := SpanChar.cut (scan.feed c.char) cs
    dsimp only
    split <;> rfl

theorem piece?_respell (cs : List SpanChar) :
    SpanChar.piece? (cs.map (·.respell φ)) = (SpanChar.piece? cs).map (·.respell φ) := by
  have hposition : (cs.map (·.respell φ)).findSome? (·.position) = cs.findSome? (·.position) := by
    rw [List.findSome?_map]
    rfl
  have hchars : (cs.map (·.respell φ)).map (·.char) = (cs.map (·.char)).map φ.char := by
    rw [List.map_map, List.map_map]
    rfl
  rw [SpanChar.piece?, hposition, hchars, trimChars_map, SpanChar.piece?, Option.map_map]
  simp only [← text_ofList]
  rfl

theorem cutSpan_respell (quotes : Bool) (tokens : List Token) :
    cutSpan quotes (tokens.map (·.respell φ)) = (cutSpan quotes tokens).map (·.respell φ) := by
  have hcut := φ.cut_respell (SpanChar.ofTokens tokens) { quotes }
  have hstart : Scan.respell φ { quotes } = { quotes } := rfl
  rw [hstart] at hcut
  simp only [cutSpan, ofTokens_spanChars, hcut, ← List.map_cons, List.filterMap_map,
    List.map_filterMap]
  exact List.filterMap_congr fun cs _ => φ.piece?_respell cs

/-- A quote that is never closed stays one, so both cuts count quotes or neither does. -/
theorem hasOpenQuote_respell (tokens : List Token) :
    hasOpenQuote (tokens.map (·.respell φ)) = hasOpenQuote tokens := by
  have hfold : ∀ (cs : List SpanChar) (scan : Scan),
      (cs.map (·.respell φ)).foldl (fun scan c => scan.feed c.char) (scan.respell φ) =
        (cs.foldl (fun scan c => scan.feed c.char) scan).respell φ := by
    intro cs
    induction cs with
    | nil => exact fun _ => rfl
    | cons c cs ih =>
      intro scan
      have hfeed : (scan.respell φ).feed (c.respell φ).char = (scan.feed c.char).respell φ :=
        φ.feed_respell scan c.char
      rw [List.map_cons, List.foldl_cons, List.foldl_cons, hfeed, ih]
  have hstart : Scan.respell φ { quotes := true } = { quotes := true } := rfl
  have hscan := hfold (SpanChar.ofTokens tokens) { quotes := true }
  rw [hstart] at hscan
  rw [hasOpenQuote, scanSpan, ofTokens_spanChars, hscan]
  rfl

theorem assignmentPieces_respell (tokens : List Token) :
    assignmentPieces (tokens.map (·.respell φ)) =
      (assignmentPieces tokens).map (·.respell φ) := by
  rw [assignmentPieces, hasOpenQuote_respell, cutSpan_respell, assignmentPieces]

end Respelling

end HexadQuery
