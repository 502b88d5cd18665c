/-
# Names and their casings

Keywords, modalities and registered names are compared without regard to the case of ASCII letters,
and a modality is kept in one casing and written in another.  Here is what makes that harmless:
writing a name in capitals does not change which name it spells (`sameLetters_upper`), and a
modality that came from an identifier comes back from its keyword (`IsCanonical.ofName_keyword`).

Two notions of case meet.  Keywords are compared by ASCII letters, and `Modality.ofName` maps case
by the tables of Unicode.  On an identifier the two agree, because its characters are ASCII
(`toNat_lt_of_isNameChar`) and the tables leave ASCII to the library's own mapping; so all that is
proved here of modalities is proved of modalities of identifiers.  Of other names little is true:
the capital of `ß` is two letters, and its small form is not `ß` again.

`Registry.Reachable` says which registries there are: those that registering builds.  The source
keeps the list of a registry private, so no other registry can be met there.  All their modalities
are canonical (`Registry.Reachable.isCanonical`), so a name that resolves is an identifier, and
resolves in capitals to the same modality.
-/
import HexadQuery.Config
import HexadQuery.Proofs.Words
import Mathlib

namespace HexadQuery

/-! ## 1. The case of a character

Facts about single characters.  Most are decided: for the 128 characters of ASCII by inspection,
for the others because a change of case leaves them alone (`forall_char`). -/

/-- Beyond ASCII the capital form of the library is the character itself. -/
theorem toUpper_of_le {c : Char} (h : 128 ≤ c.toNat) : c.toUpper = c := by
  unfold Char.toUpper
  rw [dif_neg]
  rintro ⟨-, hle⟩
  have h1 : c.val.toNat ≤ 122 := hle
  have h2 : 128 ≤ c.val.toNat := h
  omega

/-- A fact about characters holds if it holds of ASCII, by inspection, and of all others. -/
theorem forall_char {P : Char → Prop} (hascii : ∀ n : Fin 128, P (Char.ofNat n))
    (hother : ∀ c : Char, 128 ≤ c.toNat → P c) (c : Char) : P c := by
  rcases Nat.lt_or_ge c.toNat 128 with h | h
  · have := hascii ⟨c.toNat, h⟩
    rwa [Char.ofNat_toNat] at this
  · exact hother c h

/-- Case is a matter of letters, and no letter is blank. -/
theorem isBlank_toUpper (c : Char) : Text.isBlank c.toUpper = Text.isBlank c := by
  refine forall_char (P := fun c => Text.isBlank c.toUpper = Text.isBlank c) (by decide) ?_ c
  intro c h
  rw [toUpper_of_le h]

/-- A digit is no letter, so a word with a digit is no keyword. -/
theorem isAlpha_of_isDigit {c : Char} (h : c.isDigit = true) : c.isAlpha = false := by
  simp only [Char.isDigit, Bool.and_eq_true, decide_eq_true_eq] at h
  have hle : c.val.toNat ≤ 57 := h.2
  rw [Bool.eq_false_iff]
  intro hc
  simp only [Char.isAlpha, Char.isUpper, Char.isLower, Bool.or_eq_true, Bool.and_eq_true,
    decide_eq_true_eq] at hc
  rcases hc with ⟨hge, -⟩ | ⟨hge, -⟩
  · have : 65 ≤ c.val.toNat := hge
    omega
  · have : 97 ≤ c.val.toNat := hge
    omega

/-- The case of a letter does not decide whether it may stand in an identifier. -/
theorem isNameChar_toUpper (c : Char) :
    (c.toUpper.isAlphanum || c.toUpper == '_') = (c.isAlphanum || c == '_') := by
  refine forall_char (P := fun c => (c.toUpper.isAlphanum || c.toUpper == '_') =
    (c.isAlphanum || c == '_')) (by decide) ?_ c
  intro c h
  rw [toUpper_of_le h]

/-- Characters of identifiers are ASCII. -/
theorem toNat_lt_of_isNameChar {c : Char} (h : (c.isAlphanum || c == '_') = true) :
    c.toNat < 128 := by
  refine forall_char (P := fun c => (c.isAlphanum || c == '_') = true → c.toNat < 128)
    (by decide) ?_ c h
  intro c hle hc
  simp only [Char.isAlphanum, Char.isAlpha, Char.isUpper, Char.isLower, Char.isDigit,
    Bool.or_eq_true, Bool.and_eq_true, decide_eq_true_eq, beq_iff_eq] at hc
  have hle' : 128 ≤ c.val.toNat := hle
  rcases hc with ((⟨-, h⟩ | ⟨-, h⟩) | ⟨-, h⟩) | rfl
  · have : c.val.toNat ≤ 90 := h
    omega
  · have : c.val.toNat ≤ 122 := h
    omega
  · have : c.val.toNat ≤ 57 := h
    omega
  · exact absurd hle (by decide)

/-- A letter may stand in an identifier. -/
theorem isNameChar_of_isAlpha {c : Char} (h : c.isAlpha = true) :
    (c.isAlphanum || c == '_') = true := by
  simp [Char.isAlphanum, h]

/-! ## 2. Texts

`sameLetters` as an equivalence that the operations on texts respect.  Everything that depends on a
word through a comparison with keywords can be rewritten along it. -/

namespace Text

/-- The capitals of a text, by its characters. -/
theorem toList_upper (s : String) : (upper s).toList = s.toList.map Char.toUpper := by
  rw [upper, String.toList_ofList]

/-- A text in capitals is a spelling of the text. -/
theorem sameLetters_upper (s : String) : sameLetters (upper s) s = true := by
  simp only [sameLetters, toList_upper, List.map_map, beq_iff_eq]
  exact List.map_congr_left fun c _ => Char.toLower_toUpper_eq_toLower c

/-- Capitals stay as they are. -/
theorem upper_upper (s : String) : upper (upper s) = upper s := by
  rw [← String.toList_inj]
  simp only [toList_upper, List.map_map]
  exact List.map_congr_left fun c _ => Char.toUpper_toUpper_eq_toUpper c

/-- Spellings of one text are spellings of the same texts. -/
theorem sameLetters_congr {a b : String} (h : sameLetters a b = true) (c : String) :
    sameLetters a c = sameLetters b c := by
  simp only [sameLetters, beq_iff_eq] at h ⊢
  rw [h]

/-- The same on the other side of the comparison. -/
theorem sameLetters_congr_right {a b : String} (h : sameLetters a b = true) (c : String) :
    sameLetters c a = sameLetters c b := by
  rw [sameLetters_comm c a, sameLetters_comm c b, sameLetters_congr h]

/-- Spellings of one text have the same capitals. -/
theorem upper_of_sameLetters {a b : String} (h : sameLetters a b = true) : upper a = upper b := by
  have heq : a.toList.map Char.toLower = b.toList.map Char.toLower := by
    simpa [sameLetters] using h
  have hupper : ∀ s : String, s.toList.map Char.toUpper =
      (s.toList.map Char.toLower).map Char.toUpper := by
    intro s
    rw [List.map_map]
    exact List.map_congr_left fun c _ => (Char.toUpper_toLower_eq_toUpper c).symm
  rw [upper, upper, hupper a, hupper b, heq]

/-- A word with a character that is no letter spells no word of letters. -/
theorem sameLetters_of_not_alpha {word keyword : String} {c : Char} (hc : c ∈ word.toList)
    (halpha : c.isAlpha = false) (hk : keyword.toList.all Char.isAlpha = true) :
    sameLetters word keyword = false := by
  by_contra h
  have heq : word.toList.map Char.toLower = keyword.toList.map Char.toLower := by
    simpa [sameLetters] using h
  have hmem : c.toLower ∈ keyword.toList.map Char.toLower := heq ▸ List.mem_map_of_mem hc
  obtain ⟨d, hd, hcd⟩ := List.mem_map.mp hmem
  have hletter : d.isAlpha = true := List.all_eq_true.mp hk d hd
  rw [← Char.isAlpha_toLower_eq_isAlpha, hcd, Char.isAlpha_toLower_eq_isAlpha, halpha] at hletter
  exact absurd hletter (by simp)

end Text

/-! ## 3. Modalities

From an identifier to the modality it names, and back through the keyword.  The order of the lemmas
is that of the argument: the canonical casing of ASCII, the modality of an identifier and of its
capitals, and then that naming a canonical name again changes nothing. -/

/-- Capitals of an identifier are an identifier, and of nothing else. -/
theorem isIdentifier_upper (name : String) : isIdentifier (Text.upper name) = isIdentifier name := by
  unfold isIdentifier
  rw [Text.toList_upper]
  cases name.toList with
  | nil => rfl
  | cons c cs =>
    have hrest : (fun d : Char => d.isAlphanum || d == '_') ∘ Char.toUpper =
        fun d => d.isAlphanum || d == '_' := funext isNameChar_toUpper
    simp only [List.map_cons, Char.isAlpha_toUpper_eq_isAlpha, List.all_map, hrest]

/-- The characters of an identifier. -/
theorem isNameChar_of_isIdentifier {name : String} (h : isIdentifier name = true) :
    ∀ c ∈ name.toList, (c.isAlphanum || c == '_') = true := by
  unfold isIdentifier at h
  intro c hc
  cases hn : name.toList with
  | nil => simp [hn] at hc
  | cons d ds =>
    simp only [hn, Bool.and_eq_true, List.all_eq_true] at h
    rw [hn] at hc
    rcases List.mem_cons.mp hc with rfl | hc
    · exact isNameChar_of_isAlpha h.1
    · exact h.2 c hc

/-- An identifier has a first character. -/
theorem toList_ne_nil_of_isIdentifier {name : String} (h : isIdentifier name = true) :
    name.toList ≠ [] := by
  intro hnil
  simp [isIdentifier, hnil] at h

namespace Modality

/-- On ASCII the canonical casing is a capital and then small letters. -/
theorem canonical_cons {c : Char} {cs : List Char} (hc : c.toNat < 128)
    (hcs : ∀ d ∈ cs, d.toNat < 128) : canonical (c :: cs) = c.toUpper :: cs.map Char.toLower := by
  have htail : cs.flatMap Text.lowerOf = cs.map Char.toLower := by
    rw [← List.flatMap_pure_eq_map]
    exact List.flatMap_congr fun d hd => by simp [Text.lowerOf, hcs d hd]
  simp [canonical, Text.upperOf, hc, htail]

/-- The characters of the modality an identifier names. -/
theorem toList_name_ofName {name : String} (h : isIdentifier name = true) {c : Char}
    {cs : List Char} (hn : name.toList = c :: cs) :
    (ofName name).name.toList = c.toUpper :: cs.map Char.toLower := by
  have hascii : ∀ d ∈ c :: cs, d.toNat < 128 := by
    intro d hd
    exact toNat_lt_of_isNameChar (isNameChar_of_isIdentifier h d (hn ▸ hd))
  rw [ofName, String.toList_ofList, hn,
    canonical_cons (hascii c (by simp)) fun d hd => hascii d (List.mem_cons_of_mem _ hd)]

/-- The name is an identifier in the canonical casing. -/
structure IsCanonical (modality : Modality) : Prop where
  isIdentifier : isIdentifier modality.name = true
  /-- bringing it into the canonical casing changes nothing -/
  ofName_name : ofName modality.name = modality

/-- An identifier and its capitals name the same modality. -/
theorem ofName_upper {name : String} (h : isIdentifier name = true) :
    ofName (Text.upper name) = ofName name := by
  have h' : isIdentifier (Text.upper name) = true := (isIdentifier_upper name).trans h
  obtain ⟨c, cs, hn⟩ := List.exists_cons_of_ne_nil (toList_ne_nil_of_isIdentifier h)
  have hn' : (Text.upper name).toList = c.toUpper :: cs.map Char.toUpper := by
    rw [Text.toList_upper, hn, List.map_cons]
  have hname : (ofName (Text.upper name)).name = (ofName name).name := by
    rw [← String.toList_inj, toList_name_ofName h hn, toList_name_ofName h' hn',
      Char.toUpper_toUpper_eq_toUpper, List.map_map]
    refine congrArg (List.cons _) ?_
    exact List.map_congr_left fun d _ => Char.toLower_toUpper_eq_toLower d
  exact congrArg Modality.mk hname

/-- Writing the modality of an identifier in capitals writes the identifier in capitals. -/
theorem keyword_ofName {name : String} (h : isIdentifier name = true) :
    (ofName name).keyword = Text.upper name := by
  obtain ⟨c, cs, hn⟩ := List.exists_cons_of_ne_nil (toList_ne_nil_of_isIdentifier h)
  rw [keyword, ← String.toList_inj, Text.toList_upper, Text.toList_upper,
    toList_name_ofName h hn, hn, List.map_cons, List.map_cons, Char.toUpper_toUpper_eq_toUpper,
    List.map_map]
  refine congrArg (List.cons _) ?_
  exact List.map_congr_left fun d _ => Char.toUpper_toLower_eq_toUpper d

/-- An identifier names a canonical modality. -/
theorem isCanonical_ofName {name : String} (h : isIdentifier name = true) :
    IsCanonical (ofName name) := by
  have hkey := keyword_ofName h
  have hid : isIdentifier (ofName name).name = true := by
    rw [← isIdentifier_upper]
    change isIdentifier (ofName name).keyword = true
    rw [hkey, isIdentifier_upper, h]
  refine ⟨hid, ?_⟩
  rw [← ofName_upper hid]
  change ofName (ofName name).keyword = ofName name
  rw [hkey, ofName_upper h]

namespace IsCanonical

variable {modality : Modality}

/-- The keyword of a canonical modality is an identifier, so a registry resolves it and the
grammar reads it as a name. -/
theorem isIdentifier_keyword (h : IsCanonical modality) :
    HexadQuery.isIdentifier modality.keyword = true :=
  (isIdentifier_upper modality.name).trans h.isIdentifier

/-- **A canonical modality comes back from its keyword.**  The keyword is the name in capitals,
and `Modality.ofName` brings every casing of an identifier into the canonical one. -/
theorem ofName_keyword (h : IsCanonical modality) : ofName modality.keyword = modality :=
  (ofName_upper h.isIdentifier).trans h.ofName_name

end IsCanonical

end Modality

/-! ## 4. Registries

What registering does is said once (`register_eq`), with the success alone beside it
(`register_cases`), and the invariant of all registries is one induction over the calls. -/

namespace Registry

/-- The registries that can be built: from the built-in one or the empty one, by registering. -/
inductive Reachable : Registry → Prop
  | builtin : Reachable builtin
  | empty : Reachable empty
  | register {registry next : Registry} {name : String} {changed : Bool} :
      Reachable registry → registry.register name = .ok (changed, next) → Reachable next

/-- What registering a name does: a name that is no identifier is refused, a modality that is there
stays where it is, and any other is added at the end. -/
theorem register_eq (registry : Registry) (name : String) :
    registry.register name =
      if isIdentifier name then
        if Modality.ofName name ∈ registry.modalities then .ok (false, registry)
        else .ok (true, ⟨registry.modalities ++ [Modality.ofName name]⟩)
      else .error ⟨name⟩ := by
  unfold register Modality.parse? contains
  by_cases hid : isIdentifier name = true
  · simp [hid]
  · simp [hid]

/-- What registering a name does, if it is accepted: nothing, or the modality of an identifier is
added at the end. -/
theorem register_cases {registry next : Registry} {name : String} {changed : Bool}
    (h : registry.register name = .ok (changed, next)) :
    next = registry ∨
      isIdentifier name = true ∧ Modality.ofName name ∉ registry.modalities ∧
        next = ⟨registry.modalities ++ [Modality.ofName name]⟩ := by
  rw [register_eq] at h
  split at h
  · next hid =>
    split at h
    · simp only [Except.ok.injEq, Prod.mk.injEq] at h
      exact Or.inl h.2.symm
    · next hnew =>
      simp only [Except.ok.injEq, Prod.mk.injEq] at h
      exact Or.inr ⟨hid, hnew, h.2.symm⟩
  · exact absurd h (by simp)

/-- **Every modality of a registry is canonical.** -/
theorem Reachable.isCanonical {registry : Registry} (h : registry.Reachable) :
    ∀ m ∈ registry.modalities, m.IsCanonical := by
  induction h with
  | builtin =>
    intro m hm
    simp only [Registry.builtin, Modality.builtins, List.mem_cons, List.not_mem_nil, or_false] at hm
    rcases hm with rfl | rfl | rfl | rfl | rfl | rfl <;>
      exact Modality.isCanonical_ofName (by decide)
  | empty => simp [Registry.empty]
  | register _ hreg ih =>
    rcases register_cases hreg with rfl | ⟨hid, -, rfl⟩
    · exact ih
    · intro m hm
      rcases List.mem_append.mp hm with hm | hm
      · exact ih m hm
      · rw [List.mem_singleton.mp hm]
        exact Modality.isCanonical_ofName hid

/-- Adding names leads from reachable registries to reachable ones. -/
theorem Reachable.withModality {registry next : Registry} {name : String}
    (h : registry.Reachable) (hnext : registry.withModality name = .ok next) : next.Reachable := by
  unfold Registry.withModality at hnext
  cases hreg : registry.register name with
  | error e => simp [hreg, Except.map] at hnext
  | ok p =>
    simp only [hreg, Except.map, Except.ok.injEq] at hnext
    subst hnext
    exact h.register hreg

/-- The same for a list of names.  The recursion is that of the fold, over any registry to start
from. -/
theorem Reachable.withModalities : ∀ {names : List String} {registry next : Registry},
    registry.Reachable → registry.withModalities names = .ok next → next.Reachable
  | [], registry, next, h, hnext => by
    obtain rfl : registry = next := by simpa [Registry.withModalities, pure, Except.pure] using hnext
    exact h
  | name :: names, registry, next, h, hnext => by
    rw [Registry.withModalities, List.foldlM_cons] at hnext
    cases hmid : registry.withModality name with
    | error e => simp [hmid, bind, Except.bind] at hnext
    | ok mid =>
      simp only [hmid, bind, Except.bind] at hnext
      exact Reachable.withModalities (h.withModality hmid) hnext

/-- A registry that a list of names was read into can be reached. -/
theorem reachable_ofNames {names : List String} {registry : Registry}
    (h : ofNames names = .ok registry) : registry.Reachable :=
  Reachable.empty.withModalities h

/-- A name that resolves spells the modality it resolves to. -/
theorem resolve?_eq_some {registry : Registry} {name : String} {m : Modality}
    (h : registry.resolve? name = some m) :
    m ∈ registry.modalities ∧ Text.sameLetters m.name name = true := by
  unfold resolve? at h
  have hspell := List.find?_some h
  exact ⟨List.mem_of_find?_eq_some h, hspell⟩

/-- A name that resolves does so in any casing, to the same modality. -/
theorem resolve?_keyword {registry : Registry} {name : String} {m : Modality}
    (h : registry.resolve? name = some m) : registry.resolve? m.keyword = some m := by
  have hspell : Text.sameLetters m.keyword name = true :=
    Text.sameLetters_trans (Text.sameLetters_upper m.name) (resolve?_eq_some h).2
  rw [← h]
  refine congrArg (List.find? · registry.modalities) (funext fun other => ?_)
  exact Text.sameLetters_congr_right hspell other.name

end Registry

end HexadQuery
