/-
# A compact text determines its value

Two JSON values with the same compact text are equal (`Json.compact_injective`).  The proof follows
the text from the left, so what is stated is stronger: the text of a value with more behind it can
be cut in one way only.  Numbers are the one kind of value without an end of their own, so what is
behind must not start with a digit; in a text it is a comma, a closing bracket or nothing.

`Apart text a` says that of one value of any type, and passes from the parts to the whole: from a
key and a value to a member (`Apart.member`), and from the items to the list between brackets
(`apart_listText`).  Strings are told apart because `stringBody` decodes them: it gives what they
stand for (`Encodes`), in whatever way that is escaped, and so reads back what was written.

The kind of a value is known by the first character of its text (`opens_chars`), so two values with
one text are of one kind, and the cases that remain are six and not thirty-six.  An array and an
object go by their lists, and the text of a list is brought into a form that ends in its closing
bracket (`listText`): as the writer makes it, with commas between the items, it has no place where
the induction could go on.

That different trees have different texts is a consequence for everything that is sent as JSON: the
response of the bridge, and the statement of a text on the wire.
-/
import HexadQuery.Json.Basic
import HexadQuery.Json.Lexeme
import Mathlib

namespace HexadQuery.Json

/-! ## 1. Strings

Writing a string and decoding it.  `Encodes` has all spellings of a string, the written one among
them, because texts that come from outside are decoded by the same function. -/

/-- How a character is written: as a short escape, as the number of a control, or as itself. -/
theorem escapeChar_cases (c : Char) :
    (∃ e, escaped? e = some c ∧ escapeChar c = ['\\', e]) ∨
    (c.toNat < 32 ∧ escapeChar c =
      ['\\', 'u', '0', '0', (c.toNat / 16).digitChar, (c.toNat % 16).digitChar]) ∨
    (c ≠ '"' ∧ c ≠ '\\' ∧ ¬ c.toNat < 32 ∧ escapeChar c = [c]) := by
  have hshort : ∀ d e : Char, escaped? e = some d → escapeChar d = ['\\', e] → c = d →
      ∃ e, escaped? e = some c ∧ escapeChar c = ['\\', e] := by
    rintro d e he hd rfl
    exact ⟨e, he, hd⟩
  by_cases hquote : c = '"'
  · exact Or.inl (hshort '"' '"' rfl rfl hquote)
  by_cases hslash : c = '\\'
  · exact Or.inl (hshort '\\' '\\' rfl rfl hslash)
  by_cases hb : c = '\x08'
  · exact Or.inl (hshort '\x08' 'b' rfl rfl hb)
  by_cases ht : c = '\t'
  · exact Or.inl (hshort '\t' 't' rfl rfl ht)
  by_cases hn : c = '\n'
  · exact Or.inl (hshort '\n' 'n' rfl rfl hn)
  by_cases hf : c = '\x0c'
  · exact Or.inl (hshort '\x0c' 'f' rfl rfl hf)
  by_cases hr : c = '\r'
  · exact Or.inl (hshort '\r' 'r' rfl rfl hr)
  by_cases hcontrol : c.toNat < 32
  · exact Or.inr (Or.inl ⟨hcontrol, by
      simp [escapeChar, hquote, hslash, hb, ht, hn, hf, hr, hcontrol]⟩)
  · exact Or.inr (Or.inr ⟨hquote, hslash, hcontrol, by
      simp [escapeChar, hquote, hslash, hb, ht, hn, hf, hr, hcontrol]⟩)

/-- The number of a control character is read back from its four digits. -/
theorem hex4?_control : ∀ n : Fin 32,
    hex4? '0' '0' (n.val / 16).digitChar (n.val % 16).digitChar = some n.val := by decide

/-- What may stand between the quotes of a string, and the characters it stands for. -/
inductive Encodes : List Char → List Char → Prop
  | nil : Encodes [] []
  | plain {c : Char} {cs ds : List Char} : c ≠ '"' → c ≠ '\\' → 0x20 ≤ c.toNat → Encodes cs ds →
      Encodes (c :: cs) (c :: ds)
  | short {e c : Char} {cs ds : List Char} : escaped? e = some c → Encodes cs ds →
      Encodes ('\\' :: e :: cs) (c :: ds)
  | number {x y z w : Char} {n : Nat} {cs ds : List Char} : hex4? x y z w = some n →
      isHighSurrogate n = false → isLowSurrogate n = false → Encodes cs ds →
      Encodes ('\\' :: 'u' :: x :: y :: z :: w :: cs) (Char.ofNat n :: ds)
  | pair {x y z w x' y' z' w' : Char} {n m : Nat} {cs ds : List Char} : hex4? x y z w = some n →
      isHighSurrogate n = true → hex4? x' y' z' w' = some m → isLowSurrogate m = true →
      Encodes cs ds →
      Encodes ('\\' :: 'u' :: x :: y :: z :: w :: '\\' :: 'u' :: x' :: y' :: z' :: w' :: cs)
        (paired n m :: ds)

/-- **A string is decoded in every spelling**, up to its closing quote. -/
theorem stringBody_encodes {cs ds : List Char} (h : Encodes cs ds) (rest : List Char) :
    stringBody (cs ++ '"' :: rest) = some (ds, rest) := by
  induction h with
  | nil => simp [stringBody]
  | @plain c cs ds hquote hslash hc _ ih =>
    rw [List.cons_append, stringBody]
    · have hlow : ¬ c.toNat < 32 := by omega
      simp [hlow, hslash, ih]
    · exact hquote
    · intro _ _ _ _ _ heq
      exact absurd heq hslash
    · intro _ _ heq
      exact absurd heq hslash
  | short he _ ih =>
    rw [List.cons_append, List.cons_append, stringBody, he]
    · simp [ih]
    · rintro _ _ _ _ _ rfl
      cases he
  | number hn hhigh hlow _ ih =>
    simp only [List.cons_append]
    rw [stringBody, hn]
    simp only [hhigh, hlow, Bool.false_eq_true, if_false, ih, Option.map_some]
  | pair hn hhigh hm hlow _ ih =>
    simp only [List.cons_append]
    rw [stringBody, hn]
    simp only [hhigh, if_true, hm, hlow, ih, Option.map_some]

/-- A character as it is written is one spelling of it. -/
theorem Encodes.escapeChar (c : Char) {cs ds : List Char} (h : Encodes cs ds) :
    Encodes (escapeChar c ++ cs) (c :: ds) := by
  rcases escapeChar_cases c with ⟨e, hc, heq⟩ | ⟨hc, heq⟩ | ⟨hquote, hslash, hc, heq⟩
  · rw [heq]
    exact .short hc h
  · have hn := hex4?_control ⟨c.toNat, hc⟩
    have hnumber := Encodes.number hn
      (by simp only [isHighSurrogate, Bool.and_eq_false_iff, decide_eq_false_iff_not]; omega)
      (by simp only [isLowSurrogate, Bool.and_eq_false_iff, decide_eq_false_iff_not]; omega) h
    rw [Char.ofNat_toNat] at hnumber
    rw [heq]
    exact hnumber
  · rw [heq]
    exact .plain hquote hslash (by omega) h

/-- So a string as it is written is one spelling of it. -/
theorem encodes_escaped : ∀ cs : List Char, Encodes (cs.flatMap escapeChar) cs
  | [] => .nil
  | c :: cs => by
    rw [List.flatMap_cons]
    exact (encodes_escaped cs).escapeChar c

/-- **What was escaped is read back**, up to the closing quote.  How a character is escaped is
one of the spellings of it. -/
theorem stringBody_escaped (rest cs : List Char) :
    stringBody (cs.flatMap escapeChar ++ '"' :: rest) = some (cs, rest) :=
  stringBody_encodes (encodes_escaped cs) rest

/-- The written string, by its characters. -/
theorem toList_stringText (s : String) :
    (stringText s).toList = '"' :: (s.toList.flatMap escapeChar ++ ['"']) := by
  rw [stringText, String.toList_ofList]
  rfl

/-! ## 2. Texts that can be told apart

`Apart` is injectivity with more behind.  The text that is behind is any text which does not go on
with digits, so that the same statement serves for numbers. -/

variable {α : Type}

/-- What may stand behind a value: anything that does not go on with digits. -/
def Ends (rest : List Char) : Prop := ∀ c, rest.head? = some c → c.isDigit = false

/-- A character that is no digit ends a number. -/
theorem ends_cons {c : Char} (h : c.isDigit = false) (rest : List Char) : Ends (c :: rest) := by
  intro d hd
  obtain rfl : c = d := by simpa using hd
  exact h

/-- No other value has the text of `a`, whatever stands behind the two. -/
def Apart (text : α → List Char) (a : α) : Prop :=
  ∀ b r s, Ends r → Ends s → text a ++ r = text b ++ s → a = b ∧ r = s

/-- A string ends at its closing quote, wherever that is: decoding finds it. -/
theorem apart_stringText (s : String) : Apart (fun s => (stringText s).toList) s := by
  intro t r r' _ _ h
  simp only [toList_stringText, List.cons_append, List.append_assoc, List.nil_append,
    List.cons.injEq, true_and] at h
  have hread := congrArg stringBody h
  rw [stringBody_escaped, stringBody_escaped] at hread
  simp only [Option.some.injEq, Prod.mk.injEq, String.toList_inj] at hread
  exact hread

/-- Digits end where the rest does not go on with them. -/
theorem apart_repr (n : Nat) : Apart (fun n : Nat => n.repr.toList) n := by
  have hcut : ∀ (k : Nat) (rest : List Char), Ends rest →
      (k.repr.toList ++ rest).takeWhile Char.isDigit = k.repr.toList := by
    intro k rest hrest
    have hdigits : ∀ c ∈ k.repr.toList, c.isDigit = true := by
      intro c hc
      rw [Nat.toList_repr] at hc
      exact Nat.isDigit_of_mem_toDigits (by decide) (by decide) hc
    rw [List.takeWhile_append_of_pos hdigits]
    cases rest with
    | nil => simp
    | cons c cs => simp [hrest c rfl]
  intro m r s hr hs h
  have hrepr : n.repr.toList = m.repr.toList := by
    rw [← hcut n r hr, ← hcut m s hs]
    exact congrArg _ h
  have hvalue := congrArg (Nat.ofDigitChars 10 · 0) hrepr
  simp only [Nat.toList_repr, Nat.ofDigitChars_ten_toDigits] at hvalue
  simp only [hrepr] at h
  exact ⟨hvalue, List.append_cancel_left h⟩

/-! ## 3. Lists between brackets

A list is told apart item by item; at each item either side may be at its end, and no item starts
like an end. -/

/-- The items that are left, a comma ahead of each, and the closing bracket. -/
def tailText (text : α → List Char) (close : Char) (items : List α) : List Char :=
  items.flatMap (fun item => ',' :: text item) ++ [close]

/-- A list behind its opening bracket. -/
def listText (text : α → List Char) (close : Char) : List α → List Char
  | [] => [close]
  | item :: items => text item ++ tailText text close items

section Lists

variable {text : α → List Char} {close : Char}

/-- Behind an item is a comma or the closing bracket. -/
theorem ends_tailText (hclose : close.isDigit = false) (items : List α) (rest : List Char) :
    Ends (tailText text close items ++ rest) := by
  cases items with
  | nil => exact ends_cons hclose rest
  | cons item items => exact ends_cons (by decide) _

/-- One item more. -/
theorem tailText_cons (item : α) (items : List α) :
    tailText text close (item :: items) = ',' :: (text item ++ tailText text close items) := by
  simp [tailText]

/-- The items behind the first, by induction on the items. -/
theorem apart_tailText (hclose : close.isDigit = false) (hcomma : close ≠ ',') :
    ∀ {items : List α}, (∀ item ∈ items, Apart text item) → Apart (tailText text close) items
  | [], _, [], r, s, _, _, h => ⟨rfl, by simpa [tailText] using h⟩
  | [], _, item :: items, r, s, _, _, h => by
    rw [tailText_cons] at h
    exact absurd (List.cons.inj h).1 hcomma
  | item :: items, _, [], r, s, _, _, h => by
    rw [tailText_cons] at h
    exact absurd (List.cons.inj h).1.symm hcomma
  | item :: items, hitems, other :: others, r, s, hr, hs, h => by
    rw [tailText_cons, tailText_cons, List.cons_append, List.cons_append, List.append_assoc,
      List.append_assoc] at h
    obtain ⟨rfl, htail⟩ := hitems item List.mem_cons_self other _ _ (ends_tailText hclose items r)
      (ends_tailText hclose others s) (List.cons.inj h).2
    obtain ⟨rfl, hrest⟩ := apart_tailText hclose hcomma
      (fun i hi => hitems i (List.mem_cons_of_mem _ hi)) others r s hr hs htail
    exact ⟨rfl, hrest⟩

/-- **Lists are told apart if their items are**, and if no item starts like the end of the list.
The first items end at the same place, and then so do the lists of the others. -/
theorem apart_listText (hclose : close.isDigit = false) (hcomma : close ≠ ',')
    (hopen : ∀ item, ∃ c cs, text item = c :: cs ∧ c ≠ close) {items : List α}
    (hitems : ∀ item ∈ items, Apart text item) : Apart (listText text close) items := by
  intro others r s hr hs h
  cases items with
  | nil =>
    cases others with
    | nil => exact ⟨rfl, (List.cons.inj h).2⟩
    | cons other others =>
      obtain ⟨c, cs, hc, hne⟩ := hopen other
      rw [listText, listText, hc] at h
      exact absurd (List.cons.inj h).1.symm hne
  | cons item items =>
    cases others with
    | nil =>
      obtain ⟨c, cs, hc, hne⟩ := hopen item
      rw [listText, listText, hc] at h
      exact absurd (List.cons.inj h).1 hne
    | cons other others =>
      rw [listText, listText, List.append_assoc, List.append_assoc] at h
      obtain ⟨rfl, htail⟩ := hitems item List.mem_cons_self other _ _
        (ends_tailText hclose items r) (ends_tailText hclose others s) h
      obtain ⟨rfl, hrest⟩ := apart_tailText hclose hcomma
        (fun i hi => hitems i (List.mem_cons_of_mem _ hi)) others r s hr hs htail
      exact ⟨rfl, hrest⟩

end Lists

/-! ## 4. Values

The texts of values in the form of section 3, and the mutual induction over values. -/

/-- The characters of a compact text. -/
def chars (json : Json) : List Char := json.compact.toList

/-- The characters of a member. -/
def memberChars (member : String × Json) : List Char :=
  (stringText member.1).toList ++ ':' :: member.2.chars

/-- Commas between the items, or a comma ahead of each but the first. -/
theorem intercalate_eq_tailText (text : α → List Char) (close : Char) (item : α) :
    ∀ items : List α, [','].intercalate ((item :: items).map text) ++ [close] =
      text item ++ tailText text close items
  | [] => by simp [tailText]
  | next :: items => by
    rw [List.map_cons, List.map_cons, List.intercalate_cons_cons, ← List.map_cons,
      List.append_assoc, intercalate_eq_tailText text close next items, tailText_cons]
    simp

theorem intercalate_eq_listText (text : α → List Char) (close : Char) (items : List α) :
    [','].intercalate (items.map text) ++ [close] = listText text close items := by
  cases items with
  | nil => rfl
  | cons item items => exact intercalate_eq_tailText text close item items

/-- The writer goes through a list item by item. -/
theorem compactItems_eq : ∀ items : List Json, compactItems items = items.map compact
  | [] => rfl
  | item :: items => by rw [compactItems, compactItems_eq items, List.map_cons]

theorem map_toList_compactMembers : ∀ members : List (String × Json),
    (compactMembers members).map String.toList = members.map memberChars
  | [] => rfl
  | (key, value) :: members => by
    rw [compactMembers, List.map_cons, map_toList_compactMembers members, List.map_cons]
    simp [memberChars, chars]

/-- The text of an array, as a list behind its bracket. -/
theorem chars_arr (items : List Json) : (arr items).chars = '[' :: listText chars ']' items := by
  rw [← intercalate_eq_listText, chars, compact, compactItems_eq]
  simp only [String.toList_append, String.toList_intercalate, List.map_map]
  rfl

/-- The text of an object, as a list behind its brace. -/
theorem chars_obj (members : List (String × Json)) :
    (obj members).chars = '\x7b' :: listText memberChars '\x7d' members := by
  rw [← intercalate_eq_listText, chars, compact, String.toList_append, String.toList_append,
    String.toList_intercalate, map_toList_compactMembers]
  rfl

/-- The kind of value that a character opens: 6 for a character that opens none. -/
def opens (c : Char) : Nat :=
  if c = 'n' then 0 else if c = 't' ∨ c = 'f' then 1 else if c.isDigit then 2
  else if c = '"' then 3 else if c = '[' then 4 else if c = '\x7b' then 5 else 6

theorem opens_of_isDigit {c : Char} (h : c.isDigit = true) : opens c = 2 := by
  have hn : c ≠ 'n' := by rintro rfl; exact absurd h (by decide)
  have ht : c ≠ 't' := by rintro rfl; exact absurd h (by decide)
  have hf : c ≠ 'f' := by rintro rfl; exact absurd h (by decide)
  simp [opens, hn, ht, hf, h]

/-- A text starts with a character that opens its kind of value. -/
theorem opens_chars (json : Json) : ∃ c cs, json.chars = c :: cs ∧ opens c = json.ctorIdx := by
  cases json with
  | null => exact ⟨'n', ['u', 'l', 'l'], by decide, rfl⟩
  | bool value =>
    cases value with
    | true => exact ⟨'t', ['r', 'u', 'e'], by decide, rfl⟩
    | false => exact ⟨'f', ['a', 'l', 's', 'e'], by decide, rfl⟩
  | num n =>
    obtain ⟨c, cs, hcs⟩ := List.exists_cons_of_ne_nil
      (mt String.toList_eq_nil_iff.mp (Nat.repr_ne_empty (n := n)))
    refine ⟨c, cs, hcs, opens_of_isDigit ?_⟩
    have hmem : c ∈ Nat.toDigits 10 n := by
      rw [← Nat.toList_repr, hcs]
      exact List.mem_cons_self
    exact Nat.isDigit_of_mem_toDigits (by decide) (by decide) hmem
  | str s => exact ⟨'"', _, toList_stringText s, rfl⟩
  | arr items => exact ⟨'[', _, chars_arr items, rfl⟩
  | obj members => exact ⟨'\x7b', _, chars_obj members, rfl⟩

/-- Values with the same text are of the same kind. -/
theorem ctorIdx_of_chars {a b : Json} {r s : List Char} (h : a.chars ++ r = b.chars ++ s) :
    a.ctorIdx = b.ctorIdx := by
  obtain ⟨c, cs, hc, ha⟩ := opens_chars a
  obtain ⟨d, ds, hd, hb⟩ := opens_chars b
  rw [hc, hd] at h
  rw [← ha, ← hb, (List.cons.inj h).1]

/-- No value starts like the end of an array. -/
theorem chars_ne_close (json : Json) : ∃ c cs, json.chars = c :: cs ∧ c ≠ ']' := by
  obtain ⟨c, cs, hc, hopens⟩ := opens_chars json
  refine ⟨c, cs, hc, ?_⟩
  rintro rfl
  cases json <;> cases hopens

/-- A member is told apart by its key and then by its value. -/
theorem Apart.member {key : String} {value : Json} (h : Apart chars value) :
    Apart memberChars (key, value) := by
  rintro ⟨key', value'⟩ r s hr hs heq
  simp only [memberChars, List.append_assoc, List.cons_append] at heq
  obtain ⟨rfl, htail⟩ := apart_stringText key key' _ _ (ends_cons (by decide) _)
    (ends_cons (by decide) _) heq
  obtain ⟨rfl, hrest⟩ := h value' r s hr hs (List.cons.inj htail).2
  exact ⟨rfl, hrest⟩

mutual

/-- **Values are told apart by their texts**, whatever stands behind them.  Two texts that begin
alike are of one kind of value, by their first character; a number is the one kind that does not
show where it ends, so what stands behind must be no digit. -/
theorem apart_chars : ∀ json : Json, Apart chars json
  | null => by
    intro b r s _ _ h
    have hkind := ctorIdx_of_chars h
    cases b with
    | null => exact ⟨rfl, List.append_cancel_left h⟩
    | _ => cases hkind
  | bool value => by
    intro b r s _ _ h
    have hkind := ctorIdx_of_chars h
    cases b with
    | bool value' =>
      cases value <;> cases value'
      · exact ⟨rfl, List.append_cancel_left h⟩
      · exact absurd (List.cons.inj h).1 (by decide)
      · exact absurd (List.cons.inj h).1 (by decide)
      · exact ⟨rfl, List.append_cancel_left h⟩
    | _ => cases hkind
  | num n => by
    intro b r s hr hs h
    have hkind := ctorIdx_of_chars h
    cases b with
    | num m =>
      obtain ⟨rfl, hrest⟩ := apart_repr n m r s hr hs h
      exact ⟨rfl, hrest⟩
    | _ => cases hkind
  | str text => by
    intro b r s hr hs h
    have hkind := ctorIdx_of_chars h
    cases b with
    | str text' =>
      obtain ⟨rfl, hrest⟩ := apart_stringText text text' r s hr hs h
      exact ⟨rfl, hrest⟩
    | _ => cases hkind
  | arr items => by
    intro b r s hr hs h
    have hkind := ctorIdx_of_chars h
    cases b with
    | arr items' =>
      rw [chars_arr, chars_arr] at h
      obtain ⟨rfl, hrest⟩ := apart_listText (by decide) (by decide) chars_ne_close
        (apart_items items) items' r s hr hs (List.cons.inj h).2
      exact ⟨rfl, hrest⟩
    | _ => cases hkind
  | obj members => by
    intro b r s hr hs h
    have hkind := ctorIdx_of_chars h
    cases b with
    | obj members' =>
      rw [chars_obj, chars_obj] at h
      have hopen : ∀ member, ∃ c cs, memberChars member = c :: cs ∧ c ≠ '\x7d' := by
        rintro ⟨key, value⟩
        rw [memberChars, toList_stringText]
        exact ⟨'"', _, rfl, by decide⟩
      obtain ⟨rfl, hrest⟩ := apart_listText (by decide) (by decide) hopen
        (apart_members members) members' r s hr hs (List.cons.inj h).2
      exact ⟨rfl, hrest⟩
    | _ => cases hkind

theorem apart_items : ∀ items : List Json, ∀ item ∈ items, Apart chars item
  | [] => List.forall_mem_nil _
  | first :: items => List.forall_mem_cons.mpr ⟨apart_chars first, apart_items items⟩

theorem apart_members : ∀ members : List (String × Json), ∀ member ∈ members,
    Apart memberChars member
  | [] => List.forall_mem_nil _
  | (_, value) :: members =>
    List.forall_mem_cons.mpr ⟨(apart_chars value).member, apart_members members⟩

end

/-- **A compact text determines its value.** -/
theorem compact_injective : Function.Injective compact := by
  intro a b h
  have hchars : a.chars ++ [] = b.chars ++ [] := by rw [chars, chars, h]
  have hnil : Ends [] := by
    intro c hc
    cases hc
  exact (apart_chars a b [] [] hnil hnil hchars).1

end HexadQuery.Json
