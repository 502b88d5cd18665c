/-
# The texts of a value are read back

A value has many texts: blanks may stand wherever the grammar allows them, and a character of a
string may stand for itself or be escaped in several ways.  `Layout` holds of a value and each of
its texts, in the shape of the grammar (`IsValue`), and the compact text is one of them
(`layout_chars`).

The reader takes a text apart piece by piece, so here is one lemma for each piece, over whatever
text follows it: strings come back as what they stand for in every spelling (`readString_quoted`),
arrays of strings element by element (`readStrings_layout`), and objects member by member
(`readMembers_layout`).  What a reader does with the value of a member is left open there: the
members are put into a state one after the other, and the first fault ends it.

That is how records are read, requests and configurations alike.  A record has fields with a
default or without, in any order, and members it does not know; a field that is given twice is a
fault.  None of this is in the reader of objects, all of it is in the function that takes a member.
So `Puts` asks of that function what it does with one member in any text of its value, and
`readMembers_layout` gives what the reader does with all of them.

All statements have the text that follows as a variable, since each reader hands on what it leaves.
-/
import HexadQuery.Json.Reader
import HexadQuery.Proofs.JsonGrammar

namespace HexadQuery.Json

/-! ## 1. Texts of a value

`Layout` follows `IsValue`, with the value beside the text.  A number has one text only, as it is
written; other texts of numbers are no matter here, because no field is read through one. -/

/-- A string between its quotes, in any spelling. -/
inductive Quoted (s : String) : List Char → Prop
  | mk {cs : List Char} : Encodes cs s.toList → Quoted s ('"' :: (cs ++ ['"']))

mutual

/-- A text of a value, without blanks around it. -/
inductive Layout : Json → List Char → Prop
  | null : Layout .null ['n', 'u', 'l', 'l']
  | yes : Layout (.bool true) ['t', 'r', 'u', 'e']
  | no : Layout (.bool false) ['f', 'a', 'l', 's', 'e']
  | num (n : Nat) : Layout (.num n) n.repr.toList
  | str {s : String} {cs : List Char} : Quoted s cs → Layout (.str s) cs
  | noItems {gap : List Char} : Gap gap → Layout (.arr []) ('[' :: (gap ++ [']']))
  | arr {items : List Json} {cs : List Char} : LayoutItems items cs →
      Layout (.arr items) ('[' :: (cs ++ [']']))
  | noMembers {gap : List Char} : Gap gap → Layout (.obj []) ('\x7b' :: (gap ++ ['\x7d']))
  | obj {members : List (String × Json)} {cs : List Char} : LayoutMembers members cs →
      Layout (.obj members) ('\x7b' :: (cs ++ ['\x7d']))

/-- A text of the elements of an array that has some. -/
inductive LayoutItems : List Json → List Char → Prop
  | one {item : Json} {g v h : List Char} : Gap g → Layout item v → Gap h →
      LayoutItems [item] (g ++ (v ++ h))
  | more {item : Json} {items : List Json} {g v h cs : List Char} : Gap g → Layout item v →
      Gap h → LayoutItems items cs → LayoutItems (item :: items) (g ++ (v ++ (h ++ ',' :: cs)))

/-- A text of the members of an object that has some. -/
inductive LayoutMembers : List (String × Json) → List Char → Prop
  | one {member : String × Json} {g k h i v j : List Char} : Gap g → Quoted member.1 k → Gap h →
      Gap i → Layout member.2 v → Gap j →
      LayoutMembers [member] (g ++ (k ++ (h ++ ':' :: (i ++ (v ++ j)))))
  | more {member : String × Json} {members : List (String × Json)} {g k h i v j cs : List Char} :
      Gap g → Quoted member.1 k → Gap h → Gap i → Layout member.2 v → Gap j →
      LayoutMembers members cs →
      LayoutMembers (member :: members)
        (g ++ (k ++ (h ++ ':' :: (i ++ (v ++ (j ++ ',' :: cs))))))

end

/-- A whole text of a value, with blanks around it. -/
inductive TextOf (json : Json) : String → Prop
  | mk {front cs back : List Char} : Gap front → Layout json cs → Gap back →
      TextOf json (String.ofList (front ++ (cs ++ back)))

/-- A text of a string is the string between quotes, in some spelling. -/
theorem Layout.str_eq {s : String} {v : List Char} (h : Layout (.str s) v) :
    ∃ body, v = '"' :: (body ++ ['"']) ∧ Encodes body s.toList := by
  cases h with
  | str hquoted =>
    obtain @⟨body, hbody⟩ := hquoted
    exact ⟨body, rfl, hbody⟩

/-! ## 2. The compact text

What the writer makes is a text of what it was given: without blanks, and with the escapes that
JSON demands. -/

/-- A string as it is written. -/
theorem quoted_stringText (s : String) : Quoted s (stringText s).toList := by
  rw [toList_stringText]
  exact .mk (encodes_escaped s.toList)

/-- Elements with a comma between them. -/
theorem layoutItems_chars (item : Json) : ∀ items : List Json,
    (∀ i ∈ item :: items, Layout i i.chars) →
      LayoutItems (item :: items) ([','].intercalate ((item :: items).map chars))
  | [], h => by
    have hone := LayoutItems.one gap_nil (h item List.mem_cons_self) gap_nil
    simpa using hone
  | next :: items, h => by
    obtain ⟨hitem, hitems⟩ := List.forall_mem_cons.mp h
    have hmore := LayoutItems.more gap_nil hitem gap_nil (layoutItems_chars next items hitems)
    rw [List.map_cons, List.map_cons, List.intercalate_cons_cons, ← List.map_cons]
    simpa using hmore

/-- Members with a comma between them. -/
theorem layoutMembers_chars (member : String × Json) : ∀ members : List (String × Json),
    (∀ m ∈ member :: members, Layout m.2 m.2.chars) →
      LayoutMembers (member :: members) ([','].intercalate ((member :: members).map memberChars))
  | [], h => by
    have hone := LayoutMembers.one gap_nil (quoted_stringText member.1) gap_nil gap_nil
      (h member List.mem_cons_self) gap_nil
    simpa [memberChars] using hone
  | next :: members, h => by
    obtain ⟨hmember, hmembers⟩ := List.forall_mem_cons.mp h
    have hmore := LayoutMembers.more gap_nil (quoted_stringText member.1) gap_nil gap_nil hmember
      gap_nil (layoutMembers_chars next members hmembers)
    rw [List.map_cons, List.map_cons, List.intercalate_cons_cons, ← List.map_cons]
    simpa [memberChars] using hmore

mutual

/-- **The compact text of a value is a text of it.**  It is the text without blanks and with one
spelling for each string, so what is shown of all texts is true of what is written. -/
theorem layout_chars : ∀ json : Json, Layout json json.chars
  | null => .null
  | bool true => .yes
  | bool false => .no
  | num n => .num n
  | str s => .str (quoted_stringText s)
  | arr items => by
    rw [chars_arr, ← intercalate_eq_listText]
    have hitems := layout_chars_items items
    cases items with
    | nil => exact .noItems gap_nil
    | cons item items => exact .arr (layoutItems_chars item items hitems)
  | obj members => by
    rw [chars_obj, ← intercalate_eq_listText]
    have hmembers := layout_chars_members members
    cases members with
    | nil => exact .noMembers gap_nil
    | cons member members => exact .obj (layoutMembers_chars member members hmembers)

theorem layout_chars_items : ∀ items : List Json, ∀ item ∈ items, Layout item item.chars
  | [] => List.forall_mem_nil _
  | first :: items => List.forall_mem_cons.mpr ⟨layout_chars first, layout_chars_items items⟩

theorem layout_chars_members : ∀ members : List (String × Json), ∀ member ∈ members,
    Layout member.2 member.2.chars
  | [] => List.forall_mem_nil _
  | (_, value) :: members =>
    List.forall_mem_cons.mpr ⟨layout_chars value, layout_chars_members members⟩

end

/-- The compact text has no blanks around it either. -/
theorem textOf_compact (json : Json) : TextOf json json.compact := by
  have h := TextOf.mk gap_nil (layout_chars json) gap_nil
  rwa [List.nil_append, List.append_nil, chars, String.ofList_toList] at h

/-! ## 3. Strings, colons and closing brackets

The pieces without parts.  A gap ahead of each, and any text behind. -/

/-- **A string is read as what it stands for**, in every spelling.  An escape of four digits may
need another one behind it, and the two stand for one character then. -/
theorem readString_quoted {gap cs : List Char} {s : String} (hgap : Gap gap) (h : Quoted s cs)
    (expected : String) (rest : List Char) :
    readString expected (gap ++ (cs ++ rest)) = .ok (s, rest) := by
  obtain @⟨body, hbody⟩ := h
  simp only [readString, List.cons_append, List.append_assoc, List.nil_append,
    skipSpace_gap_cons hgap (c := '"') rfl, stringBody_encodes hbody]
  simp [orMalformed, Except.map]

/-- An unsigned number of 64 bits is read from its digits. -/
theorem readUnsigned_repr {gap rest : List Char} (h : Gap gap) (id : UInt64)
    (hrest : Stops rest) :
    readUnsigned (gap ++ (id.toNat.repr.toList ++ rest)) = .ok (id, rest) := by
  have hskip : skipSpace (id.toNat.repr.toList ++ rest) = id.toNat.repr.toList ++ rest := by
    obtain ⟨c, cs, hcs, hspace, -⟩ := (IsValue.number (isNumber_repr id.toNat)).head
    rw [hcs, List.cons_append, skipSpace_cons hspace]
  have hvalue : Nat.ofDigitChars 10 id.toNat.repr.toList 0 = id.toNat := by
    rw [Nat.toList_repr, Nat.ofDigitChars_ten_toDigits]
  have hlt : id.toNat < UInt64.size := id.toNat_lt
  rw [readUnsigned, skipSpace_gap h, hskip, numeral?_repr _ hrest]
  have hkind : Numeral.kind ⟨false, id.toNat.repr.toList, none, none⟩ =
      .ok (.integer id.toNat) := by
    simp only [Numeral.kind, Numeral.magnitude, hvalue]
    rw [if_pos (by simpa [Numeral.isWhole] using hlt)]
  simp only [hkind, bind, Except.bind]
  rw [if_pos (Int.natCast_nonneg _), Int.toNat_natCast, UInt64.ofNat_toNat]

theorem readColon_gap {gap : List Char} (h : Gap gap) (rest : List Char) :
    readColon (gap ++ ':' :: rest) = .ok rest := by
  simp only [readColon, skipSpace_gap_cons h (c := ':') rfl]

theorem closeArray_gap {gap : List Char} (h : Gap gap) (rest : List Char) :
    closeArray (gap ++ ']' :: rest) = .ok rest := by
  simp only [closeArray, skipSpace_gap_cons h (c := ']') rfl]

theorem closeObject_gap {gap : List Char} (h : Gap gap) (rest : List Char) :
    closeObject (gap ++ '\x7d' :: rest) = .ok rest := by
  simp only [closeObject, skipSpace_gap_cons h (c := '\x7d') rfl]

/-- The value of a field that has not been given yet. -/
theorem readField_gap {α : Type} (name : String) {given : Option α} {read : Reader α} {a : α}
    {gap cs rest : List Char} (hgap : Gap gap) (hgiven : given = none)
    (hread : read cs = .ok (a, rest)) :
    readField name given read (gap ++ ':' :: cs) = .ok (a, rest) := by
  simp only [readField, hgiven, readColon_gap hgap, bind, Except.bind]
  exact hread

/-- The value of a member that nobody knows. -/
theorem skipField_gap {g i v rest : List Char} (hg : Gap g) (hi : Gap i) (hv : IsValue v)
    (hrest : Stops rest) : skipField (g ++ ':' :: (i ++ (v ++ rest))) = .ok ((), rest) := by
  simp only [skipField, readColon_gap hg, bind, Except.bind]
  exact skipValue_append hi hv hrest

/-! ## 4. Elements and members one by one

What stands ahead of an element tells whether it is the first; a comma is wanted ahead of each
other one and refused ahead of the closing bracket. -/

/-- What stands ahead of an element or a member: nothing, or the comma behind the one before it. -/
inductive Ahead : (first : Bool) → List Char → Prop
  /-- nothing -/
  | first : Ahead true []
  /-- a comma, with the blanks behind the value ahead of it -/
  | later {gap : List Char} : Gap gap → Ahead false (gap ++ [','])

/-- There is an element, and its text is what is left to read. -/
theorem nextItem_ahead {first : Bool} {ahead gap : List Char} (h : Ahead first ahead)
    (hgap : Gap gap) {c : Char} (hspace : isSpace c = false) (hclose : c ≠ ']')
    (rest : List Char) : nextItem first (ahead ++ (gap ++ c :: rest)) = .ok (some (c :: rest)) := by
  cases h with
  | first =>
    rw [List.nil_append, nextItem, skipSpace_gap_cons hgap hspace]
    simp
  | later hahead =>
    rw [List.append_assoc, List.singleton_append, nextItem, skipSpace_gap_cons hahead (by decide)]
    simp [skipSpace_gap_cons hgap hspace, hclose]

/-- There is none: the bracket is next. -/
theorem nextItem_close {gap : List Char} (h : Gap gap) (first : Bool) (rest : List Char) :
    nextItem first (gap ++ ']' :: rest) = .ok none := by
  simp only [nextItem, skipSpace_gap_cons h (c := ']') rfl]

/-- There is a member, and its key has been read. -/
theorem nextKey_ahead {first : Bool} {ahead gap k : List Char} {key : String}
    (h : Ahead first ahead) (hgap : Gap gap) (hkey : Quoted key k) (rest : List Char) :
    nextKey first (ahead ++ (gap ++ (k ++ rest))) = .ok (some (key, rest)) := by
  obtain @⟨body, hbody⟩ := hkey
  have hskip : skipSpace (gap ++ ('"' :: (body ++ ['"']) ++ rest)) =
      '"' :: (body ++ '"' :: rest) := by
    rw [List.cons_append, skipSpace_gap_cons hgap (by decide)]
    simp
  cases h with
  | first =>
    rw [nextKey, List.nil_append, hskip]
    simp [stringBody_encodes hbody, orMalformed, Except.map]
  | later hahead =>
    rw [nextKey, List.append_assoc, List.singleton_append, skipSpace_gap_cons hahead (by decide)]
    simp only [hskip, Bool.false_eq_true, if_false, stringBody_encodes hbody, orMalformed,
      Except.map, String.ofList_toList]

/-- There is none: the brace is next. -/
theorem nextKey_close {gap : List Char} (h : Gap gap) (first : Bool) (rest : List Char) :
    nextKey first (gap ++ '\x7d' :: rest) = .ok none := by
  simp only [nextKey, skipSpace_gap_cons h (c := '\x7d') rfl]

/-! ## 5. Arrays of strings

The names of modalities are the one array that is read.  The recursion goes over the names, with
the text of each behind a gap or a comma. -/

/-- Nothing is read ahead of the closing bracket. -/
theorem stringItems_close {gap : List Char} (h : Gap gap) (first : Bool) (rest : List Char) :
    stringItems first (gap ++ ']' :: rest) = .ok ([], gap ++ ']' :: rest) := by
  rw [stringItems, nextItem_close h]
  rfl

/-- One string is read, up to the blanks behind it. -/
theorem stringItems_step {first : Bool} {ahead g v : List Char} {s : String}
    (hahead : Ahead first ahead) (hg : Gap g) (hv : Layout (.str s) v) (rest : List Char) :
    stringItems first (ahead ++ (g ++ (v ++ rest))) =
      (stringItems false rest).map fun (texts, rest) => (s :: texts, rest) := by
  obtain ⟨body, rfl, hbody⟩ := hv.str_eq
  have hitem := nextItem_ahead hahead hg (c := '"') rfl (by decide) (body ++ ['"'] ++ rest)
  have hread := readString_quoted gap_nil (.mk hbody) "a string" rest
  rw [List.nil_append] at hread
  rw [List.cons_append] at hread ⊢
  rw [stringItems, hitem]
  simp only [bind, Except.bind, hread]
  rw [if_pos]
  · cases stringItems false rest <;> rfl
  · simp only [List.length_append, List.length_cons]
    omega

/-- **All strings of an array are read**, up to its closing bracket.  The induction is on the
names; a comma is ahead of all but the first. -/
theorem stringItems_layout : ∀ {names : List String} {cs : List Char} {first : Bool}
    {ahead : List Char}, LayoutItems (names.map .str) cs → Ahead first ahead →
    ∀ rest, ∃ gap, Gap gap ∧
      stringItems first (ahead ++ (cs ++ ']' :: rest)) = .ok (names, gap ++ ']' :: rest)
  | [], _, _, _, h, _, _ => nomatch h
  | [name], _, first, ahead, h, hahead, rest => by
    cases h with
    | @one _ g v h hg hv hh =>
      refine ⟨h, hh, ?_⟩
      simp only [List.append_assoc]
      rw [stringItems_step hahead hg hv, stringItems_close hh]
      rfl
    | more _ _ _ hitems => exact nomatch hitems
  | name :: next :: names, _, first, ahead, h, hahead, rest => by
    cases h with
    | @more _ _ g v h cs hg hv hh hitems =>
      have hnames : LayoutItems ((next :: names).map .str) cs := hitems
      obtain ⟨gap, hgap, hlater⟩ := stringItems_layout hnames (.later hh) rest
      refine ⟨gap, hgap, ?_⟩
      simp only [List.append_assoc, List.cons_append, List.nil_append] at hlater ⊢
      rw [stringItems_step hahead hg hv, hlater]
      rfl

/-- **An array of strings is read back.** -/
theorem readStrings_layout {names : List String} {gap v : List Char} (hgap : Gap gap)
    (h : Layout (.arr (names.map .str)) v) (rest : List Char) :
    readStrings (gap ++ (v ++ rest)) = .ok (names, rest) := by
  generalize hitems : names.map Json.str = items at h
  have hread : ∃ cs last, v = '[' :: (cs ++ [']']) ∧ Gap last ∧
      stringItems true (cs ++ ']' :: rest) = .ok (names, last ++ ']' :: rest) := by
    cases h with
    | @noItems g hg =>
      obtain rfl : names = [] := List.map_eq_nil_iff.mp hitems
      exact ⟨g, g, rfl, hg, stringItems_close hg true rest⟩
    | @arr _ cs hcs =>
      obtain ⟨last, hlast, hread⟩ := stringItems_layout (hitems ▸ hcs) .first rest
      exact ⟨cs, last, rfl, hlast, hread⟩
  obtain ⟨cs, last, rfl, hlast, hread⟩ := hread
  simp only [readStrings, List.cons_append, List.append_assoc, List.nil_append,
    skipSpace_gap_cons hgap (c := '[') rfl, hread, bind, Except.bind, closeArray_gap hlast]
  rfl

/-! ## 6. Objects

The same for members, over any state and any way of putting a member into it. -/

section Objects

variable {σ ι : Type} {member : σ → String → Reader σ} {entry : ι → String × Json}
  {put : σ → ι → Except JsonFault σ}

/-- The state is final ahead of the closing brace. -/
theorem readMembers_close {gap : List Char} (h : Gap gap) (first : Bool) (state : σ)
    (rest : List Char) :
    readMembers member first state (gap ++ '\x7d' :: rest) =
      .ok (state, gap ++ '\x7d' :: rest) := by
  rw [readMembers, nextKey_close h]
  rfl

/-- `member` reads the value of a member, in any text of it, as `put` takes it. -/
def Puts (member : σ → String → Reader σ) (entry : ι → String × Json)
    (put : σ → ι → Except JsonFault σ) (m : ι) : Prop :=
  ∀ (state : σ) {h i v rest : List Char}, Gap h → Gap i → Layout (entry m).2 v → Stops rest →
    member state (entry m).1 (h ++ ':' :: (i ++ (v ++ rest))) =
      (put state m).map fun s => (s, rest)

/-- **One member is read**, up to the blanks behind its value, unless it is at fault. -/
theorem readMembers_step {m : ι} (hputs : Puts member entry put m) {first : Bool}
    {ahead g k h i v rest : List Char} (hahead : Ahead first ahead) (hg : Gap g)
    (hkey : Quoted (entry m).1 k) (hh : Gap h) (hi : Gap i) (hv : Layout (entry m).2 v)
    (hrest : Stops rest) (state : σ) :
    readMembers member first state (ahead ++ (g ++ (k ++ (h ++ ':' :: (i ++ (v ++ rest)))))) =
      put state m >>= fun s => readMembers member false s rest := by
  have hnext := nextKey_ahead hahead hg hkey (h ++ ':' :: (i ++ (v ++ rest)))
  have hread := hputs state hh hi hv hrest
  rw [readMembers, hnext]
  simp only [bind, Except.bind, hread]
  cases put state m with
  | error e => rfl
  | ok s =>
    simp only [Except.map]
    rw [if_pos]
    simp only [List.length_append, List.length_cons]
    omega

/-- **All members are read**, up to the closing brace: they are put into the state one after the
other, and the first fault ends it. -/
theorem readMembers_layout : ∀ {ms : List ι} {cs : List Char} {first : Bool} {ahead : List Char},
    LayoutMembers (ms.map entry) cs → (∀ m ∈ ms, Puts member entry put m) → Ahead first ahead →
    ∀ (state : σ) (rest : List Char), ∃ gap, Gap gap ∧
      readMembers member first state (ahead ++ (cs ++ '\x7d' :: rest)) =
        (ms.foldlM put state).map fun s => (s, gap ++ '\x7d' :: rest)
  | [], _, _, _, h, _, _, _, _ => nomatch h
  | [m], _, first, ahead, h, hputs, hahead, state, rest => by
    cases h with
    | @one _ g k h i v j hg hkey hh hi hv hj =>
      refine ⟨j, hj, ?_⟩
      simp only [List.append_assoc, List.cons_append]
      rw [readMembers_step (hputs m List.mem_cons_self) hahead hg hkey hh hi hv
        (stops_gap_cons hj (by decide) rest), List.foldlM_cons]
      cases put state m with
      | error e => rfl
      | ok s => exact readMembers_close hj false s rest
    | more _ _ _ _ _ _ hmembers => exact nomatch hmembers
  | m :: next :: ms, _, first, ahead, h, hputs, hahead, state, rest => by
    obtain ⟨hm, hlater⟩ := List.forall_mem_cons.mp hputs
    cases h with
    | @more _ _ g k h i v j cs hg hkey hh hi hv hj hmembers =>
      have hstep := readMembers_step hm hahead hg hkey hh hi hv
        (stops_gap_cons (c := ',') hj (by decide) (cs ++ '\x7d' :: rest)) state
      cases hput : put state m with
      | error e =>
        refine ⟨[], gap_nil, ?_⟩
        simp only [List.append_assoc, List.cons_append]
        rw [hstep, List.foldlM_cons, hput]
        rfl
      | ok s =>
        have hentries : LayoutMembers ((next :: ms).map entry) cs := hmembers
        obtain ⟨gap, hgap, hread⟩ := readMembers_layout hentries hlater (.later hj) s rest
        refine ⟨gap, hgap, ?_⟩
        simp only [List.append_assoc, List.cons_append, List.nil_append] at hread ⊢
        rw [hstep, List.foldlM_cons, hput]
        exact hread

end Objects

end HexadQuery.Json
