/-
# A request is read whatever way it is written

A client may write the members of a request in any order, put blanks between the tokens, leave out
the id or the action, and add members of its own with any values at all.  The bridge reads the same
request (`answerLine_envelope`): every id below 2^64 and every text as action or query comes
through unchanged, because `stringText` is read back by `stringBody`, and a member that nobody
asked for is skipped as a whole.

The members are read one by one into `RequestFields`.  What a run over them preserves is `Awaits`:
what has been read, followed by what the members still to come give, is the request.  Each of the
three lists has one element at most, so no field is ever given twice.  At the start nothing has
been read and all members are to come, in whatever order (`awaits_of_perm`); at the end nothing is
to come, and what has been read is the request.

`handle_line` trims the line first, so blanks of any kind may stand around the object, also those
that JSON would not allow; inside the object only the blanks of JSON may stand.  What is absent is
the default of its field: `0` for the id and `parse` for the action (`default_action`).  The query
has none, so it is always written.

Values of members that nobody asked for are any texts of values, nested ones too, and the keys of
such values do not count as members of the request.
-/
import HexadQuery.Bridge
import HexadQuery.Proofs.JsonLayouts
import HexadQuery.Proofs.Words

namespace HexadQuery.Bridge

open Json

/-! ## 1. Members and their texts

A request as a client writes it, on two levels: a list of members, and the texts of that list.  The
members are a list and not a record, since their order is free. -/

/-- A member of a request: one of its three fields, or a key that nobody asked for with the text of
its value. -/
inductive Entry where
  /-- the number of the request -/
  | id (n : UInt64)
  /-- the entrance it asks for -/
  | action (name : String)
  /-- the text of the query or mutation -/
  | query (text : String)
  /-- any other key, with any value -/
  | other (key : String) (value : List Char)

namespace Entry

/-- The key that the member is written with. -/
def key : Entry → String
  | id _ => "id"
  | action _ => "action"
  | query _ => "query"
  | other key _ => key

/-- The text of the value. -/
def value : Entry → List Char
  | id n => n.toNat.repr.toList
  | action name => (stringText name).toList
  | query text => (stringText text).toList
  | other _ value => value

/-- The parts of a request that a member gives, one function for each. -/
def id? : Entry → Option UInt64
  | id n => some n
  | _ => none

def action? : Entry → Option String
  | action name => some name
  | _ => none

def query? : Entry → Option String
  | query text => some text
  | _ => none

/-- Not a field of a request, with any value. -/
inductive Unknown : Entry → Prop
  | mk {key : String} {value : List Char} : key ∉ ["id", "action", "query"] → IsValue value →
      Unknown (other key value)

/-- The member as a text, with blanks around its key and its value. -/
inductive Writes (entry : Entry) : List Char → Prop
  | mk {g h i j : List Char} : Gap g → Gap h → Gap i → Gap j →
      Writes entry (g ++ ((stringText entry.key).toList ++
        (h ++ ':' :: (i ++ (entry.value ++ j)))))

/-- The members in order with a comma between each two. -/
inductive WriteAll : List Entry → List Char → Prop
  | one {entry : Entry} {cs : List Char} : Writes entry cs → WriteAll [entry] cs
  | more {entry : Entry} {entries : List Entry} {cs ds : List Char} : Writes entry cs →
      WriteAll entries ds → WriteAll (entry :: entries) (cs ++ ',' :: ds)

end Entry

/-- The members that give these fields, without those left out. -/
def fieldEntries (id : Option UInt64) (action : Option String) (query : String) : List Entry :=
  id.toList.map .id ++ action.toList.map .action ++ [.query query]

/-- A text of the object with these members. -/
inductive Envelope (entries : List Entry) : String → Prop
  | mk {cs : List Char} : Entry.WriteAll entries cs →
      Envelope entries (String.ofList ('\x7b' :: (cs ++ ['\x7d'])))

/-! ## 2. One member

What reading a member does to the fields, and that it keeps what is awaited. -/

namespace RequestFields

/-- The fields with one more member read. -/
def put (fields : RequestFields) : Entry → RequestFields
  | .id id => { fields with id := some id }
  | .action name => { fields with action := some name }
  | .query text => { fields with query := some text }
  | .other .. => fields

/-- What has been read and what the members still to come give make up these fields. -/
structure Awaits (fields : RequestFields) (entries : List Entry) (whole : RequestFields) :
    Prop where
  /-- the number has been read or is to come, and not twice -/
  id : fields.id.toList ++ entries.filterMap Entry.id? = whole.id.toList
  action : fields.action.toList ++ entries.filterMap Entry.action? = whole.action.toList
  query : fields.query.toList ++ entries.filterMap Entry.query? = whole.query.toList
  /-- all other members have keys and values that are passed over -/
  unknown : ∀ entry ∈ entries, entry.id? = none → entry.action? = none → entry.query? = none →
    entry.Unknown

/-- A list of one element at most has nothing ahead of its first. -/
theorem toList_append_cons {α : Type} {given whole : Option α} {a : α} {as : List α}
    (h : given.toList ++ a :: as = whole.toList) :
    given = none ∧ (some a).toList ++ as = whole.toList := by
  cases given with
  | none => exact ⟨rfl, h⟩
  | some b =>
    cases whole with
    | none => cases h
    | some c => cases (List.cons.inj h).2

/-- With nothing to come, what has been read is the request. -/
theorem Awaits.nil {fields whole : RequestFields} (h : Awaits fields [] whole) :
    fields = whole := by
  have heq : ∀ {α : Type} {a b : Option α}, a.toList ++ [] = b.toList → a = b := by
    intro α a b hab
    cases a <;> cases b <;> simp_all
  obtain ⟨hid, haction, hquery, -⟩ := h
  cases fields
  cases whole
  simp only [RequestFields.mk.injEq]
  exact ⟨heq hid, heq haction, heq hquery⟩

variable {fields whole : RequestFields} {entry : Entry} {entries : List Entry}

/-- **A member that is awaited is read**, and what is behind it is awaited after that.  A field
that was not set is set by its entry; another key is none of the three. -/
theorem Awaits.step (h : Awaits fields (entry :: entries) whole) :
    Awaits (fields.put entry) entries whole ∧
      ∀ {g i rest : List Char}, Gap g → Gap i → Stops rest →
        member fields entry.key (g ++ ':' :: (i ++ (entry.value ++ rest))) =
          .ok (fields.put entry, rest) := by
  obtain ⟨hid, haction, hquery, hunknown⟩ := h
  have hlater := fun e he => hunknown e (List.mem_cons_of_mem _ he)
  cases entry with
  | id n =>
    obtain ⟨hnone, hid⟩ := toList_append_cons hid
    refine ⟨⟨hid, haction, hquery, hlater⟩, ?_⟩
    intro g i rest hg hi hrest
    have hread := readField_gap "id" hg hnone (readUnsigned_repr hi n hrest)
    rw [member, Entry.key, Entry.value, if_pos rfl, hread]
    rfl
  | action name =>
    obtain ⟨hnone, haction⟩ := toList_append_cons haction
    refine ⟨⟨hid, haction, hquery, hlater⟩, ?_⟩
    intro g i rest hg hi _
    have hread := readField_gap "action" hg hnone
      (readString_quoted hi (quoted_stringText name) "a string" rest)
    rw [member, Entry.key, Entry.value, if_neg (by decide), if_pos rfl, hread]
    rfl
  | query text =>
    obtain ⟨hnone, hquery⟩ := toList_append_cons hquery
    refine ⟨⟨hid, haction, hquery, hlater⟩, ?_⟩
    intro g i rest hg hi _
    have hread := readField_gap "query" hg hnone
      (readString_quoted hi (quoted_stringText text) "a string" rest)
    rw [member, Entry.key, Entry.value, if_neg (by decide), if_neg (by decide), if_pos rfl, hread]
    rfl
  | other key value =>
    refine ⟨⟨hid, haction, hquery, hlater⟩, ?_⟩
    intro g i rest hg hi hrest
    obtain ⟨hkey, hvalue⟩ := hunknown _ List.mem_cons_self rfl rfl rfl
    simp only [List.mem_cons, List.not_mem_nil, or_false, not_or] at hkey
    obtain ⟨hid, haction, hquery⟩ := hkey
    have hread := skipField_gap hg hi hvalue hrest
    rw [member, Entry.key, Entry.value, if_neg hid, if_neg haction, if_neg hquery, hread]
    rfl

/-! ## 3. All members

The run, by induction on the members as they are written. -/

/-- **One member is read**, up to the blanks behind its value. -/
theorem Awaits.readMembers_step (h : Awaits fields (entry :: entries) whole) {first : Bool}
    {ahead cs : List Char} (hahead : Ahead first ahead) (hwrites : entry.Writes cs) :
    ∃ gap, Gap gap ∧ ∀ rest, Stops (gap ++ rest) →
      readMembers member first fields (ahead ++ (cs ++ rest)) =
        readMembers member false (fields.put entry) (gap ++ rest) := by
  obtain @⟨g, h', i, j, hg, hh, hi, hj⟩ := hwrites
  refine ⟨j, hj, ?_⟩
  intro rest hstops
  have hread := h.step.2 hh hi hstops
  have hkey := nextKey_ahead hahead hg (quoted_stringText entry.key)
    (h' ++ ':' :: (i ++ (entry.value ++ (j ++ rest))))
  simp only [List.append_assoc, List.cons_append]
  rw [readMembers, hkey]
  simp only [bind, Except.bind, hread]
  rw [if_pos]
  simp only [List.length_append, List.length_cons]
  omega

/-- **All members are read**, up to the closing brace.  The induction is on the entries; what is
awaited at the end is nothing more. -/
theorem readMembers_writeAll {cs : List Char} (hwrites : Entry.WriteAll entries cs) :
    ∀ {fields : RequestFields} {first : Bool} {ahead : List Char}, Awaits fields entries whole →
      Ahead first ahead → ∀ rest, ∃ gap, Gap gap ∧
        readMembers member first fields (ahead ++ (cs ++ '\x7d' :: rest)) =
          .ok (whole, gap ++ '\x7d' :: rest) := by
  induction hwrites with
  | one hentry =>
    intro fields first ahead hawaits hahead rest
    obtain ⟨gap, hgap, hread⟩ := hawaits.readMembers_step hahead hentry
    refine ⟨gap, hgap, ?_⟩
    rw [hread _ (stops_gap_cons hgap (by decide) rest), readMembers_close hgap,
      hawaits.step.1.nil]
  | more hentry _ ih =>
    intro fields first ahead hawaits hahead rest
    obtain ⟨gap, hgap, hread⟩ := hawaits.readMembers_step hahead hentry
    obtain ⟨last, hlast, hlater⟩ := ih hawaits.step.1 (.later hgap) rest
    refine ⟨last, hlast, ?_⟩
    rw [List.append_assoc, List.cons_append, hread _ (stops_gap_cons hgap (by decide) _)]
    simpa using hlater

end RequestFields

/-! ## 4. Requests

From a line to an answer: trimming, reading, and the id that the response carries. -/

/-- The members of a request in any order are awaited.  A field is given once or not at all, so
the order of the members does not matter to it. -/
theorem awaits_of_perm {id : Option UInt64} {action : Option String} {query : String}
    {others entries : List Entry} (hothers : ∀ entry ∈ others, entry.Unknown)
    (hperm : entries.Perm (fieldEntries id action query ++ others)) :
    RequestFields.Awaits {} entries ⟨id, action, some query⟩ := by
  have heq : ∀ {α : Type} (f : Entry → Option α) (given : Option α),
      (fieldEntries id action query).filterMap f = given.toList →
      (∀ entry ∈ others, f entry = none) → entries.filterMap f = given.toList := by
    intro α f given hfields hnone
    have hp := hperm.filterMap f
    rw [List.filterMap_append, hfields, List.filterMap_eq_nil_iff.mpr hnone, List.append_nil] at hp
    cases given with
    | none => exact List.perm_nil.mp hp
    | some a => exact List.perm_singleton.mp hp
  refine ⟨heq _ id ?_ ?_, heq _ action ?_ ?_, heq _ (some query) ?_ ?_, ?_⟩
  · cases id <;> cases action <;> rfl
  · intro entry hentry
    cases hothers entry hentry
    rfl
  · cases id <;> cases action <;> rfl
  · intro entry hentry
    cases hothers entry hentry
    rfl
  · cases id <;> cases action <;> rfl
  · intro entry hentry
    cases hothers entry hentry
    rfl
  · intro entry hentry hid haction hquery
    rcases List.mem_append.mp (hperm.mem_iff.mp hentry) with hfield | hother
    · cases entry with
      | id => cases hid
      | action => cases haction
      | query => cases hquery
      | other => simp [fieldEntries] at hfield
    · exact hothers entry hother

/-- The text of the object alone is read as the request. -/
theorem Envelope.ofJson {entries : List Entry} {text : String} (h : Envelope entries text)
    {fields : RequestFields} {query : String} (hawaits : RequestFields.Awaits {} entries fields)
    (hquery : fields.query = some query) : Request.ofJson text = .ok (fields.request query) := by
  obtain @⟨cs, hwrites⟩ := h
  obtain ⟨gap, hgap, hread⟩ := RequestFields.readMembers_writeAll hwrites hawaits .first []
  have hrecord : readRecord "struct Request" RequestFields.ofObject RequestFields.ofArray
      ('\x7b' :: (cs ++ ['\x7d'])) = RequestFields.ofObject (cs ++ ['\x7d']) := by
    simp only [readRecord, skipSpace_cons (c := '\x7b') rfl]
  have hobject : RequestFields.ofObject (cs ++ ['\x7d']) = .ok (fields.request query, []) := by
    rw [List.nil_append] at hread
    simp only [RequestFields.ofObject, hread, bind, Except.bind, hquery, closeObject_gap hgap]
    rfl
  rw [Request.ofJson, readText, String.toList_ofList, hrecord, hobject]
  rfl

/-- A text of an object has no blanks around it, so they are cut from around it. -/
theorem Envelope.trim {entries : List Entry} {text front back : String} (h : Envelope entries text)
    (hfront : ∀ c ∈ front.toList, Text.isBlank c = true)
    (hback : ∀ c ∈ back.toList, Text.isBlank c = true) :
    Text.trim (front ++ text ++ back) = text := by
  obtain @⟨cs, -⟩ := h
  rw [Text.trim, String.toList_append, String.toList_append, String.toList_ofList,
    Text.trimChars_append_blanks (by simp) _ _ hfront hback]
  · intro c hc
    obtain rfl : '\x7b' = c := by simpa using hc
    decide
  · intro c hc
    obtain rfl : '\x7d' = c := by simpa [List.getLast?_cons] using hc
    decide

/-- Every response to a request carries its id. -/
theorem id_answer (parser : Parser) (request : Request) :
    (answer parser request).response.id = request.id := by
  rw [answer]
  split
  · rfl
  · dsimp only
    split
    · rfl
    · rfl

/-- **Whatever way a request is written, it is answered as that request**, and under its id.
Reading the line gives the request back, and the answer is made from the request. -/
theorem answerLine_envelope (parser : Parser) (id : Option UInt64) (action : Option String)
    (query : String) {others entries : List Entry} {text front back : String}
    (hothers : ∀ entry ∈ others, entry.Unknown)
    (hperm : entries.Perm (fieldEntries id action query ++ others))
    (htext : Envelope entries text) (hfront : ∀ c ∈ front.toList, Text.isBlank c = true)
    (hback : ∀ c ∈ back.toList, Text.isBlank c = true) :
    answerLine parser (front ++ text ++ back) =
        some (answer parser ⟨id.getD 0, action.getD "parse", query⟩) ∧
      (answer parser ⟨id.getD 0, action.getD "parse", query⟩).response.id = id.getD 0 := by
  have hread := htext.ofJson (awaits_of_perm hothers hperm) rfl
  have hne : text ≠ "" := by
    obtain ⟨-⟩ := htext
    rw [ne_eq, ← String.toList_eq_nil_iff, String.toList_ofList]
    exact List.cons_ne_nil _ _
  refine ⟨?_, id_answer parser _⟩
  rw [answerLine]
  simp only [htext.trim hfront hback, hne, if_false, hread]
  rfl

/-- The query comes first, the largest id last and the action not at all; between them stands a
member whose value looks like a request. -/
theorem answerLine_shuffled :
    let request : Request := ⟨18446744073709551615, "parse", "DELETE \"h\""⟩
    answerLine Config.lenient
        (" " ++ ("\x7b\"query\" : \"DELETE \\\"h\\\"\",\"was\":\x7b\"id\":1\x7d," ++
          "\"id\":18446744073709551615\x7d") ++ "\r") = some (answer Config.lenient request) ∧
    (answer Config.lenient request).response.id = 18446744073709551615 := by
  have hone : IsValue ['1'] := .number (isNumber_repr 1)
  have hbody : IsBody ['i', 'd'] := .plain (by decide) (by decide) (by decide)
    (.plain (by decide) (by decide) (by decide) .nil)
  have hmember : IsMembers ['"', 'i', 'd', '"', ':', '1'] :=
    .one gap_nil hbody gap_nil gap_nil hone gap_nil
  have hothers : ∀ entry ∈ [Entry.other "was" "\x7b\"id\":1\x7d".toList], entry.Unknown := by
    simp only [List.mem_singleton, forall_eq]
    exact .mk (by decide) (.object hmember)
  have hspace : Gap [' '] := by decide
  have hwrites : Entry.WriteAll
      [.query "DELETE \"h\"", .other "was" "\x7b\"id\":1\x7d".toList, .id 18446744073709551615] _ :=
    .more (.mk gap_nil hspace hspace gap_nil) (.more (.mk gap_nil gap_nil gap_nil gap_nil)
      (.one (.mk gap_nil gap_nil gap_nil gap_nil)))
  have hperm : [Entry.query "DELETE \"h\"", .other "was" "\x7b\"id\":1\x7d".toList,
      .id 18446744073709551615].Perm
        (fieldEntries (some 18446744073709551615) none "DELETE \"h\"" ++
          [.other "was" "\x7b\"id\":1\x7d".toList]) :=
    List.perm_append_singleton _ [_, _]
  exact answerLine_envelope Config.lenient (some 18446744073709551615) none "DELETE \"h\""
    hothers hperm (.mk hwrites) (by simp [Text.isBlank]) (by simp [Text.isBlank])

end HexadQuery.Bridge
