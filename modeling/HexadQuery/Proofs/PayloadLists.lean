/-
# Lists of payloads

The payloads of an INSERT are read one after the other, and the comma behind one can be in three
places: at the end of the word that closes the group, in a word of its own, or at the front of the
word of the next payload.  Each of these is looked for; the first by `modality_payload`, the other
two by `match_leading_comma`.  There is a fourth, where no blank is on either side: then the
closing parenthesis, the comma and the name behind it are in one word, and what the group leaves of
that word is neither empty nor a comma.  The list is refused, and the refusal expects a comma where
one is.

`parseMutation_payloads` says both, for lists of every length: with a blank at each comma, on
either side, the payloads are read whatever the blanks are; and with none at one of them the whole
text is refused.

What a group takes is decided by whole words, so the argument is about the words of a text that has
parentheses around it.  `exists_inside` says what they spell: the same words inside, and behind the
closing parenthesis what the words behind it spell.  Texts with the same words nest alike
(`nestAll_eq_of_charWords`, `Balanced.of_charWords`), so balance is not lost with the blanks.

The list is then followed from its end.  One payload with its separator is read up to the next
(`Rule.reads_separated`), and the rest is a list again; a payload whose separator has no space is
refused, and a refusal of a round is one of the chain (`Rule.Refuses.chain`,
`Rule.Reads.chain_refuses`).  For the refusal the group has to be known to end where it does: the
payloads behind it open and close their own parentheses, so the depth is back at zero at the end of
the text at the latest, and the first place where it is zero is the parenthesis that is meant.
-/
import HexadQuery.Proofs.MutationRoundTrip

namespace HexadQuery

/-! ## 1. Texts between parentheses

The words of `(text)tail`.  Blanks inside may be any, and joining makes them single spaces; those
next to a parenthesis stay or go with the word they are at, and trimming takes them. -/

namespace Text

/-- The words of a text ahead of a closing parenthesis, joined by single spaces: they spell a text
with the same words, the parenthesis and what is behind it. -/
theorem exists_ahead_of_close (text : List Char) : ∃ body : List Char,
    charWords body = charWords text ∧ ∀ tail : List Char,
      (∀ c, tail.head? = some c → isBlank c = false) →
        [' '].intercalate (charWords (text ++ ')' :: tail)) =
          body ++ ')' :: [' '].intercalate (charWords tail) := by
  obtain ⟨front, last, hlast, happend⟩ := exists_charWords_append text
  have hwords : charWords text = front ++ charWords last := by
    have h := happend []
    rwa [List.append_nil, List.append_nil] at h
  have hfront : ∀ w ∈ front, IsWord w := by
    intro w hw
    have hmem : w ∈ charWords text := by
      rw [hwords]
      exact List.mem_append_left _ hw
    exact isWord_of_mem_charWords hmem
  -- the words but for the last, each with a space, and the last as far as it goes: the parenthesis
  -- touches it, or is a word of its own
  refine ⟨front.flatMap (· ++ [' ']) ++ last, ?_, fun tail htail => ?_⟩
  · rw [hwords]
    clear hwords happend
    induction front with
    | nil => rfl
    | cons w front ih =>
      rw [List.flatMap_cons, List.append_assoc, List.append_assoc, List.singleton_append,
        charWords_append_blank isBlank_space, (hfront w List.mem_cons_self).charWords,
        ih fun v hv => hfront v (List.mem_cons_of_mem _ hv)]
      rfl
  · have hclose : ∀ k ∈ last ++ [')'], isBlank k = false := by
      intro k hk
      rcases List.mem_append.mp hk with hk | hk
      · exact hlast k hk
      · exact (by decide : IsWord [')']).solid k hk
    have hlater := intercalate_charWords_append hclose htail
    rw [List.append_assoc, List.singleton_append] at hlater
    have hne : charWords (last ++ ')' :: tail) ≠ [] := by
      intro hnil
      rw [hnil] at hlater
      simp at hlater
    rw [happend, intercalate_append_words front hne, hlater]
    simp

/-- **The words of a text between parentheses.**  Joined by single spaces they spell a text with the
same words, between the same parentheses, and then what is behind. -/
theorem exists_inside (text : List Char) : ∃ inside : List Char,
    charWords inside = charWords text ∧ ∀ tail : List Char,
      (∀ c, tail.head? = some c → isBlank c = false) →
        [' '].intercalate (charWords ('(' :: (text ++ ')' :: tail))) =
          '(' :: (inside ++ ')' :: [' '].intercalate (charWords tail)) := by
  have hopen : isBlank '(' = false := by decide
  obtain ⟨body, hbody, hclose⟩ := exists_ahead_of_close text
  by_cases hhead : ∀ c, text.head? = some c → isBlank c = false
  · refine ⟨body, hbody, fun tail htail => ?_⟩
    have htouch : ∀ c, (text ++ ')' :: tail).head? = some c → isBlank c = false := by
      intro c hc
      cases text with
      | nil =>
        obtain rfl : ')' = c := by simpa using hc
        decide
      | cons d ds => exact hhead c hc
    have hword : ∀ k ∈ ['('], isBlank k = false := (by decide : IsWord ['(']).solid
    have hjoined := intercalate_charWords_append hword htouch
    rw [hclose tail htail] at hjoined
    exact hjoined
  · -- a blank at the front keeps the parenthesis in a word of its own
    push Not at hhead
    obtain ⟨c, hc, hblank⟩ := hhead
    rw [ne_eq, Bool.not_eq_false] at hblank
    refine ⟨' ' :: body, by rw [charWords_cons_blank isBlank_space, hbody], fun tail htail => ?_⟩
    have hapart : ∀ d, (text ++ ')' :: tail).head? = some d → isBlank d = true := by
      intro d hd
      rw [List.head?_append, hc] at hd
      obtain rfl : c = d := by simpa using hd
      exact hblank
    have hne : charWords (text ++ ')' :: tail) ≠ [] := by
      intro hnil
      have hjoined := hclose tail htail
      rw [hnil] at hjoined
      simp at hjoined
    rw [charWords_cons_apart hopen hapart, List.intercalate_cons_of_ne_nil hne, hclose tail htail]
    simp

end Text

/-- Texts with the same words have the same characters besides blanks. -/
theorem filter_eq_of_charWords {as bs : List Char} (h : Text.charWords as = Text.charWords bs) :
    as.filter (fun c => !Text.isBlank c) = bs.filter fun c => !Text.isBlank c := by
  rw [← Text.flatten_charWords, ← Text.flatten_charWords, h]

/-- Blanks do not change the depth. -/
theorem nestAll_filter (cs : List Char) (depth : Int) :
    nestAll depth (cs.filter fun c => !Text.isBlank c) = nestAll depth cs := by
  induction cs generalizing depth with
  | nil => rfl
  | cons c cs ih =>
    cases hc : Text.isBlank c with
    | false => rw [List.filter_cons_of_pos (by simp [hc]), nestAll_cons, nestAll_cons, ih]
    | true =>
      have hnest : nestAll depth [c] = depth := nestAll_blank (by simpa using hc) depth
      rw [nestAll_cons, nestAll_nil] at hnest
      rw [List.filter_cons_of_neg (by simp [hc]), nestAll_cons, hnest, ih]

/-- Texts with the same words are equally deep at their ends. -/
theorem nestAll_eq_of_charWords {as bs : List Char} (h : Text.charWords as = Text.charWords bs)
    (depth : Int) : nestAll depth as = nestAll depth bs := by
  rw [← nestAll_filter, filter_eq_of_charWords h, nestAll_filter]

/-- **Balance is a matter of words.**  A blank is no parenthesis, so adding and leaving out
blanks moves no depth. -/
theorem Balanced.of_charWords {as bs : List Char} (h : Text.charWords as = Text.charWords bs)
    (ha : Balanced as) : Balanced bs := by
  refine ⟨(nestAll_eq_of_charWords h 0).symm.trans ha.closed, fun ds hds => ?_⟩
  obtain ⟨more, hmore⟩ := hds.filter fun c => !Text.isBlank c
  rw [← filter_eq_of_charWords h] at hmore
  obtain ⟨front, back, rfl, hfront, -⟩ := List.filter_eq_append_iff.mp hmore.symm
  rw [← nestAll_filter, ← hfront, nestAll_filter]
  exact ha.nonneg front (List.prefix_append front back)

/-! ## 2. The text of a payload

Any spelling of a payload, with the space that may be ahead of the parenthesis and any balanced
text between the two.  The name is an identifier and no clause keyword, as `modality_payload` asks
for. -/

/-- A payload as it is written: the name of its modality, the text between the parentheses, and
whether a space is ahead of them. -/
structure PayloadText where
  /-- the modality, in any casing -/
  name : String
  /-- what stands between the parentheses, with any blanks -/
  text : String
  /-- whether a space is ahead of the opening parenthesis -/
  apart : Bool
  identifier : isIdentifier name = true
  /-- by itself the name must not end the clause -/
  operand : Text.isAnyOf name Rule.clauseKeywords = false
  /-- so the group ends where the payload does -/
  balanced : Balanced text.toList

namespace PayloadText

variable (p : PayloadText)

def spell : String := p.name ++ (if p.apart then " " else "") ++ ("(" ++ p.text ++ ")")

/-- What it says: the modality in its canonical form, and the words of the text. -/
def payload : Payload := ⟨Modality.ofName p.name, " ".intercalate (Text.words p.text)⟩

/-- The words up to the one with the opening parenthesis, which has more behind it. -/
def headWords (opening : List Char) : List String :=
  if p.apart then [p.name, String.ofList opening] else [p.name ++ String.ofList opening]

/-- The name of a modality has no blank. -/
theorem isWord_name : Text.IsWord p.name.toList := by
  refine ⟨toList_ne_nil_of_isIdentifier p.identifier, fun c hc => ?_⟩
  have hfield := isFieldChar_of_isNameChar c (isNameChar_of_isIdentifier p.identifier c hc)
  simp only [Piece.isFieldChar, Bool.and_eq_true, Bool.not_eq_true'] at hfield
  exact hfield.2

/-- And no parenthesis, so the group starts where it should. -/
theorem not_paren_mem_name : '(' ∉ p.name.toList := fun hmem =>
  absurd (isNameChar_of_isIdentifier p.identifier '(' hmem) (by decide)

/-- **The words of a payload and of what follows it.**  Behind the parentheses they spell what the
words of the rest do. -/
theorem exists_words : ∃ inside : List Char, Balanced inside ∧
    String.ofList (Text.trimChars inside) = p.payload.text ∧
    ∀ tail : String, (∀ c, tail.toList.head? = some c → Text.isBlank c = false) →
      ∃ opening more, Text.words (p.spell ++ tail) = p.headWords opening ++ more ∧
        opening.head? = some '(' ∧ spelled opening more =
          '(' :: inside ++ ')' :: [' '].intercalate (Text.charWords tail.toList) := by
  have hopen : Text.isBlank '(' = false := by decide
  obtain ⟨inside, hwords, hinside⟩ := Text.exists_inside p.text.toList
  refine ⟨inside, p.balanced.of_charWords hwords.symm, ?_, fun tail htail => ?_⟩
  · -- joined words have single spaces, and so has what is within them
    have hspaced : Text.Spaced inside := by
      have hnormal : Text.Normal ([' '].intercalate
          (Text.charWords ('(' :: (p.text.toList ++ ')' :: [])))) :=
        Text.normal_intercalate fun _ => Text.isWord_of_mem_charWords
      rw [hinside [] (by simp)] at hnormal
      exact hnormal.toSpaced.within ⟨['('], ')' :: [' '].intercalate (Text.charWords []), by simp⟩
    rw [hspaced.trim_eq, hwords, payload, ← String.toList_inj, String.toList_ofList,
      String.toList_intercalate, Text.words_eq]
    simp [Function.comp_def]
  · obtain ⟨opening, more, hcons⟩ := List.exists_cons_of_ne_nil
      (Text.charWords_ne_nil hopen (p.text.toList ++ ')' :: tail.toList))
    have hjoined := hinside tail.toList htail
    rw [hcons] at hjoined
    refine ⟨opening, more.map String.ofList, ?_, ?_, ?_⟩
    · rw [Text.words_eq, headWords]
      cases hapart : p.apart with
      | true =>
        have htext : (p.spell ++ tail).toList =
            p.name.toList ++ ' ' :: '(' :: (p.text.toList ++ ')' :: tail.toList) := by
          simp [spell, hapart, String.toList_append]
        rw [htext, Text.charWords_append_blank Text.isBlank_space, p.isWord_name.charWords, hcons]
        simp
      | false =>
        have htext : (p.spell ++ tail).toList =
            p.name.toList ++ '(' :: (p.text.toList ++ ')' :: tail.toList) := by
          simp [spell, hapart, String.toList_append]
        rw [htext, Text.charWords_append_touching p.isWord_name.solid hopen hcons]
        simp
    · obtain ⟨c, cs, rfl⟩ := List.exists_cons_of_ne_nil
        (Text.isWord_of_mem_charWords (hcons ▸ List.mem_cons_self)).ne_nil
      rw [List.intercalate_cons_cons_left] at hjoined
      rw [List.head_eq_of_cons_eq hjoined]
      rfl
    · have hspelled := spelled_eq_intercalate (String.ofList opening) (more.map String.ofList)
      simpa [hjoined, Function.comp_def] using hspelled

end PayloadText

/-! ## 3. One payload

The four places of a comma, for one payload.  Two of them are read by the rule of a payload with
the comma in its last word, or behind it; the third and the fourth differ in where the blank is. -/

namespace Rule

variable {β : Type}

/-- A word of a comma is taken. -/
theorem reads_skipComma_word (rest : List String) :
    Reads skipComma ("," :: rest) (· = true) rest := by
  intro cursor hc
  obtain ⟨t, ts, htokens, htext, hrest⟩ := Cursor.tokens_of_words_cons hc
  refine ⟨true, { cursor with tokens := ts }, ?_, rfl, hrest⟩
  unfold skipComma
  rw [htokens]
  simp [htext, Outcome.ok]

/-- A comma is taken off the front of a word. -/
theorem reads_skipComma_front {word : String} (hne : word.toList ≠ []) (rest : List String) :
    Reads skipComma (("," ++ word) :: rest) (· = true) (word :: rest) := by
  intro cursor hc
  obtain ⟨t, ts, htokens, htext, hrest⟩ := Cursor.tokens_of_words_cons hc
  obtain ⟨c, cs, hword⟩ := List.exists_cons_of_ne_nil hne
  have hchars : t.text.toList = ',' :: c :: cs := by
    rw [htext, String.toList_append, hword]
    rfl
  refine ⟨true, ⟨{ t with text := String.ofList (c :: cs), offset := t.offset + 1 } :: ts,
    cursor.count⟩, ?_, rfl, ?_⟩
  · unfold skipComma
    rw [htokens]
    simp only [hchars, Outcome.ok]
  · rw [Cursor.words_mk, List.map_cons, hrest, ← hword, String.ofList_toList]

/-- **The name of a payload and the parenthesis behind it are found in either spelling.**  In one
word it is found by its parenthesis, in two by the name alone, which is an operand; what is done
with them after that is left open. -/
theorem payload_head (p : PayloadText) {opening : List Char} (hopen : opening.head? = some '(')
    {words : List String} {cursor : Cursor} (hc : cursor.words = p.headWords opening ++ words) :
    ∃ (head : Token) (call : CallHead) (next : Cursor), call.name = p.name ∧
      call.opening = opening ∧ next.words = words ∧ ∀ more : Token → CallHead → Rule β,
        ((operand "MODALITY(payload)" >>= fun head =>
            callHead head "(payload)" >>= more head) cursor).result =
          (more head call next).result := by
  obtain ⟨word, rest, hwords, hoperand, hcall⟩ : ∃ word rest,
      p.headWords opening ++ words = word :: rest ∧
      Text.isAnyOf word clauseKeywords = false ∧ ∀ head : Token, head.text = word →
        Reads (callHead head "(payload)") rest
          (fun call => call.name = p.name ∧ call.opening = opening) words := by
    unfold PayloadText.headWords
    split
    · refine ⟨_, _, rfl, p.operand, fun head hhead => ?_⟩
      have hname : '(' ∉ head.text.toList := by
        rw [hhead]
        exact p.not_paren_mem_name
      have hread := reads_callHead_apart hname (by rw [String.toList_ofList]; exact hopen)
        "(payload)" words
      rw [hhead, String.toList_ofList] at hread
      exact hread
    · refine ⟨_, _, rfl, ?_, fun head hhead => ?_⟩
      · have hmem : '(' ∈ (p.name ++ String.ofList opening).toList := by
          rw [String.toList_append, String.toList_ofList]
          exact List.mem_append_right _ (List.mem_of_mem_head? hopen)
        exact Text.isAnyOf_of_not_alpha hmem (by decide) (by decide)
      · have htext : head.text.toList = p.name.toList ++ opening := by
          rw [hhead, String.toList_append, String.toList_ofList]
        have hread := reads_callHead_attached htext p.not_paren_mem_name hopen "(payload)" words
        rw [String.ofList_toList] at hread
        exact hread
  rw [hwords] at hc
  obtain ⟨head, mid, hhead, htext, hmid⟩ := reads_operand hoperand rest cursor hc
  obtain ⟨call, next, hread, ⟨hname, hopening⟩, hnext⟩ := hcall head htext mid hmid
  refine ⟨head, call, next, hname, hopening, hnext, fun more => ?_⟩
  rw [bind_result, hhead]
  simp only [Except.bind]
  rw [bind_result, hread]
  rfl

/-- What is read behind the head of a payload is read behind its words. -/
theorem Reads.payloadHead {p : PayloadText} {opening : List Char}
    (hopen : opening.head? = some '(') {words after : List String} {holds : β → Prop}
    {more : Token → CallHead → Rule β}
    (h : ∀ head call, call.name = p.name → call.opening = opening →
      Reads (more head call) words holds after) :
    Reads (operand "MODALITY(payload)" >>= fun head => callHead head "(payload)" >>= more head)
      (p.headWords opening ++ words) holds after := by
  intro cursor hc
  obtain ⟨head, call, next, hname, hopening, hnext, hstep⟩ := payload_head p hopen hc
  rw [hstep]
  exact h head call hname hopening next hnext

/-- What is refused behind the head of a payload is refused behind its words. -/
theorem Refuses.payloadHead {p : PayloadText} {opening : List Char}
    (hopen : opening.head? = some '(') {words : List String} {holds : ParseError → Prop}
    {more : Token → CallHead → Rule β}
    (h : ∀ head call, call.name = p.name → call.opening = opening →
      Refuses (more head call) words holds) :
    Refuses (operand "MODALITY(payload)" >>= fun head => callHead head "(payload)" >>= more head)
      (p.headWords opening ++ words) holds := by
  intro cursor hc
  obtain ⟨head, call, next, hname, hopening, hnext, hstep⟩ := payload_head p hopen hc
  rw [hstep]
  exact h head call hname hopening next hnext

/-- **A payload is read, with the comma behind it.**  The comma ends the last word, or is looked for
in the next. -/
theorem reads_payloadText (p : PayloadText) {tail : String} {rest after : List String}
    {found : Bool} (h : tail = "," ∧ found = true ∧ after = rest ∨
      tail = "" ∧ Reads skipComma rest (· = found) after) :
    Reads payload (Text.words (p.spell ++ tail) ++ rest) (· = (p.payload, found)) after := by
  have htail : ∀ c ∈ tail.toList, Text.isBlank c = false ∧ c ≠ '(' := by
    rcases h with ⟨rfl, -⟩ | ⟨rfl, -⟩
    · intro c hc
      obtain rfl : c = ',' := by simpa using hc
      decide
    · simp
  have hsolid : ∀ c ∈ tail.toList, Text.isBlank c = false := fun c hc => (htail c hc).1
  obtain ⟨inside, hin, htext, hwords⟩ := p.exists_words
  obtain ⟨opening, more, hsplit, hopen, hspelled⟩ :=
    hwords tail fun c hc => hsolid c (List.mem_of_mem_head? hc)
  have hjoined : [' '].intercalate (Text.charWords tail.toList) = tail.toList := by
    rcases h with ⟨rfl, -⟩ | ⟨rfl, -⟩
    · decide
    · rfl
  rw [hjoined] at hspelled
  rw [hsplit, List.append_assoc]
  refine Reads.payloadHead hopen fun head call hname hopening => ?_
  refine Reads.guard (by simp [hname, p.identifier]) ?_
  rw [hopening]
  refine Reads.bind (reads_group hspelled hin hsolid (fun hmem => (htail '(' hmem).2 rfl) rest) ?_
  rintro _ rfl
  rw [hname, htext, String.ofList_toList]
  rcases h with ⟨rfl, rfl, rfl⟩ | ⟨rfl, hskip⟩
  · rw [if_pos rfl]
    exact reads_pure (p.payload, true) _
  · simp only [ne_eq, not_true, if_false, (by decide : ¬ "" = ",")]
    refine Reads.bind hskip ?_
    rintro _ rfl
    exact reads_pure (p.payload, _) after

/-- The refusal of a list with a comma that no blank is at: one is expected, and one is found. -/
def CommaRefused (error : ParseError) : Prop :=
  ∃ found position, error = .unexpectedToken afterPayload found position ∧
    found.toList.head? = some ','

/-- **A group leaves behind what touches its closing parenthesis.**  Whole words are taken, so a
space or nothing is behind them, and the group has only one place to close. -/
theorem exists_group_trailing {opening inside later : List Char} {c : Char} {cursor : Cursor}
    (hopen : opening.head? = some '(') (hin : Balanced inside) (hc : Text.isBlank c = false)
    (htext : spelled opening cursor.words = '(' :: inside ++ ')' :: ',' :: c :: later)
    (hclosed : nestAll 0 (spelled opening cursor.words) ≤ 0) :
    ∃ content rest trailing, (group opening cursor).result = .ok (content, rest) ∧
      content.trailing.toList = ',' :: c :: trailing := by
  obtain ⟨content, rest, hgroup⟩ := exists_group hclosed
  obtain ⟨taken, inside', after, htaken, htext', hin', hcontent⟩ := group_eq_ok hopen hgroup
  -- both cuts are behind the parenthesis that closes the first one, so what is behind it is the
  -- same
  have hafter : after ++ spelled [] rest.words = ',' :: c :: later := by
    have hwhole : '(' :: (inside ++ ')' :: ',' :: c :: later) =
        '(' :: (inside' ++ ')' :: (after ++ spelled [] rest.words)) := by
      rw [← List.cons_append, ← htext, htaken, spelled_append, htext']
      simp [spelled]
    have hcut := Group.cut_of_balanced hin (',' :: c :: later)
    rw [List.tail_eq_of_cons_eq hwhole, Group.cut_of_balanced hin'] at hcut
    exact (Prod.mk.inj hcut).2
  have hspace : ∀ {d : Char} {ds : List Char}, Text.isBlank d = false →
      spelled [] rest.words ≠ d :: ds := by
    intro d ds hd heq
    cases hrest : rest.words with
    | nil => simp [hrest] at heq
    | cons word words =>
      rw [hrest, spelled_cons] at heq
      obtain rfl : ' ' = d := (List.cons.inj heq).1
      exact absurd Text.isBlank_space (by simp [hd])
  have hcomma : Text.isBlank ',' = false := by decide
  -- neither the comma nor what touches it begins a word that was left, since a space is ahead of
  -- those
  obtain ⟨more, rfl⟩ : ∃ more, after = ',' :: c :: more := by
    cases after with
    | nil => exact absurd hafter (hspace hcomma)
    | cons a after =>
      obtain ⟨rfl, hbehind⟩ := List.cons.inj hafter
      cases after with
      | nil => exact absurd hbehind (hspace hc)
      | cons b more =>
        obtain ⟨rfl, -⟩ := List.cons.inj hbehind
        exact ⟨more, rfl⟩
  obtain ⟨trailing, htrailing⟩ := Text.exists_trimChars_cons hcomma hc more
  exact ⟨content, rest, trailing, hgroup, by rw [hcontent, String.toList_ofList, htrailing]⟩

/-- **A payload is refused if a comma and a further character touch it**, where the rest closes
its parentheses.  The group takes whole words, the one with the comma too, and its trailing text
is neither empty nor a comma. -/
theorem refuses_payloadText (p : PayloadText) {tail : String} {c : Char} {cs : List Char}
    (htail : tail.toList = ',' :: c :: cs) (hc : Text.isBlank c = false)
    (hdepth : nestAll 0 tail.toList = 0) :
    Refuses payload (Text.words (p.spell ++ tail)) CommaRefused := by
  obtain ⟨inside, hin, -, hwords⟩ := p.exists_words
  obtain ⟨opening, more, hsplit, hopen, hspelled⟩ := hwords tail fun d hd => by
    obtain rfl : ',' = d := by simpa [htail] using hd
    decide
  have hclosed : nestAll 0 (spelled opening more) ≤ 0 := by
    have hjoined : nestAll 0 ([' '].intercalate (Text.charWords tail.toList)) = 0 := by
      rw [nestAll_eq_of_charWords (Text.charWords_intercalate fun _ =>
        Text.isWord_of_mem_charWords), hdepth]
    rw [hspelled, List.cons_append, nestAll_cons, nestAll_append, nest_open,
      nestAll_eq_add inside, hin.closed, nestAll_cons, nest_close, nestAll_eq_add, hjoined]
    decide
  obtain ⟨later, hlater⟩ : ∃ later,
      [' '].intercalate (Text.charWords tail.toList) = ',' :: c :: later := by
    have htouch : ∀ d, (c :: cs).head? = some d → Text.isBlank d = false := by simp [hc]
    obtain ⟨later, hlater⟩ := List.head?_eq_some_iff.mp (Text.head?_intercalate_charWords hc cs)
    refine ⟨later, ?_⟩
    rw [htail, ← hlater]
    exact Text.intercalate_charWords_append (by decide : Text.IsWord [',']).solid htouch
  rw [hlater] at hspelled
  rw [hsplit]
  refine Refuses.payloadHead hopen fun head call hname hopening => ?_
  rw [hopening, if_neg (by simp [hname, p.identifier])]
  rintro cursor rfl
  obtain ⟨content, rest, trailing, hgroup, htrailing⟩ :=
    exists_group_trailing hopen hin hc hspelled hclosed
  have hcomma : content.trailing ≠ "," := by
    intro h
    simp [h] at htrailing
  have hempty : content.trailing ≠ "" := by
    intro h
    simp [h] at htrailing
  refine ⟨.unexpectedToken afterPayload content.trailing (rest.position - 1), ?_,
    content.trailing, rest.position - 1, rfl, by rw [htrailing]; rfl⟩
  rw [bind_result, hgroup]
  simp only [Except.bind]
  rw [if_neg hcomma, if_pos hempty]
  rfl

/-- A chain refuses with its first round. -/
theorem Refuses.chain {α : Type} {step : Rule (α × Bool)} {before : List String}
    {holds : ParseError → Prop} (h : Refuses step before holds) :
    Refuses (Rule.chain step) before holds := by
  intro cursor hc
  obtain ⟨error, herror, hholds⟩ := h cursor hc
  refine ⟨error, ?_, hholds⟩
  rw [Rule.chain, herror]

/-- A chain refuses with the rounds after a round that was read. -/
theorem Reads.chain_refuses {α : Type} {step : Rule (α × Bool)} {before mid : List String} {a : α}
    {holds : ParseError → Prop} (h : Reads step before (· = (a, true)) mid)
    (hlt : mid.length < before.length) (h' : Refuses (Rule.chain step) mid holds) :
    Refuses (Rule.chain step) before holds := by
  intro cursor hc
  obtain ⟨rest, hok, hrest⟩ := h.result hc
  obtain ⟨error, herror, hholds⟩ := h' rest hrest
  have hlen : rest.tokens.length < cursor.tokens.length := by
    rw [← hc, ← hrest] at hlt
    simpa [Cursor.words] using hlt
  refine ⟨error, ?_, hholds⟩
  rw [Rule.chain, hok]
  simp [hlen, herror, Except.map]

end Rule

/-! ## 4. Lists

A list as a payload and further ones, each with the separator ahead of it, so that its recursion is
that of the chain. -/

/-- A comma between two payloads, with or without a space on each side. -/
structure Separator where
  /-- whether a space is ahead of the comma -/
  ahead : Bool
  /-- whether one is behind it -/
  behind : Bool

namespace Separator

def spell (sep : Separator) : String :=
  (if sep.ahead then " " else "") ++ "," ++ if sep.behind then " " else ""

/-- There is a space on one side at least. -/
def Loose (sep : Separator) : Prop := sep.ahead = true ∨ sep.behind = true

instance (sep : Separator) : Decidable sep.Loose := inferInstanceAs (Decidable (_ ∨ _))

end Separator

/-- The text of a list: a payload, and further ones with what separates them. -/
def payloadList : PayloadText → List (Separator × PayloadText) → String
  | p, [] => p.spell
  | p, (sep, q) :: more => p.spell ++ sep.spell ++ payloadList q more

/-- What a list says. -/
def payloadsOf (first : PayloadText) (more : List (Separator × PayloadText)) : List Payload :=
  first.payload :: more.map fun item => item.2.payload

/-- A list starts with the name of its first payload. -/
theorem exists_toList_payloadList (p : PayloadText) (more : List (Separator × PayloadText)) :
    ∃ c cs, (payloadList p more).toList = c :: cs ∧ Text.isBlank c = false := by
  obtain ⟨c, cs, hname⟩ := List.exists_cons_of_ne_nil p.isWord_name.ne_nil
  have hsolid : Text.isBlank c = false := p.isWord_name.solid c (by rw [hname]; simp)
  cases more with
  | nil => exact ⟨c, _, by simp [payloadList, PayloadText.spell, hname]; rfl, hsolid⟩
  | cons item more => exact ⟨c, _, by simp [payloadList, PayloadText.spell, hname]; rfl, hsolid⟩

/-- The parentheses of a payload close. -/
theorem PayloadText.nestAll_spell (p : PayloadText) : nestAll 0 p.spell.toList = 0 := by
  have hname : nestAll 0 p.name.toList = 0 := by
    have hchar := isNameChar_of_isIdentifier p.identifier
    exact nestAll_eq_self _ 0 (fun hmem => absurd (hchar _ hmem) (by decide))
      fun hmem => absurd (hchar _ hmem) (by decide)
  have hgap : nestAll 0 (if p.apart then " " else "").toList = 0 := by
    cases p.apart <;> decide
  have htext : nestAll 0 ("(" ++ p.text ++ ")").toList = 0 := by
    rw [String.toList_append, String.toList_append, nestAll_append, nestAll_append,
      nestAll_eq_add p.text.toList, p.balanced.closed]
    decide
  rw [spell, String.toList_append, String.toList_append, nestAll_append, nestAll_append,
    hname, hgap, htext]

/-- And so do those of a list. -/
theorem nestAll_payloadList (p : PayloadText) (more : List (Separator × PayloadText)) :
    nestAll 0 (payloadList p more).toList = 0 := by
  induction more generalizing p with
  | nil => exact p.nestAll_spell
  | cons item more ih =>
    obtain ⟨⟨ahead, behind⟩, q⟩ := item
    have hsep : nestAll 0 (Separator.spell ⟨ahead, behind⟩).toList = 0 := by
      revert ahead behind
      decide
    rw [payloadList, String.toList_append, String.toList_append, nestAll_append, nestAll_append,
      p.nestAll_spell, hsep, ih]

/-- A payload has a word. -/
theorem words_spell_ne_nil (p : PayloadText) (tail : String) :
    Text.words (p.spell ++ tail) ≠ [] := by
  obtain ⟨c, cs, hspell, hc⟩ := exists_toList_payloadList p []
  have hchars : (p.spell ++ tail).toList = c :: (cs ++ tail.toList) := by
    rw [String.toList_append, ← List.cons_append, ← hspell]
    rfl
  rw [Text.words_eq, hchars, ne_eq, List.map_eq_nil_iff]
  exact Text.charWords_ne_nil hc _

/-- A comma that touches a list is put in front of its first word. -/
theorem exists_words_touching (p : PayloadText) (more : List (Separator × PayloadText)) :
    ∃ w ws, w.toList ≠ [] ∧ Text.words (payloadList p more) = w :: ws ∧
      Text.words ("," ++ payloadList p more) = ("," ++ w) :: ws := by
  obtain ⟨c, cs, hlist, hc⟩ := exists_toList_payloadList p more
  obtain ⟨w, ws, hw⟩ := List.exists_cons_of_ne_nil (Text.charWords_ne_nil hc cs)
  have hchars : ("," ++ payloadList p more).toList = [','] ++ c :: cs := by
    rw [String.toList_append, hlist]
    rfl
  refine ⟨String.ofList w, ws.map String.ofList, ?_, ?_, ?_⟩
  · rw [String.toList_ofList]
    exact (Text.isWord_of_mem_charWords (hw ▸ List.mem_cons_self)).ne_nil
  · rw [Text.words_eq, hlist, hw]
    rfl
  · rw [Text.words_eq, hchars, Text.charWords_append_touching
      (by decide : Text.IsWord [',']).solid hc hw, List.map_cons, String.ofList_append]

namespace Rule

/-- A comma with a space on one side ends the last word of the payload ahead of it, or it is read
from the words behind that payload. -/
theorem exists_tail_words (p : PayloadText) {sep : Separator} (hloose : sep.Loose)
    (q : PayloadText) (more : List (Separator × PayloadText)) : ∃ tail rest,
      Text.words (p.spell ++ sep.spell ++ payloadList q more) =
        Text.words (p.spell ++ tail) ++ rest ∧
      (tail = "," ∧ Text.words (payloadList q more) = rest ∨
        tail = "" ∧ Reads skipComma rest (· = true) (Text.words (payloadList q more))) ∧
      (Text.words (payloadList q more)).length ≤ rest.length := by
  obtain ⟨ahead, behind⟩ := sep
  cases ahead with
  | false =>
    obtain rfl : behind = true := by simpa [Separator.Loose] using hloose
    refine ⟨",", _, ?_, Or.inl ⟨rfl, rfl⟩, Nat.le_refl _⟩
    rw [← Text.words_append_space]
    congr 1
    rw [← String.toList_inj]
    simp [Separator.spell]
  | true =>
    cases behind with
    | true =>
      have hword : Text.words "," = [","] := by decide
      refine ⟨"", "," :: Text.words (payloadList q more), ?_,
        Or.inr ⟨rfl, reads_skipComma_word _⟩, by simp⟩
      have htext : p.spell ++ Separator.spell ⟨true, true⟩ ++ payloadList q more =
          (p.spell ++ "") ++ " " ++ ("," ++ " " ++ payloadList q more) := by
        rw [← String.toList_inj]
        simp [Separator.spell]
      rw [htext, Text.words_append_space, Text.words_append_space, hword]
      rfl
    | false =>
      obtain ⟨w, ws, hne, hnext, hlater⟩ := exists_words_touching q more
      refine ⟨"", ("," ++ w) :: ws, ?_, Or.inr ⟨rfl, hnext ▸ reads_skipComma_front hne _⟩,
        by rw [hnext]; simp⟩
      rw [← hlater, ← Text.words_append_space]
      congr 1
      rw [← String.toList_inj]
      simp [Separator.spell]

/-- **A payload is read up to the next**, whatever side of the comma a space is on. -/
theorem reads_separated (p : PayloadText) {sep : Separator} (hloose : sep.Loose)
    (q : PayloadText) (more : List (Separator × PayloadText)) :
    Reads payload (Text.words (p.spell ++ sep.spell ++ payloadList q more))
        (· = (p.payload, true)) (Text.words (payloadList q more)) ∧
      (Text.words (payloadList q more)).length <
        (Text.words (p.spell ++ sep.spell ++ payloadList q more)).length := by
  obtain ⟨tail, rest, hwords, hcomma, hle⟩ := exists_tail_words p hloose q more
  have hpos := List.length_pos_iff.mpr (words_spell_ne_nil p tail)
  rw [hwords]
  refine ⟨reads_payloadText p (hcomma.imp_left fun ⟨htail, hrest⟩ => ⟨htail, rfl, hrest⟩), ?_⟩
  rw [List.length_append]
  omega

/-- **A list with a space at each comma is read.**  The induction is on the payloads; each leaves
the words of the next, which are fewer. -/
theorem reads_payloadList (first : PayloadText) (more : List (Separator × PayloadText))
    (hloose : ∀ item ∈ more, item.1.Loose) :
    Reads (chain payload) (Text.words (payloadList first more)) (· = payloadsOf first more) [] := by
  induction more generalizing first with
  | nil =>
    have habsent : Reads skipComma [] (· = false) [] := reads_skipComma_absent (by simp)
    have hread := reads_payloadText first (Or.inr ⟨rfl, habsent⟩)
    rw [String.append_empty, List.append_nil] at hread
    exact hread.chain_last
  | cons item more ih =>
    obtain ⟨sep, next⟩ := item
    obtain ⟨hread, hlt⟩ := reads_separated first (hloose _ List.mem_cons_self) next more
    have hlater := ih next fun item hitem => hloose item (List.mem_cons_of_mem _ hitem)
    exact hread.chain_more hlt hlater

/-- **A list with a comma that no space is at is refused**, at the first of them.  The payloads
ahead of it are read, each up to the next, and the one it touches refuses. -/
theorem refuses_payloadList (first : PayloadText) (more : List (Separator × PayloadText))
    (htight : ∃ item ∈ more, ¬ item.1.Loose) :
    Refuses (chain payload) (Text.words (payloadList first more)) CommaRefused := by
  induction more generalizing first with
  | nil => exact absurd htight (by simp)
  | cons item more ih =>
    obtain ⟨sep, next⟩ := item
    by_cases hloose : sep.Loose
    · -- this comma is loose, so the one that is not is among the others
      have hlater : ∃ item ∈ more, ¬ item.1.Loose := by
        obtain ⟨item, hitem, hnot⟩ := htight
        rcases List.mem_cons.mp hitem with rfl | hitem
        · exact absurd hloose hnot
        · exact ⟨item, hitem, hnot⟩
      obtain ⟨hread, hlt⟩ := reads_separated first hloose next more
      exact hread.chain_refuses hlt (ih next hlater)
    · obtain ⟨c, cs, hlist, hc⟩ := exists_toList_payloadList next more
      have hspell : sep.spell = "," := by
        obtain ⟨ahead, behind⟩ := sep
        simp only [Separator.Loose, not_or, Bool.not_eq_true] at hloose
        simp [Separator.spell, hloose.1, hloose.2]
      have htail : (sep.spell ++ payloadList next more).toList = ',' :: c :: cs := by
        rw [hspell, String.toList_append, hlist]
        rfl
      have hdepth : nestAll 0 (sep.spell ++ payloadList next more).toList = 0 := by
        rw [hspell, String.toList_append, nestAll_append]
        exact nestAll_payloadList next more
      have hrefuse := refuses_payloadText first htail hc hdepth
      rw [payloadList, String.append_assoc]
      exact hrefuse.chain

end Rule

/-! ## 5. Inserts

The list with the words of an INSERT ahead of it. -/

/-- An INSERT of these payloads. -/
def insertText (first : PayloadText) (more : List (Separator × PayloadText)) : String :=
  "INSERT HEXAD WITH " ++ payloadList first more

theorem words_insert (list : String) : Text.words ("INSERT HEXAD WITH " ++ list) =
    "INSERT" :: "HEXAD" :: "WITH" :: Text.words list := by
  have hlead : Text.words "INSERT HEXAD WITH" = ["INSERT", "HEXAD", "WITH"] := by decide
  have hsplit : "INSERT HEXAD WITH " = "INSERT HEXAD WITH" ++ " " := by decide
  rw [hsplit, Text.words_append_space, hlead]
  rfl

/-- **The payloads of an INSERT are read where a space is at each comma, on either side, and only
there.**  Where one comma has a payload on both sides without a space, the text is refused, and
the refusal expects a comma at a text that starts with one. -/
theorem parseMutation_payloads (config : Config) (first : PayloadText)
    (more : List (Separator × PayloadText)) :
    ((∀ item ∈ more, item.1.Loose) →
      (parseMutation (insertText first more)).result = .ok (.insert (payloadsOf first more) []) ∧
      (parseStatement config (insertText first more)).result =
        .ok (.mutation (.insert (payloadsOf first more) []))) ∧
    ((∃ item ∈ more, ¬ item.1.Loose) → ∃ error, Rule.CommaRefused error ∧
      (parseMutation (insertText first more)).result = .error error ∧
      (parseStatement config (insertText first more)).result = .error error) := by
  have hwords : Text.words (insertText first more) = _ := words_insert (payloadList first more)
  refine ⟨fun hloose => ?_, fun htight => ?_⟩
  · rw [parseStatement_mutation_iff, and_self, parseMutation, Outcome.accepted_result,
      Rule.run_eq_ok]
    obtain ⟨next, hnext, hstep⟩ := Rule.mutation_step ((Cursor.words_ofText _).trans hwords)
      fun _ => Rule.mutationBody_insert
    have hread := Rule.reads_payloadList first more hloose
    rw [hstep]
    refine ((Rule.insert_leavesProof hread (by simp) hnext).comes_back_iff
      (fun _ _ heq => (Mutation.insert.inj heq).2) (List.forall_mem_nil _)).mpr
        (List.forall_mem_nil _)
  · have hrefuse : Rule.Refuses Rule.mutation (Text.words (insertText first more))
        Rule.CommaRefused := by
      rw [hwords]
      refine Rule.Reads.refuses (Rule.reads_token _ _ _) fun t ht => ?_
      rw [Rule.mutationBody_insert ht]
      refine Rule.Refuses.bind ?_ _
      refine Rule.Reads.refuses (Rule.reads_keyword (Text.sameLetters_refl _) _) fun _ _ => ?_
      refine Rule.Reads.refuses (Rule.reads_keyword (Text.sameLetters_refl _) _) fun _ _ => ?_
      exact Rule.Refuses.bind (Rule.refuses_payloadList first more htight) _
    obtain ⟨error, herror, hrefused⟩ := hrefuse.run
    have hparse : (parseMutation (insertText first more)).result = .error error := by
      rw [parseMutation, Outcome.accepted_result, herror]
    refine ⟨error, hrefused, hparse, ?_⟩
    exact parseStatement_error_of_mutation (by rw [hwords]; rfl) (by decide) hparse

/-- The payload `DOCUMENT(a=(1, 2))`, its parenthesis in the word of the name. -/
def PayloadText.document : PayloadText where
  name := "DOCUMENT"
  text := "a=(1, 2)"
  apart := false
  identifier := by decide
  operand := by decide
  balanced := by decide

/-- The payload `vector ( b )`, with blanks where they can be. -/
def PayloadText.vector : PayloadText where
  name := "vector"
  text := " b "
  apart := true
  identifier := by decide
  operand := by decide
  balanced := by decide

/-- All three places a comma can be in, in one list. -/
theorem parseMutation_payloads_spaced :
    (parseMutation ("INSERT HEXAD WITH DOCUMENT(a=(1, 2)) ,vector ( b ), " ++
        "DOCUMENT(a=(1, 2)) , vector ( b )")).result =
      .ok (.insert [⟨.document, "a=(1, 2)"⟩, ⟨.vector, "b"⟩, ⟨.document, "a=(1, 2)"⟩,
        ⟨.vector, "b"⟩] []) := by
  have htext : insertText .document [(⟨true, false⟩, .vector), (⟨false, true⟩, .document),
      (⟨true, true⟩, .vector)] = "INSERT HEXAD WITH DOCUMENT(a=(1, 2)) ,vector ( b ), " ++
        "DOCUMENT(a=(1, 2)) , vector ( b )" := by decide +kernel
  have hpayloads : payloadsOf .document [(⟨true, false⟩, .vector), (⟨false, true⟩, .document),
      (⟨true, true⟩, .vector)] = [⟨.document, "a=(1, 2)"⟩, ⟨.vector, "b"⟩,
        ⟨.document, "a=(1, 2)"⟩, ⟨.vector, "b"⟩] := by decide +kernel
  rw [← htext, ← hpayloads]
  exact ((parseMutation_payloads {} .document _).1 (by decide)).1

/-- A comma without a space is refused, though it is what is expected. -/
theorem parseMutation_payloads_touching :
    (parseMutation "INSERT HEXAD WITH DOCUMENT(a=1), VECTOR(b=2)").result =
      .ok (.insert [⟨.document, "a=1"⟩, ⟨.vector, "b=2"⟩] []) ∧
    (parseMutation "INSERT HEXAD WITH DOCUMENT(a=1),VECTOR(b=2)").result =
      .error (.unexpectedToken "',' or PROOF" ",VECTOR(b=2)" 3) :=
  ⟨by decide +kernel, by decide +kernel⟩

end HexadQuery
