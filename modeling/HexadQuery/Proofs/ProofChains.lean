/-
# The words of a PROOF clause

A `WrittenChain` is a PROOF clause as it stands in a statement: the keyword, a specification, and
further specifications with an AND ahead of each.  A `WrittenSpec` keeps apart what the reading of
a specification has to find out: the type, the parenthesis that opens the group, in the word of the
type or in the next one, and the words up to the one the group closes in.

`Rule.proofClause` reads exactly these (`Rule.reads_proofClause`, `Rule.proofClause_eq_ok`).  The
two directions carry one asymmetry: a clause is read to its end only if what follows is no AND,
while every clause that was read is well-formed whatever follows.

In the source this is `proof_clause`, with `proof_spec` for one specification.  A specification
starts with an operand, so its first word is no clause keyword; but the keyword check looks at the
word and not at the type, and a word such as `LIMIT(c)` is no keyword.  That is why `operand` of
`WrittenSpec.WellFormed` speaks of the first word, and why a type may be a keyword after all.

Behind the group of a specification nothing may stand in the same word, and the contract must not
be blank.  Of the AND behind a specification it is checked at once that an operand follows, so that
a dangling AND is reported where it stands.

A chain is read by recursion over the words, and its written form is a list.  The two meet in the
word that is in front of a link: the AND for all but the first, the keyword for the first.  So the
uniqueness of chains is that of lists of links (`WrittenChain.eq_of_linkWords`).
-/
import HexadQuery.Grammar.Proof
import HexadQuery.Proofs.Groups
import HexadQuery.Proofs.Names

namespace HexadQuery

/-! ## 1. Keywords that exclude each other

A word is compared with keywords only, so what one comparison says settles the others. -/

namespace Text

/-- What a keyword is decides what its spellings are. -/
theorem sameLetters_of {word keyword other : String} {b : Bool}
    (h : sameLetters word keyword = true) (h' : sameLetters keyword other = b) :
    sameLetters word other = b :=
  (sameLetters_congr h other).trans h'

/-- The same for a list of keywords. -/
theorem isAnyOf_of {word keyword : String} {keywords : List String} {b : Bool}
    (h : sameLetters word keyword = true) (h' : isAnyOf keyword keywords = b) :
    isAnyOf word keywords = b := by
  rw [← h']
  unfold isAnyOf
  congr 1
  funext other
  exact sameLetters_congr h other

/-- A word with a character that is no letter is none of the keywords. -/
theorem isAnyOf_of_not_alpha {word : String} {c : Char} (hc : c ∈ word.toList)
    (halpha : c.isAlpha = false) {keywords : List String}
    (hkeywords : ∀ keyword ∈ keywords, keyword.toList.all Char.isAlpha = true) :
    isAnyOf word keywords = false := by
  rw [isAnyOf, List.any_eq_false]
  intro keyword hmem
  simpa using sameLetters_of_not_alpha hc halpha (hkeywords keyword hmem)

end Text

/-! ## 2. Specifications

One specification: its written form, that the written form is read, that what was read has one, and
that the words determine it. -/

/-- A proof specification as it is written: its type, the text from the opening parenthesis to
the end of that word, the words after it, and whether the parenthesis stands apart from the
type. -/
structure WrittenSpec where
  /-- the type, which is the name ahead of the parenthesis -/
  proofType : String
  /-- the parenthesis and the rest of its word -/
  opening : String
  /-- the words of the contract behind that one -/
  more : List String
  /-- whether the type is a word of its own -/
  apart : Bool

namespace WrittenSpec

def words (written : WrittenSpec) : List String :=
  if written.apart then written.proofType :: written.opening :: written.more
  else (written.proofType ++ written.opening) :: written.more

/-- The first word. -/
def first (written : WrittenSpec) : String :=
  if written.apart then written.proofType else written.proofType ++ written.opening

/-- The text from the opening parenthesis on. -/
def groupText (written : WrittenSpec) : List Char := spelled written.opening.toList written.more

/-- The obligation it states: the contract is what stands between the outer characters of the
group, trimmed. -/
def spec (written : WrittenSpec) : ProofSpec :=
  ⟨written.proofType, String.ofList (Text.trimChars written.groupText.tail.dropLast)⟩

structure WellFormed (written : WrittenSpec) : Prop where
  type_ne : written.proofType ≠ ""
  type_open : '(' ∉ written.proofType.toList
  operand : Text.isAnyOf written.first Rule.clauseKeywords = false
  closes : ∃ inside, written.groupText = '(' :: inside ++ [')'] ∧ Balanced inside ∧
    ∃ c ∈ inside, Text.isBlank c = false

variable {written : WrittenSpec}

/-- A specification has a first word, with a tail that may be empty. -/
theorem words_eq_cons (written : WrittenSpec) : ∃ tail, written.words = written.first :: tail := by
  unfold words first
  split
  · exact ⟨_, rfl⟩
  · exact ⟨_, rfl⟩

/-- The group of a well-formed specification starts with its parenthesis. -/
theorem WellFormed.opening_head (h : written.WellFormed) :
    written.opening.toList.head? = some '(' := by
  obtain ⟨inside, htext, -, -⟩ := h.closes
  cases ho : written.opening.toList with
  | cons c cs =>
    rw [groupText, ho] at htext
    have : c = '(' := List.head_eq_of_cons_eq htext
    rw [this]
    rfl
  | nil =>
    rw [groupText, ho] at htext
    cases hm : written.more with
    | nil => simp [hm] at htext
    | cons w ws =>
      rw [hm, spelled_cons, List.nil_append] at htext
      exact absurd (List.head_eq_of_cons_eq htext) (by decide)

/-- The contract, by the inside of the group. -/
theorem spec_of_groupText {inside : List Char} (h : written.groupText = '(' :: inside ++ [')']) :
    written.spec = ⟨written.proofType, String.ofList (Text.trimChars inside)⟩ := by
  rw [spec, h, List.cons_append, List.tail_cons, List.dropLast_concat]

/-- The words determine a well-formed specification. -/
theorem WellFormed.eq_of_words {other : WrittenSpec} (h : written.WellFormed)
    (h' : other.WellFormed) (hw : written.words = other.words) : written = other := by
  have hopen := h.opening_head
  have hopen' := h'.opening_head
  have hsplit := Rule.span_name_append h.type_open hopen
  have hsplit' := Rule.span_name_append h'.type_open hopen'
  have hname := Rule.span_name h.type_open
  have hname' := Rule.span_name h'.type_open
  have hne : written.opening.toList ≠ [] := by
    intro hnil
    simp [hnil] at hopen
  have hne' : other.opening.toList ≠ [] := by
    intro hnil
    simp [hnil] at hopen'
  obtain ⟨t, o, m, a⟩ := written
  obtain ⟨t', o', m', a'⟩ := other
  cases a <;> cases a' <;>
    simp only [words, Bool.false_eq_true, if_true, if_false, List.cons.injEq] at hw
  · obtain ⟨hfirst, rfl⟩ := hw
    rw [← String.toList_append, hfirst, String.toList_append, hsplit'] at hsplit
    simp only [Prod.mk.injEq, String.toList_inj] at hsplit
    obtain ⟨rfl, rfl⟩ := hsplit
    rfl
  · rw [← String.toList_append, hw.1, hname'] at hsplit
    simp only [Prod.mk.injEq] at hsplit
    exact absurd hsplit.2.symm hne
  · rw [← String.toList_append, ← hw.1, hname] at hsplit'
    simp only [Prod.mk.injEq] at hsplit'
    exact absurd hsplit'.2.symm hne'
  · obtain ⟨rfl, rfl, rfl⟩ := hw
    rfl

end WrittenSpec

namespace Rule

/-- The first word of a specification does not open a group. -/
theorem opensGroup_first {written : WrittenSpec} (h : written.WellFormed) {head : Token}
    (hhead : head.text = written.first) : ¬ opensGroup head = true := by
  intro hopens
  have htype : written.proofType.toList ≠ [] := fun hnil =>
    h.type_ne (String.toList_eq_nil_iff.mp hnil)
  obtain ⟨d, ds, hd⟩ := List.exists_cons_of_ne_nil htype
  have hopen : d = '(' := by
    simp only [opensGroup, hhead, WrittenSpec.first, beq_iff_eq] at hopens
    split at hopens <;> simpa [String.toList_append, hd] using hopens
  exact h.type_open (by rw [hd, hopen]; exact List.mem_cons_self)

/-- The type and the parenthesis are found in either way of writing. -/
theorem reads_callHead_written {written : WrittenSpec} (h : written.WellFormed) {head : Token}
    (hhead : head.text = written.first) (expected : String) (rest : List String) :
    Reads (callHead head expected) (written.words.tail ++ rest)
      (fun call => call.name = written.proofType ∧ call.opening = written.opening.toList)
      (written.more ++ rest) := by
  have hopen := h.opening_head
  cases ha : written.apart with
  | true =>
    rw [WrittenSpec.first, ha, if_pos rfl] at hhead
    rw [WrittenSpec.words, ha, if_pos rfl, List.tail_cons, List.cons_append, ← hhead]
    exact reads_callHead_apart (by rw [hhead]; exact h.type_open) hopen expected _
  | false =>
    rw [WrittenSpec.first, ha, if_neg (by simp)] at hhead
    rw [WrittenSpec.words, ha, if_neg (by simp), List.tail_cons]
    have htext : head.text.toList = written.proofType.toList ++ written.opening.toList := by
      rw [hhead, String.toList_append]
    refine (reads_callHead_attached htext h.type_open hopen expected _).weaken ?_
    rintro call ⟨hname, hopening⟩
    exact ⟨by rw [hname, String.ofList_toList], hopening⟩

/-- **A well-formed specification is read**, whatever follows it.  The name, the group and the
checks are read one behind the other, each by its own lemma. -/
theorem reads_proofSpec {written : WrittenSpec} (h : written.WellFormed) (rest : List String) :
    Reads proofSpec (written.words ++ rest) (· = written.spec) rest := by
  obtain ⟨inside, htext, hin, c, hc, hblank⟩ := h.closes
  have hinner : String.ofList (Text.trimChars inside) ≠ "" := by
    intro hnil
    have : Text.trimChars inside = [] := by
      rw [← String.toList_ofList (l := Text.trimChars inside), hnil]
      rfl
    rw [Text.trimChars_eq_nil_iff.mp this c hc] at hblank
    exact absurd hblank (by simp)
  obtain ⟨tail, hwords⟩ := written.words_eq_cons
  have htail : written.words.tail = tail := by rw [hwords]; rfl
  rw [hwords, List.cons_append]
  refine Reads.bind (reads_operand h.operand (tail ++ rest)) fun head hhead => ?_
  refine Reads.guard (opensGroup_first h hhead) ?_
  rw [← htail]
  refine Reads.bind (reads_callHead_written h hhead _ rest) ?_
  rintro call ⟨hname, hopening⟩
  rw [hopening]
  refine Reads.bind (reads_group htext hin (by simp) (by simp) rest) ?_
  rintro contract rfl
  refine Reads.guard hinner (Reads.guard (by simp) ?_)
  rw [WrittenSpec.spec_of_groupText htext, ← hname]
  exact reads_pure _ rest

/-- Words spelled out are normal. -/
theorem normal_spelled {head : List Char} {words : List String} (hhead : Text.IsWord head)
    (hwords : ∀ w ∈ words, Text.IsWord w.toList) : Text.Normal (spelled head words) := by
  have h := spelled_eq_intercalate (String.ofList head) words
  rw [String.toList_ofList] at h
  rw [h]
  refine Text.normal_intercalate ?_
  intro w hw
  obtain ⟨v, hv, rfl⟩ := List.mem_map.mp hw
  rcases List.mem_cons.mp hv with rfl | hv
  · rw [String.toList_ofList]
    exact hhead
  · exact hwords v hv

/-- A blank rest behind the words of a group is no rest at all. -/
theorem eq_nil_of_spelled {head before after : List Char} {words : List String}
    (hhead : Text.IsWord head) (hwords : ∀ w ∈ words, Text.IsWord w.toList)
    (htext : spelled head words = before ++ after) (hafter : ∀ c ∈ after, Text.isBlank c = true) :
    after = [] := by
  by_contra hne
  have hlast := List.getLast?_eq_some_getLast hne
  have hsolid := (normal_spelled hhead hwords).last (after.getLast hne) (by
    rw [htext, List.getLast?_append, hlast]
    rfl)
  rw [hafter _ (List.getLast_mem hne)] at hsolid
  exact absurd hsolid (by simp)

/-- The words a type and a parenthesis were found in, as the start of a written specification. -/
theorem callHead_written {head : Token} {expected : String} {cursor rest : Cursor} {call : CallHead}
    (h : (callHead head expected cursor).result = .ok (call, rest)) :
    ∃ apart, ∀ more left, rest.words = more ++ left →
      WrittenSpec.first ⟨call.name, String.ofList call.opening, more, apart⟩ = head.text ∧
      head.text :: cursor.words =
        WrittenSpec.words ⟨call.name, String.ofList call.opening, more, apart⟩ ++ left := by
  obtain ⟨-, -, ⟨rfl, hjoin⟩ | ⟨hname, hnext⟩⟩ := callHead_eq_ok h
  · have hfirst : call.name ++ String.ofList call.opening = head.text := by
      rw [← String.toList_inj, hjoin, String.toList_append, String.toList_ofList]
    refine ⟨false, fun more left hrest => ⟨hfirst, ?_⟩⟩
    rw [WrittenSpec.words, if_neg (by simp), hfirst, hrest]
    rfl
  · refine ⟨true, fun more left hrest => ⟨hname.symm, ?_⟩⟩
    rw [WrittenSpec.words, if_pos rfl, hname, hnext, hrest]
    rfl

/-- **What was read as a specification is one that is well-formed.**  The words it took are its
name, with the parenthesis or ahead of it, and those of the group.  That nothing but blanks is
behind the group leaves nothing there, as the last word would hold it. -/
theorem proofSpec_eq_ok {cursor rest : Cursor} {spec : ProofSpec}
    (hwords : ∀ w ∈ cursor.words, Text.IsWord w.toList)
    (h : (proofSpec cursor).result = .ok (spec, rest)) :
    ∃ written : WrittenSpec, written.WellFormed ∧ written.spec = spec ∧
      cursor.words = written.words ++ rest.words := by
  obtain ⟨head, c₁, hhead, h⟩ := bind_eq_ok.mp h
  obtain ⟨hopens, h⟩ := (guard_eq_ok fun _ => ⟨_, rfl⟩).mp h
  obtain ⟨call, c₂, hcall, h⟩ := bind_eq_ok.mp h
  obtain ⟨contract, c₃, hgroup, h⟩ := bind_eq_ok.mp h
  obtain ⟨hinner, h⟩ := (guard_eq_ok fun _ => ⟨_, rfl⟩).mp h
  obtain ⟨htrailing, h⟩ := (guard_eq_ok fun _ => ⟨_, rfl⟩).mp h
  simp only [pure_result, Except.ok.injEq, Prod.mk.injEq] at h
  obtain ⟨rfl, rfl⟩ := h
  obtain ⟨htokens, -, hoperand⟩ := takeIf_eq_ok.mp hhead
  have hcursor : cursor.words = head.text :: c₁.words := by rw [Cursor.words, htokens]; rfl
  obtain ⟨hopen, htype, hwhere⟩ := callHead_eq_ok hcall
  obtain ⟨more, inside, after, hmore, htext, hin, rfl⟩ := group_eq_ok hopen hgroup
  obtain ⟨apart, hwritten⟩ := callHead_written hcall
  obtain ⟨hfirst, hall⟩ := hwritten more c₃.words hmore
  rw [← hcursor] at hall
  have hheadWord : Text.IsWord head.text.toList := hwords _ (by rw [hcursor]; exact List.mem_cons_self)
  have hmoreWords : ∀ w ∈ more, Text.IsWord w.toList := by
    intro w hw
    refine hwords w ?_
    rw [hall, WrittenSpec.words]
    split <;> simp [hw]
  have hopening : Text.IsWord call.opening :=
    (isWord_opening hheadWord (fun w hw => hwords w (by rw [hcursor]; simp [hw])) hcall).1
  have hnil : after = [] := by
    have hjoin : spelled call.opening more = ('(' :: inside ++ [')']) ++ after := by
      rw [htext]
      simp
    refine eq_nil_of_spelled hopening hmoreWords hjoin ?_
    exact Text.trimChars_eq_nil_iff.mp (by simpa using htrailing)
  subst hnil
  have hgroupText : WrittenSpec.groupText ⟨call.name, String.ofList call.opening, more, apart⟩ =
      '(' :: inside ++ [')'] := by
    rw [WrittenSpec.groupText, String.toList_ofList, htext]
  refine ⟨⟨call.name, String.ofList call.opening, more, apart⟩, ⟨?_, htype, ?_, ?_⟩,
    WrittenSpec.spec_of_groupText hgroupText, hall⟩
  · intro (hnone : call.name = "")
    rcases hwhere with ⟨-, hjoin⟩ | ⟨hname, -⟩
    · rw [hnone] at hjoin
      exact hopens (by simpa [opensGroup, hjoin] using hopen)
    · exact hheadWord.ne_nil (by rw [hname, hnone]; rfl)
  · rw [hfirst]
    simpa using hoperand
  · refine ⟨inside, hgroupText, hin, ?_⟩
    -- a group of blanks only would be trimmed to nothing, and that is refused
    by_contra hblank
    refine hinner ?_
    rw [Text.trimChars_eq_nil_iff.mpr fun c hc => ?_]
    by_contra hc'
    exact hblank ⟨c, hc, by simpa using hc'⟩

/-! ## 3. Chains

Specifications with an AND between them.  Each round of the chain reads one and asks for another.
-/

end Rule

/-- A PROOF clause as it is written: the keyword, a specification, and more of them, each with the
word ahead of it. -/
structure WrittenChain where
  /-- the word PROOF, in some casing -/
  opening : String
  /-- the first specification -/
  head : WrittenSpec
  /-- the others, each with the AND ahead of it -/
  links : List (String × WrittenSpec)

namespace WrittenChain

/-- The words of specifications with a word ahead of each. -/
def linkWords (links : List (String × WrittenSpec)) : List String :=
  links.flatMap fun link => link.1 :: link.2.words

def words (chain : WrittenChain) : List String :=
  chain.opening :: (chain.head.words ++ linkWords chain.links)

def specs (chain : WrittenChain) : List ProofSpec :=
  chain.head.spec :: chain.links.map fun link => link.2.spec

/-- A further specification of a chain is well-formed, with an AND ahead of it. -/
def LinkFormed (link : String × WrittenSpec) : Prop :=
  Text.sameLetters link.1 "AND" = true ∧ link.2.WellFormed

structure WellFormed (chain : WrittenChain) : Prop where
  opening : Text.sameLetters chain.opening "PROOF" = true
  head : chain.head.WellFormed
  links : ∀ link ∈ chain.links, LinkFormed link

end WrittenChain

namespace Rule

/-- An AND and the word after it. -/
theorem reads_skipAnd {word next : String} (h : Text.sameLetters word "AND" = true)
    (hnext : Text.isAnyOf next clauseKeywords = false) (rest : List String) :
    Reads skipAnd (word :: next :: rest) (· = true) (next :: rest) := by
  refine Reads.bind (reads_get _) fun cursor _ => ?_
  refine Reads.bind (reads_skipKeyword h _) ?_
  rintro _ rfl
  refine Reads.bind (reads_peek _) fun token htoken => ?_
  cases token with
  | none => simp at htoken
  | some token =>
    have htext : token.text = next := by simpa using htoken
    refine Reads.guard ?_ (reads_pure true _)
    simp [htext, hnext]

/-- Without an AND the chain ends, and nothing is taken. -/
theorem reads_skipAnd_absent {words : List String}
    (h : ∀ word, words.head? = some word → Text.sameLetters word "AND" = false) :
    Reads skipAnd words (· = false) words := by
  refine Reads.bind (reads_get _) fun cursor _ => ?_
  refine Reads.bind (reads_skipKeyword_absent h) ?_
  rintro _ rfl
  exact reads_pure false words

/-- Either an AND was there and is gone, or nothing has happened. -/
theorem skipAnd_eq_ok {cursor rest : Cursor} {found : Bool}
    (h : (skipAnd cursor).result = .ok (found, rest)) :
    found = true ∧ (∃ word, Text.sameLetters word "AND" = true ∧ cursor.words = word :: rest.words) ∨
      found = false ∧ rest = cursor := by
  obtain ⟨_, _, hget, h⟩ := bind_eq_ok.mp h
  simp only [get_result, Except.ok.injEq, Prod.mk.injEq] at hget
  obtain ⟨rfl, rfl⟩ := hget
  obtain ⟨skipped, c₁, hskip, h⟩ := bind_eq_ok.mp h
  rcases skipKeyword_eq_ok hskip with ⟨rfl, hword⟩ | ⟨rfl, rfl⟩
  · obtain ⟨token, c₂, hpeek, h⟩ := bind_eq_ok.mp h
    simp only [peek_result, Except.ok.injEq, Prod.mk.injEq] at hpeek
    obtain ⟨rfl, rfl⟩ := hpeek
    cases ht : c₁.tokens.head? with
    | none => simp [ht] at h
    | some token =>
      rw [ht] at h
      obtain ⟨-, h⟩ := (guard_eq_ok fun _ => ⟨_, rfl⟩).mp h
      simp only [pure_result, Except.ok.injEq, Prod.mk.injEq] at h
      obtain ⟨rfl, rfl⟩ := h
      exact Or.inl ⟨rfl, hword⟩
  · simp only [Bool.false_eq_true, if_false, pure_result, Except.ok.injEq, Prod.mk.injEq] at h
    exact Or.inr ⟨h.1.symm, h.2.symm⟩

/-- **The specifications of a clause are read**, if what follows is no AND. -/
theorem reads_chain_links : ∀ (links : List (String × WrittenSpec)) {head : WrittenSpec}
    {rest : List String}, head.WellFormed → (∀ link ∈ links, WrittenChain.LinkFormed link) →
    (∀ word, rest.head? = some word → Text.sameLetters word "AND" = false) →
    Reads (chain proofLink) (head.words ++ (WrittenChain.linkWords links ++ rest))
      (· = head.spec :: links.map fun link => link.2.spec) rest
  | [], head, rest, hhead, _, hrest => by
    refine Reads.chain_last ?_
    refine Reads.bind (reads_proofSpec hhead rest) ?_
    rintro _ rfl
    refine Reads.bind (reads_skipAnd_absent hrest) ?_
    rintro _ rfl
    exact reads_pure _ rest
  | (word, next) :: links, head, rest, hhead, hlinks, hrest => by
    obtain ⟨hand, hnext⟩ := hlinks (word, next) List.mem_cons_self
    obtain ⟨tail, htail⟩ := next.words_eq_cons
    have ih := reads_chain_links links hnext
      (fun link hlink => hlinks link (List.mem_cons_of_mem _ hlink)) hrest
    have hwords : WrittenChain.linkWords ((word, next) :: links) ++ rest =
        word :: (next.words ++ (WrittenChain.linkWords links ++ rest)) := by
      simp [WrittenChain.linkWords]
    rw [hwords]
    refine Reads.chain_more ?_ ?_ ih
    · refine Reads.bind (reads_proofSpec hhead _) ?_
      rintro _ rfl
      rw [htail, List.cons_append]
      refine Reads.bind (reads_skipAnd hand hnext.operand _) ?_
      rintro _ rfl
      exact reads_pure _ _
    · obtain ⟨tail', htail'⟩ := head.words_eq_cons
      simp [htail']
      omega

/-- **What was read as a chain of specifications is one.**  The induction is on the
specifications that were read: behind the first either an AND was taken, and the others are a
chain again, or the chain has ended. -/
theorem chain_proofLink_eq_ok : ∀ (specs : List ProofSpec) {cursor rest : Cursor},
    (∀ w ∈ cursor.words, Text.IsWord w.toList) →
    (chain proofLink cursor).result = .ok (specs, rest) →
    ∃ (head : WrittenSpec) (links : List (String × WrittenSpec)), head.WellFormed ∧
      (∀ link ∈ links, WrittenChain.LinkFormed link) ∧
      specs = head.spec :: (links.map fun link => link.2.spec) ∧
      cursor.words = head.words ++ (WrittenChain.linkWords links ++ rest.words)
  | specs, cursor, rest, hwords, h => by
    obtain ⟨spec, more, mid, hlink, hround⟩ := chain_eq_ok h
    obtain ⟨spec', c₁, hspec, hlink⟩ := bind_eq_ok.mp hlink
    obtain ⟨found, c₂, hand, hlink⟩ := bind_eq_ok.mp hlink
    simp only [pure_result, Except.ok.injEq, Prod.mk.injEq] at hlink
    obtain ⟨⟨rfl, rfl⟩, rfl⟩ := hlink
    obtain ⟨head, hhead, rfl, hall⟩ := proofSpec_eq_ok hwords hspec
    rcases skipAnd_eq_ok hand with ⟨rfl, word, hword, hnext⟩ | ⟨rfl, rfl⟩
    · rcases hround with ⟨-, later, rfl, htail⟩ | ⟨-, -, hstop⟩
      · have hmid : ∀ w ∈ c₂.words, Text.IsWord w.toList := by
          intro w hw
          exact hwords w (by rw [hall, hnext]; simp [hw])
        obtain ⟨next, links, hnext', hlinks, rfl, hleft⟩ := chain_proofLink_eq_ok later hmid htail
        refine ⟨head, (word, next) :: links, hhead, ?_, rfl, ?_⟩
        · intro link hlink
          rcases List.mem_cons.mp hlink with rfl | hlink
          · exact ⟨hword, hnext'⟩
          · exact hlinks link hlink
        · rw [hall, hnext, hleft]
          simp [WrittenChain.linkWords]
      · -- an AND was taken, so the round left fewer tokens than it found
        refine absurd ⟨rfl, ?_⟩ hstop
        have hlen : cursor.words.length = head.words.length + (c₂.words.length + 1) := by
          rw [hall, hnext, List.length_append, List.length_cons]
        simp only [Cursor.words, List.length_map] at hlen
        omega
    · -- no AND follows, so this link is the last
      rcases hround with ⟨hmore, -⟩ | ⟨rfl, rfl, -⟩
      · exact absurd hmore (by simp)
      · exact ⟨head, [], hhead, by simp, rfl, by rw [hall]; simp [WrittenChain.linkWords]⟩

end Rule

namespace WrittenChain

/-- The words of a chain determine its specifications, because each of them ends where the reading
of it does. -/
theorem eq_of_linkWords : ∀ (links links' : List (String × WrittenSpec)),
    (∀ link ∈ links, LinkFormed link) → (∀ link ∈ links', LinkFormed link) →
    linkWords links = linkWords links' → links = links'
  | [], [], _, _, _ => rfl
  | [], link :: links', _, _, h => by simp [linkWords] at h
  | link :: links, [], _, _, h => by simp [linkWords] at h
  | (word, spec) :: links, (word', spec') :: links', hformed, hformed', h => by
    have hspec := (hformed (word, spec) List.mem_cons_self).2
    have hspec' := (hformed' (word', spec') List.mem_cons_self).2
    have hcons : word :: (spec.words ++ linkWords links) =
        word' :: (spec'.words ++ linkWords links') := by simpa [linkWords] using h
    obtain ⟨rfl, hwords⟩ := List.cons.inj hcons
    have hreads := Rule.reads_proofSpec hspec (linkWords links)
    rw [hwords] at hreads
    have hleft := (hreads.unique (Rule.reads_proofSpec hspec' (linkWords links'))).2
    rw [hleft] at hwords
    obtain rfl := hspec.eq_of_words hspec' (List.append_cancel_right hwords)
    rw [eq_of_linkWords links links' (fun link hlink => hformed link (List.mem_cons_of_mem _ hlink))
      (fun link hlink => hformed' link (List.mem_cons_of_mem _ hlink)) hleft]

/-- The words determine a well-formed chain. -/
theorem WellFormed.eq_of_words {chain chain' : WrittenChain} (h : chain.WellFormed)
    (h' : chain'.WellFormed) (hwords : chain.words = chain'.words) : chain = chain' := by
  obtain ⟨opening, head, links⟩ := chain
  obtain ⟨opening', head', links'⟩ := chain'
  obtain ⟨rfl, hrest⟩ := List.cons.inj hwords
  have hlink : ∀ {head links}, WellFormed ⟨opening, head, links⟩ →
      ∀ link ∈ ("AND", head) :: links, LinkFormed link := by
    intro head links hformed link hmem
    rcases List.mem_cons.mp hmem with rfl | hmem
    · exact ⟨(by decide : Text.sameLetters "AND" "AND" = true), hformed.head⟩
    · exact hformed.links link hmem
  have heq := eq_of_linkWords (("AND", head) :: links) (("AND", head') :: links') (hlink h)
    (hlink h') (by simpa [linkWords] using hrest)
  simp only [List.cons.injEq, Prod.mk.injEq, true_and] at heq
  obtain ⟨rfl, rfl⟩ := heq
  rfl

end WrittenChain

/-! ## 4. The clause

The clause under a demand.  A demanded clause that is absent and a forbidden one that is there are
errors, so a success says that the demand is met. -/

/-- Whether an entry grammar lets a clause be there, or be absent. -/
structure ProofDemand.Admits {α : Type} (demand : ProofDemand) (clause : Option α) : Prop where
  /-- there is a clause where one is demanded -/
  required : demand = .required → clause ≠ none
  /-- and none where they are forbidden -/
  forbidden : demand = .forbidden → clause = none

/-- The words of a clause that may be absent. -/
def WrittenChain.optionWords (chain : Option WrittenChain) : List String :=
  (chain.map words).getD []

/-- The obligations of a clause that may be absent. -/
def WrittenChain.optionSpecs (chain : Option WrittenChain) : List ProofSpec :=
  (chain.map specs).getD []

/-- The words determine a clause that may be absent, once what follows it is known. -/
theorem WrittenChain.optionWords_inj {chain chain' : Option WrittenChain} {rest rest' : List String}
    (h : ∀ c ∈ chain, c.WellFormed) (h' : ∀ c ∈ chain', c.WellFormed) (hrest : rest = rest')
    (hwords : optionWords chain ++ rest = optionWords chain' ++ rest') : chain = chain' := by
  subst hrest
  have heq := List.append_cancel_right hwords
  cases chain with
  | none =>
    cases chain' with
    | none => rfl
    | some c' => simp [optionWords, words] at heq
  | some c =>
    cases chain' with
    | none => simp [optionWords, words] at heq
    | some c' => rw [(h c rfl).eq_of_words (h' c' rfl) heq]

namespace Rule

/-- **A well-formed PROOF clause is read**, and its absence too, where the demand admits it. -/
theorem reads_proofClause {demand : ProofDemand} {proof : Option WrittenChain}
    (hformed : ∀ chain ∈ proof, chain.WellFormed) (hdemand : demand.Admits proof)
    {rest : List String} (hand : ∀ word, rest.head? = some word →
      Text.sameLetters word "AND" = false ∧ Text.sameLetters word "PROOF" = false) :
    Reads (proofClause demand) (WrittenChain.optionWords proof ++ rest)
      (· = WrittenChain.optionSpecs proof) rest := by
  refine Reads.bind (reads_get _) fun cursor _ => ?_
  cases proof with
  | none =>
    refine Reads.bind (reads_skipKeyword_absent fun word hword => (hand word hword).2) ?_
    rintro _ rfl
    rw [if_neg (by simp)]
    exact Reads.guard (fun hreq => hdemand.required hreq rfl) (reads_pure [] rest)
  | some written =>
    have hchain := hformed written rfl
    refine Reads.bind (reads_skipKeyword hchain.opening _) ?_
    rintro _ rfl
    rw [if_pos rfl]
    refine Reads.guard (fun hforb => absurd (hdemand.forbidden hforb) (by simp)) ?_
    change Reads (chain proofLink) ((written.head.words ++ _) ++ rest) _ rest
    rw [List.append_assoc]
    exact reads_chain_links written.links hchain.head hchain.links fun word hword =>
      (hand word hword).1

/-- **What was read as a PROOF clause is one**, or it is absent.  `proof_clause` looks at its
demand in two places, at a PROOF that is there and at one that is not; having passed says what
the demand admits. -/
theorem proofClause_eq_ok {demand : ProofDemand} {cursor rest : Cursor} {specs : List ProofSpec}
    (hwords : ∀ w ∈ cursor.words, Text.IsWord w.toList)
    (h : (proofClause demand cursor).result = .ok (specs, rest)) :
    ∃ proof : Option WrittenChain, (∀ chain ∈ proof, chain.WellFormed) ∧ demand.Admits proof ∧
      WrittenChain.optionSpecs proof = specs ∧
      cursor.words = WrittenChain.optionWords proof ++ rest.words := by
  obtain ⟨_, _, hget, h⟩ := bind_eq_ok.mp h
  simp only [get_result, Except.ok.injEq, Prod.mk.injEq] at hget
  obtain ⟨rfl, rfl⟩ := hget
  obtain ⟨found, c₁, hskip, h⟩ := bind_eq_ok.mp h
  rcases skipKeyword_eq_ok hskip with ⟨rfl, word, hword, hnext⟩ | ⟨rfl, rfl⟩
  · rw [if_pos rfl] at h
    obtain ⟨hdemand, h⟩ := (guard_eq_ok fun _ => ⟨_, rfl⟩).mp h
    have hleft : ∀ w ∈ c₁.words, Text.IsWord w.toList := by
      intro w hw
      exact hwords w (by rw [hnext]; exact List.mem_cons_of_mem _ hw)
    obtain ⟨head, links, hhead, hlinks, rfl, hall⟩ := chain_proofLink_eq_ok specs hleft h
    refine ⟨some ⟨word, head, links⟩, ?_, ⟨by simp, fun hforb => absurd hforb hdemand⟩, rfl, ?_⟩
    · rintro chain hchain
      obtain rfl : (⟨word, head, links⟩ : WrittenChain) = chain := by simpa using hchain
      exact ⟨hword, hhead, hlinks⟩
    · rw [hnext, hall]
      simp [WrittenChain.optionWords, WrittenChain.words]
  · rw [if_neg (by simp)] at h
    obtain ⟨hdemand, h⟩ := (guard_eq_ok fun _ => ⟨_, rfl⟩).mp h
    simp only [pure_result, Except.ok.injEq, Prod.mk.injEq] at h
    obtain ⟨rfl, rfl⟩ := h
    exact ⟨none, by simp, ⟨fun hreq => absurd hreq hdemand, fun _ => rfl⟩, rfl, by
      simp [WrittenChain.optionWords]⟩

end Rule

end HexadQuery
