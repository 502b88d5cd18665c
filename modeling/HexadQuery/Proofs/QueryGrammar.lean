/-
# The words of a query

A `WrittenQuery` is the division of a word sequence into the clauses of a query, and
`WrittenQuery.WellFormed` is the clause grammar, said of the division and not of the reading: which
words open a clause, which words its body may not hold, what an operand, a specification and a
number look like.  `WrittenQuery.query` says what the parts mean, each field by its own part.

The main statement is `Rule.query_run_eq_ok_iff`: the reading accepts exactly the sequences that
divide so, and returns what the division means.  A sequence divides in at most one way
(`WrittenQuery.WellFormed.unique`), because the parts of a division are what the rules read and
rules read words in one way.

What the pieces of a SELECT list or an ORDER BY mean is taken from the grammar as it stands; only
the clauses around them are described here.

The source reads a query as a sequence of functions: `select_clause`, `from_clause`, then
`raw_condition` for WHERE, `group_by_clause`, `raw_condition` for HAVING, `proof_clause`,
`order_by_clause`, and `unsigned_operand` for LIMIT and OFFSET.  Each clause from WHERE on may be
absent, and this is found out by the next word alone.  A clause that captures words does so by
`take_until`, with its own list of stop words; that list has to hold the keywords of all clauses
that may follow, or these would be captured.

So the sections go clause by clause, with the same two lemmas for each kind: its written form is
read (`reads_..`), where the words that follow are led by a keyword that ends it, and what was read
has a written form (`.._eq_ok`).  What may follow a clause is kept as a list of keywords (`LedBy`),
and becomes one keyword longer with each clause from the back (`LedBy.option`).  ORDER BY stops at
LIMIT and OFFSET only, so of the clauses behind PROOF its list holds what it needs.

Whole queries are these lemmas in a row, forwards and backwards.  Uniqueness then follows from
`Reads.unique` step by step: two divisions of the same words are read by the same rules from the
same place, so each part ends in the same place in both.
-/
import HexadQuery.Grammar.Action
import HexadQuery.Proofs.ProofChains

namespace HexadQuery

/-! ## 1. Written clauses

A clause is two lists of words, the ones that open it and the ones behind them.  The keywords are
kept as they were written, so that a division has all the words of the text. -/

/-- A clause as it is written: the words that open it and the words behind them. -/
structure WrittenClause where
  /-- the keyword or keywords -/
  opening : List String
  /-- what stands behind them, up to the end of the clause -/
  body : List String

namespace WrittenClause

def words (clause : WrittenClause) : List String := clause.opening ++ clause.body

/-- The clause is opened by these keywords, each in some casing. -/
def Opened (clause : WrittenClause) (keywords : List String) : Prop :=
  List.Forall₂ (fun word keyword => Text.sameLetters word keyword = true) clause.opening keywords

/-- The words of a clause that may be absent. -/
def optionWords (clause : Option WrittenClause) : List String := (clause.map words).getD []

/-- A clause that captures words up to a stop word. -/
structure SpanFormed (keywords stops : List String) (clause : WrittenClause) : Prop where
  opened : clause.Opened keywords
  body : ∀ word ∈ clause.body, Text.isAnyOf word stops = false

/-- A clause with one number behind its keyword. -/
structure NumberFormed (keyword : String) (clause : WrittenClause) : Prop where
  opened : clause.Opened [keyword]
  body : ∃ digits : String, clause.body = [digits] ∧ digits ≠ "" ∧
    (∀ c ∈ digits.toList, c.isDigit = true) ∧
    Nat.ofDigitChars 10 digits.toList 0 ≤ 18446744073709551615

/-- The words behind the opening, joined by single spaces. -/
def text (clause : WrittenClause) : String := " ".intercalate clause.body

/-- The parts of the body between commas and blanks. -/
def pieces (clause : WrittenClause) : List String := clause.body.flatMap Piece.commaPieces

/-- The number the digits of the body write. -/
def number (clause : WrittenClause) : UInt64 :=
  UInt64.ofNat (Nat.ofDigitChars 10 (clause.body.headD "").toList 0)

/-- A clause that is absent has no words. -/
theorem optionWords_none : optionWords none = [] := rfl

theorem optionWords_some (clause : WrittenClause) : optionWords (some clause) = clause.words := rfl

/-- A clause is opened by as many words as there are keywords. -/
theorem Opened.length {clause : WrittenClause} {keywords : List String}
    (h : clause.Opened keywords) : clause.opening.length = keywords.length :=
  List.Forall₂.length_eq h

/-- The words determine a clause, once it is known which keywords open it and what follows. -/
theorem optionWords_inj {clause clause' : Option WrittenClause} {keyword : String}
    {openers rest rest' : List String} (h : ∀ c ∈ clause, c.Opened (keyword :: openers))
    (h' : ∀ c ∈ clause', c.Opened (keyword :: openers)) (hrest : rest = rest')
    (hwords : optionWords clause ++ rest = optionWords clause' ++ rest') : clause = clause' := by
  subst hrest
  have heq := List.append_cancel_right hwords
  have hne : ∀ c : WrittenClause, c.Opened (keyword :: openers) → c.words ≠ [] := by
    intro c hc hnil
    have hlen := hc.length
    rw [words, List.append_eq_nil_iff] at hnil
    simp [hnil.1] at hlen
  cases clause with
  | none =>
    cases clause' with
    | none => rfl
    | some c' => exact absurd heq.symm (hne c' (h' c' rfl))
  | some c =>
    cases clause' with
    | none => exact absurd heq (hne c (h c rfl))
    | some c' =>
      have hlen := (h c rfl).length.trans (h' c' rfl).length.symm
      obtain ⟨opening, body⟩ := c
      obtain ⟨opening', body'⟩ := c'
      obtain ⟨rfl, rfl⟩ := List.append_inj heq hlen
      rfl

end WrittenClause

/-! ## 2. Written sources

`FROM HEXAD id`, `FROM STORE name` and `FROM FEDERATION pattern`, the last with a drift policy or
without.  The policy is a clause like those behind the source, with one operand for a body. -/

inductive SourceKind where
  | hexad
  | store
  | federation
  deriving DecidableEq

def SourceKind.keyword : SourceKind → String
  | hexad => "HEXAD"
  | store => "STORE"
  | federation => "FEDERATION"

/-- A FROM clause as it is written: FROM and the kind, the operand, and for a federation the drift
policy with the two words ahead of it. -/
structure WrittenSource where
  kind : SourceKind
  /-- FROM and the word for the kind -/
  opening : List String
  /-- what is read: an identifier, a name or a pattern -/
  operand : String
  /-- the policy, with the words WITH and DRIFT -/
  drift : Option WrittenClause

namespace WrittenSource

def words (written : WrittenSource) : List String :=
  written.opening ++ written.operand :: WrittenClause.optionWords written.drift

def source (written : WrittenSource) : Source :=
  match written.kind with
  | .hexad => .hexad written.operand
  | .store => .store written.operand
  | .federation =>
    .federation written.operand (written.drift.map fun clause => Text.upper clause.text)

/-- `WITH DRIFT policy`. -/
structure DriftFormed (clause : WrittenClause) : Prop where
  opened : clause.Opened ["WITH", "DRIFT"]
  body : ∃ policy, clause.body = [policy] ∧ Text.isAnyOf policy Rule.clauseKeywords = false

structure WellFormed (written : WrittenSource) : Prop where
  opened : (⟨written.opening, []⟩ : WrittenClause).Opened ["FROM", written.kind.keyword]
  operand : Text.isAnyOf written.operand Rule.clauseKeywords = false
  drift : ∀ clause ∈ written.drift, written.kind = .federation ∧ DriftFormed clause

end WrittenSource

/-! ## 3. Written queries

The nine parts in their order.  The functions `fromLimit` to `afterSource` are the words from a
part on, which is what a rule has ahead of it when it starts. -/

/-- A token by its text alone. -/
def Token.ofWord (word : String) : Token := ⟨word, 0, 0⟩

/-- The pieces of a SELECT list, by the words it is written with. -/
def selectTexts (words : List String) : List String :=
  (SelectPiece.ofTokens (words.map Token.ofWord)).map (·.text)

/-- The words of a query, divided into its clauses. -/
structure WrittenQuery where
  select : WrittenClause
  source : WrittenSource
  filter : Option WrittenClause
  groupBy : Option WrittenClause
  having : Option WrittenClause
  proof : Option WrittenChain
  orderBy : Option WrittenClause
  limit : Option WrittenClause
  offset : Option WrittenClause

namespace WrittenQuery

/-- The words from the LIMIT on. -/
def fromLimit (written : WrittenQuery) : List String :=
  WrittenClause.optionWords written.limit ++ WrittenClause.optionWords written.offset

/-- The words from the ORDER BY on. -/
def fromOrder (written : WrittenQuery) : List String :=
  WrittenClause.optionWords written.orderBy ++ written.fromLimit

/-- The words from the PROOF on. -/
def fromProof (written : WrittenQuery) : List String :=
  WrittenChain.optionWords written.proof ++ written.fromOrder

/-- The words from the HAVING on. -/
def fromHaving (written : WrittenQuery) : List String :=
  WrittenClause.optionWords written.having ++ written.fromProof

/-- The words from the GROUP BY on. -/
def fromGroup (written : WrittenQuery) : List String :=
  WrittenClause.optionWords written.groupBy ++ written.fromHaving

/-- The words behind the source. -/
def afterSource (written : WrittenQuery) : List String :=
  WrittenClause.optionWords written.filter ++ written.fromGroup

/-- All the words. -/
def words (written : WrittenQuery) : List String :=
  written.select.words ++ (written.source.words ++ written.afterSource)

/-- The clause grammar. -/
structure WellFormed (config : Config) (written : WrittenQuery) : Prop where
  opened : written.select.Opened ["SELECT"]
  select_ne : written.select.body ≠ []
  select_from : ∀ word ∈ written.select.body, Text.sameLetters word "FROM" = false
  select_strict : config.mode = .strict → ∀ piece ∈ selectTexts written.select.body,
    SelectItem.parse? config.registry piece ≠ none
  source : written.source.WellFormed
  filter : ∀ clause ∈ written.filter, clause.SpanFormed ["WHERE"] Rule.filterStops
  groupBy : ∀ clause ∈ written.groupBy, clause.SpanFormed ["GROUP", "BY"] Rule.groupStops
  having : ∀ clause ∈ written.having, clause.SpanFormed ["HAVING"] Rule.havingStops
  proof : ∀ chain ∈ written.proof, chain.WellFormed
  orderBy : ∀ clause ∈ written.orderBy, clause.SpanFormed ["ORDER", "BY"] Rule.orderStops
  limit : ∀ clause ∈ written.limit, clause.NumberFormed "LIMIT"
  offset : ∀ clause ∈ written.offset, clause.NumberFormed "OFFSET"

/-- What the parts say, each field by its own part. -/
def query (registry : Registry) (written : WrittenQuery) : Query where
  select := SelectList.collect
    ((selectTexts written.select.body).filterMap (SelectItem.parse? registry))
  source := written.source.source
  filter := written.filter.map WrittenClause.text
  groupBy := (written.groupBy.map fun clause => clause.pieces.filterMap Piece.projection?).getD []
  having := written.having.map WrittenClause.text
  proof := WrittenChain.optionSpecs written.proof
  orderBy := (written.orderBy.map fun clause => orderItems none clause.pieces).getD []
  limit := written.limit.map WrittenClause.number
  offset := written.offset.map WrittenClause.number

end WrittenQuery

/-! ## 4. What may follow a clause

A clause that captures words ends at the end of the text or at a stop word, so the words behind a
clause have to be known by their first. -/

/-- The words are at their end or go on with one of these keywords. -/
def LedBy (keywords : List String) (words : List String) : Prop :=
  ∀ word, words.head? = some word → ∃ keyword ∈ keywords, Text.sameLetters word keyword = true

/-- The end of the text is always in order. -/
theorem ledBy_nil (keywords : List String) : LedBy keywords [] := by
  intro word hword
  simp at hword

/-- What is the same for all the keywords is so for the next word. -/
theorem LedBy.head_eq {keywords words : List String} (h : LedBy keywords words) {other : String}
    {b : Bool} (hother : ∀ keyword ∈ keywords, Text.sameLetters keyword other = b) :
    ∀ word, words.head? = some word → Text.sameLetters word other = b := by
  intro word hword
  obtain ⟨keyword, hk, hsame⟩ := h word hword
  exact Text.sameLetters_of hsame (hother keyword hk)

/-- If all of them are stop words, a capture stops there. -/
theorem LedBy.stops {keywords words stops : List String} (h : LedBy keywords words)
    (hstops : ∀ keyword ∈ keywords, Text.isAnyOf keyword stops = true) :
    ∀ word, words.head? = some word → Text.isAnyOf word stops = true := by
  intro word hword
  obtain ⟨keyword, hk, hsame⟩ := h word hword
  exact Text.isAnyOf_of hsame (hstops keyword hk)

/-- A clause starts with its first keyword. -/
theorem WrittenClause.Opened.exists_cons {clause : WrittenClause} {keyword : String}
    {keywords : List String} (h : clause.Opened (keyword :: keywords)) :
    ∃ word tail, Text.sameLetters word keyword = true ∧ clause.words = word :: tail := by
  obtain ⟨opening, body⟩ := clause
  cases h with
  | cons hword htail => exact ⟨_, _, hword, rfl⟩

/-- A clause with one keyword has one word for it. -/
theorem WrittenClause.Opened.eq_singleton {clause : WrittenClause} {keyword : String}
    (h : clause.Opened [keyword]) :
    ∃ word, clause.opening = [word] ∧ Text.sameLetters word keyword = true := by
  obtain ⟨opening, body⟩ := clause
  cases h with
  | cons hword htail =>
    cases htail
    exact ⟨_, rfl, hword⟩

/-- A clause with two keywords has two words for them. -/
theorem WrittenClause.Opened.eq_pair {clause : WrittenClause} {keyword second : String}
    (h : clause.Opened [keyword, second]) :
    ∃ word next, clause.opening = [word, next] ∧ Text.sameLetters word keyword = true ∧
      Text.sameLetters next second = true := by
  obtain ⟨opening, body⟩ := clause
  cases h with
  | cons hword htail =>
    cases htail with
    | cons hnext htail =>
      cases htail
      exact ⟨_, _, rfl, hword, hnext⟩

/-- A clause in front of the words adds its keyword to those they can go on with. -/
theorem LedBy.option {keyword : String} {openers keywords words : List String}
    {clause : Option WrittenClause} (h : LedBy keywords words)
    (hclause : ∀ c ∈ clause, c.Opened (keyword :: openers)) :
    LedBy (keyword :: keywords) (WrittenClause.optionWords clause ++ words) := by
  intro word hword
  cases clause with
  | none =>
    obtain ⟨k, hk, hsame⟩ := h word hword
    exact ⟨k, List.mem_cons_of_mem _ hk, hsame⟩
  | some c =>
    obtain ⟨first, tail, hfirst, hwords⟩ := (hclause c rfl).exists_cons
    rw [WrittenClause.optionWords_some, hwords] at hword
    simp only [List.cons_append, List.head?_cons, Option.some.injEq] at hword
    exact ⟨keyword, List.mem_cons_self, hword ▸ hfirst⟩

/-- The same for a PROOF clause. -/
theorem LedBy.proof {keywords words : List String} {chain : Option WrittenChain}
    (h : LedBy keywords words)
    (hchain : ∀ c ∈ chain, Text.sameLetters c.opening "PROOF" = true) :
    LedBy ("PROOF" :: keywords) (WrittenChain.optionWords chain ++ words) := by
  intro word hword
  cases chain with
  | none =>
    obtain ⟨k, hk, hsame⟩ := h word hword
    exact ⟨k, List.mem_cons_of_mem _ hk, hsame⟩
  | some c =>
    have : c.opening = word := by
      simpa [WrittenChain.optionWords, WrittenChain.words] using hword
    exact ⟨"PROOF", List.mem_cons_self, this ▸ hchain c rfl⟩

namespace WrittenQuery.WellFormed

variable {config : Config} {written : WrittenQuery}

/-- From the back: only an OFFSET may be left. -/
theorem ledBy_offset (h : written.WellFormed config) :
    LedBy ["OFFSET"] (WrittenClause.optionWords written.offset) := by
  have := (ledBy_nil []).option fun c hc => (h.offset c hc).opened
  rwa [List.append_nil] at this

theorem ledBy_limit (h : written.WellFormed config) : LedBy ["LIMIT", "OFFSET"] written.fromLimit :=
  h.ledBy_offset.option fun c hc => (h.limit c hc).opened

theorem ledBy_order (h : written.WellFormed config) :
    LedBy ["ORDER", "LIMIT", "OFFSET"] written.fromOrder :=
  h.ledBy_limit.option fun c hc => (h.orderBy c hc).opened

theorem ledBy_proof (h : written.WellFormed config) :
    LedBy ["PROOF", "ORDER", "LIMIT", "OFFSET"] written.fromProof :=
  h.ledBy_order.proof fun c hc => (h.proof c hc).opening

theorem ledBy_having (h : written.WellFormed config) :
    LedBy ["HAVING", "PROOF", "ORDER", "LIMIT", "OFFSET"] written.fromHaving :=
  h.ledBy_proof.option fun c hc => (h.having c hc).opened

theorem ledBy_group (h : written.WellFormed config) :
    LedBy ["GROUP", "HAVING", "PROOF", "ORDER", "LIMIT", "OFFSET"] written.fromGroup :=
  h.ledBy_having.option fun c hc => (h.groupBy c hc).opened

/-- And behind the source any clause but SELECT and FROM. -/
theorem ledBy_afterSource (h : written.WellFormed config) :
    LedBy ["WHERE", "GROUP", "HAVING", "PROOF", "ORDER", "LIMIT", "OFFSET"]
      written.afterSource :=
  h.ledBy_group.option fun c hc => (h.filter c hc).opened

theorem ledBy_source (h : written.WellFormed config) (rest : List String) :
    LedBy ["FROM"] (written.source.words ++ rest) := by
  obtain ⟨from_, kind, hopening, hfrom, -⟩ := h.source.opened.eq_pair
  intro word hword
  refine ⟨"FROM", List.mem_cons_self, ?_⟩
  have : from_ = word := by
    simpa [WrittenSource.words, show written.source.opening = [from_, kind] from hopening]
      using hword
  exact this ▸ hfrom

end WrittenQuery.WellFormed

/-! ## 5. Clauses behind a keyword

`WHERE` and `HAVING` capture a text, `GROUP BY` and `ORDER BY` a list of pieces.  The two members
of each pair differ in their stop words and in what is made of the capture, so each pair is one
rule with these as parameters. -/

namespace Rule

variable {α : Type}

/-- A clause that may be absent is read by its body. -/
theorem reads_optionally {keyword : String} {rule : Rule α} {value : WrittenClause → α}
    {clause : Option WrittenClause} {rest : List String}
    (hclause : ∀ c ∈ clause, ∃ word tail, Text.sameLetters word keyword = true ∧
      c.words = word :: tail ∧ Reads rule (tail ++ rest) (· = value c) rest)
    (hrest : ∀ word, rest.head? = some word → Text.sameLetters word keyword = false) :
    Reads (optionally keyword rule) (WrittenClause.optionWords clause ++ rest)
      (· = clause.map value) rest := by
  cases clause with
  | none =>
    refine Reads.bind (reads_skipKeyword_absent hrest) ?_
    rintro _ rfl
    exact reads_pure none rest
  | some c =>
    obtain ⟨word, tail, hword, hwords, hrule⟩ := hclause c rfl
    rw [WrittenClause.optionWords_some, hwords]
    refine Reads.bind (reads_skipKeyword hword (tail ++ rest)) ?_
    rintro _ rfl
    refine Reads.bind hrule ?_
    rintro _ rfl
    exact reads_pure _ rest

/-- What was read behind a keyword is a clause, or the keyword was not there. -/
theorem optionally_eq_ok {keyword : String} {rule : Rule α} {value : WrittenClause → α}
    {Formed : WrittenClause → Prop} {cursor rest : Cursor} {found : Option α}
    (hrule : ∀ word (mid : Cursor) a, Text.sameLetters word keyword = true →
      (rule mid).result = .ok (a, rest) →
        ∃ c : WrittenClause, Formed c ∧ value c = a ∧ word :: mid.words = c.words ++ rest.words)
    (h : (optionally keyword rule cursor).result = .ok (found, rest)) :
    ∃ clause : Option WrittenClause, (∀ c ∈ clause, Formed c) ∧ clause.map value = found ∧
      cursor.words = WrittenClause.optionWords clause ++ rest.words := by
  obtain ⟨skipped, mid, hskip, hfound⟩ := bind_eq_ok.mp h
  rcases skipKeyword_eq_ok hskip with ⟨rfl, word, hword, hnext⟩ | ⟨rfl, rfl⟩
  · rw [if_pos rfl] at hfound
    obtain ⟨a, mid', hbody, hfound⟩ := bind_eq_ok.mp hfound
    simp only [pure_result, Except.ok.injEq, Prod.mk.injEq] at hfound
    obtain ⟨rfl, rfl⟩ := hfound
    obtain ⟨c, hformed, rfl, hwords⟩ := hrule word mid a hword hbody
    refine ⟨some c, ?_, rfl, by rw [hnext, hwords]; rfl⟩
    intro c' hc'
    obtain rfl : c = c' := by simpa using hc'
    exact hformed
  · rw [if_neg (by simp)] at hfound
    simp only [pure_result, Except.ok.injEq, Prod.mk.injEq] at hfound
    obtain ⟨rfl, rfl⟩ := hfound
    exact ⟨none, by simp, rfl, rfl⟩

/-- The pieces of captured tokens are those of their words. -/
theorem spanPieces_eq {tokens : List Token} {words : List String}
    (h : tokens.map (·.text) = words) : spanPieces tokens = words.flatMap Piece.commaPieces := by
  rw [spanPieces, ← h, List.flatMap_map]

/-- What was taken are the words ahead of the stop word. -/
theorem takeUntil_words {stops : List String} {cursor rest : Cursor} {taken : List Token}
    (h : (takeUntil stops cursor).result = .ok (taken, rest)) :
    cursor.words = taken.map (·.text) ++ rest.words ∧
      ∀ word ∈ taken.map (·.text), Text.isAnyOf word stops = false := by
  obtain ⟨htokens, hstops, -⟩ := takeUntil_eq_ok h
  refine ⟨by rw [Cursor.words, htokens, List.map_append]; rfl, ?_⟩
  intro word hword
  obtain ⟨t, ht, rfl⟩ := List.mem_map.mp hword
  exact hstops t ht

/-- A keyword that was read is a word that spells it. -/
theorem keyword_words {keyword : String} {cursor rest : Cursor} {t : Token}
    (h : (Rule.keyword keyword cursor).result = .ok (t, rest)) :
    Text.sameLetters t.text keyword = true ∧ cursor.words = t.text :: rest.words := by
  obtain ⟨htokens, -, htest⟩ := takeIf_eq_ok.mp h
  exact ⟨htest, by rw [Cursor.words, htokens]; rfl⟩

/-- An operand that was read is a word that is no clause keyword. -/
theorem operand_words {expected : String} {cursor rest : Cursor} {t : Token}
    (h : (operand expected cursor).result = .ok (t, rest)) :
    Text.isAnyOf t.text clauseKeywords = false ∧ cursor.words = t.text :: rest.words := by
  obtain ⟨htokens, -, htest⟩ := takeIf_eq_ok.mp h
  exact ⟨by simpa using htest, by rw [Cursor.words, htokens]; rfl⟩

/-- `WHERE text` and `HAVING text`. -/
theorem reads_rawClause {keyword : String} {stops rest keywords : List String}
    {clause : Option WrittenClause} (hclause : ∀ c ∈ clause, c.SpanFormed [keyword] stops)
    (hrest : LedBy keywords rest) (hstops : ∀ k ∈ keywords, Text.isAnyOf k stops = true)
    (hapart : ∀ k ∈ keywords, Text.sameLetters k keyword = false) :
    Reads (optionally keyword (rawText stops)) (WrittenClause.optionWords clause ++ rest)
      (· = clause.map WrittenClause.text) rest := by
  refine reads_optionally ?_ (hrest.head_eq hapart)
  rintro ⟨opening, body⟩ hc
  obtain ⟨hopened, hbody⟩ := hclause _ hc
  obtain ⟨word, rfl, hword⟩ := hopened.eq_singleton
  refine ⟨word, body, hword, rfl, ?_⟩
  refine Reads.bind (reads_takeUntil hbody (hrest.stops hstops)) ?_
  rintro tokens htokens
  refine (reads_pure _ rest).weaken ?_
  rintro _ rfl
  rw [htokens]
  rfl

/-- What was read as a captured text is a clause with no stop word in it. -/
theorem rawClause_eq_ok {keyword : String} {stops : List String} {cursor rest : Cursor}
    {found : Option String}
    (h : (optionally keyword (rawText stops) cursor).result = .ok (found, rest)) :
    ∃ clause : Option WrittenClause, (∀ c ∈ clause, c.SpanFormed [keyword] stops) ∧
      clause.map WrittenClause.text = found ∧
      cursor.words = WrittenClause.optionWords clause ++ rest.words := by
  refine optionally_eq_ok ?_ h
  intro word mid text hword hbody
  obtain ⟨tokens, c₁, htake, hbody⟩ := bind_eq_ok.mp hbody
  simp only [pure_result, Except.ok.injEq, Prod.mk.injEq] at hbody
  obtain ⟨rfl, rfl⟩ := hbody
  obtain ⟨hwords, hstops⟩ := takeUntil_words htake
  refine ⟨⟨[word], tokens.map (·.text)⟩, ⟨?_, hstops⟩, rfl, by rw [hwords]; rfl⟩
  exact List.Forall₂.cons hword List.Forall₂.nil

/-- The word BY and pieces up to a stop word, which a function makes something of. -/
def listFields (stops : List String) (events : List String → List Event)
    (make : List String → α) : Rule α := do
  let _ ← Rule.keyword "BY"
  let pieces := spanPieces (← takeUntil stops)
  note (events pieces)
  return make pieces

/-- GROUP BY makes the fields of its pieces, and notes the pieces that are none. -/
theorem groupFields_eq : groupFields = listFields groupStops
    (fun pieces => (pieces.filter fun piece => (Piece.projection? piece).isNone).map
      .skippedGroupItem)
    (fun pieces => pieces.filterMap Piece.projection?) := rfl

/-- ORDER BY makes items of its pieces, and notes the pieces that are no part of one. -/
theorem orderFields_eq : orderFields = listFields orderStops
    (fun pieces => (pieces.filter fun piece => !isOrderPiece piece).map .skippedOrderItem)
    (orderItems none) := rfl

/-- `GROUP BY fields` and `ORDER BY fields`. -/
theorem reads_listClause {keyword : String} {stops rest keywords : List String}
    {events : List String → List Event} {make : List String → α} {clause : Option WrittenClause}
    (hclause : ∀ c ∈ clause, c.SpanFormed [keyword, "BY"] stops)
    (hrest : LedBy keywords rest) (hstops : ∀ k ∈ keywords, Text.isAnyOf k stops = true)
    (hapart : ∀ k ∈ keywords, Text.sameLetters k keyword = false) :
    Reads (optionally keyword (listFields stops events make))
      (WrittenClause.optionWords clause ++ rest) (· = clause.map fun c => make c.pieces) rest := by
  refine reads_optionally ?_ (hrest.head_eq hapart)
  rintro ⟨opening, body⟩ hc
  obtain ⟨hopened, hbody⟩ := hclause _ hc
  obtain ⟨word, by_, rfl, hword, hby⟩ := hopened.eq_pair
  refine ⟨word, by_ :: body, hword, rfl, ?_⟩
  refine Reads.bind (reads_keyword hby (body ++ rest)) fun _ _ => ?_
  refine Reads.bind (reads_takeUntil hbody (hrest.stops hstops)) ?_
  intro tokens htokens
  refine Reads.bind (reads_note _ rest) fun _ _ => ?_
  rw [spanPieces_eq htokens]
  exact reads_pure _ rest

/-- What was read as a list clause is one, and the value is made of its pieces. -/
theorem listClause_eq_ok {keyword : String} {stops : List String}
    {events : List String → List Event} {make : List String → α} {cursor rest : Cursor}
    {found : Option α}
    (h : (optionally keyword (listFields stops events make) cursor).result = .ok (found, rest)) :
    ∃ clause : Option WrittenClause, (∀ c ∈ clause, c.SpanFormed [keyword, "BY"] stops) ∧
      clause.map (fun c => make c.pieces) = found ∧
      cursor.words = WrittenClause.optionWords clause ++ rest.words := by
  refine optionally_eq_ok ?_ h
  intro word mid value hword hbody
  obtain ⟨by_, c₁, hby, hbody⟩ := bind_eq_ok.mp hbody
  obtain ⟨tokens, c₂, htake, hbody⟩ := bind_eq_ok.mp hbody
  obtain ⟨_, c₃, hnote, hbody⟩ := bind_eq_ok.mp hbody
  simp only [note_result, Except.ok.injEq, Prod.mk.injEq] at hnote
  obtain ⟨-, rfl⟩ := hnote
  simp only [pure_result, Except.ok.injEq, Prod.mk.injEq] at hbody
  obtain ⟨rfl, rfl⟩ := hbody
  obtain ⟨hbyWord, hmid⟩ := keyword_words hby
  obtain ⟨hwords, hstops⟩ := takeUntil_words htake
  refine ⟨⟨[word, by_.text], tokens.map (·.text)⟩, ⟨?_, hstops⟩, ?_, by rw [hmid, hwords]; rfl⟩
  · exact List.Forall₂.cons hword (List.Forall₂.cons hbyWord List.Forall₂.nil)
  · rw [spanPieces_eq rfl]
    rfl

/-! ## 6. Numbers

Digits and nothing else, up to the largest number of 64 bits; leading zeros do not matter. -/

end Rule

/-- The numbers are the strings of digits below the bound. -/
theorem Piece.unsigned?_eq_some {text : String} {n : UInt64} :
    unsigned? text = some n ↔
      text ≠ "" ∧ (∀ c ∈ text.toList, c.isDigit = true) ∧
        Nat.ofDigitChars 10 text.toList 0 ≤ 18446744073709551615 ∧
        UInt64.ofNat (Nat.ofDigitChars 10 text.toList 0) = n := by
  have hsize : ∀ v : Nat, v < UInt64.size ↔ v ≤ 18446744073709551615 := fun v => by
    rw [show UInt64.size = 18446744073709551616 from rfl]
    omega
  have hne : text.toList ≠ [] ↔ text ≠ "" := not_congr String.toList_eq_nil_iff
  unfold unsigned?
  by_cases hdigits : text.toList ≠ [] ∧ (text.toList.all Char.isDigit) = true
  · rw [if_pos hdigits]
    have hall := List.all_eq_true.mp hdigits.2
    simp only [hsize]
    constructor
    · intro h
      split at h
      · next hle => exact ⟨hne.mp hdigits.1, hall, hle, by simpa using h⟩
      · exact absurd h (by simp)
    · rintro ⟨-, -, hle, rfl⟩
      rw [if_pos hle]
  · rw [if_neg hdigits]
    constructor
    · intro h
      exact absurd h (by simp)
    · rintro ⟨hnil, hall, -, -⟩
      exact absurd ⟨hne.mpr hnil, List.all_eq_true.mpr hall⟩ hdigits

/-- The digits of a well-formed clause are read as its number. -/
theorem WrittenClause.NumberFormed.unsigned? {keyword digits : String} {opening : List String}
    (h : NumberFormed keyword ⟨opening, [digits]⟩) :
    Piece.unsigned? digits = some (number ⟨opening, [digits]⟩) := by
  obtain ⟨digits', hbody, hne, hall, hle⟩ := h.body
  obtain rfl : digits = digits' := by simpa using hbody
  exact Piece.unsigned?_eq_some.mpr ⟨hne, hall, hle, rfl⟩

namespace Rule

/-- `LIMIT n` and `OFFSET n`. -/
theorem reads_numberClause {keyword expected : String} {rest keywords : List String}
    {clause : Option WrittenClause} (hclause : ∀ c ∈ clause, c.NumberFormed keyword)
    (hrest : LedBy keywords rest) (hapart : ∀ k ∈ keywords, Text.sameLetters k keyword = false) :
    Reads (optionally keyword (number expected)) (WrittenClause.optionWords clause ++ rest)
      (· = clause.map WrittenClause.number) rest := by
  refine reads_optionally ?_ (hrest.head_eq hapart)
  rintro ⟨opening, body⟩ hc
  have hformed := hclause _ hc
  obtain ⟨digits, rfl, -⟩ := hformed.body
  obtain ⟨word, rfl, hword⟩ := hformed.opened.eq_singleton
  refine ⟨word, [digits], hword, rfl, ?_⟩
  refine Reads.bind (reads_token expected digits rest) fun t ht => ?_
  rw [ht, hformed.unsigned?]
  exact reads_pure _ rest

/-- What was read as a number clause is one. -/
theorem numberClause_eq_ok {keyword expected : String} {cursor rest : Cursor}
    {found : Option UInt64}
    (h : (optionally keyword (number expected) cursor).result = .ok (found, rest)) :
    ∃ clause : Option WrittenClause, (∀ c ∈ clause, c.NumberFormed keyword) ∧
      clause.map WrittenClause.number = found ∧
      cursor.words = WrittenClause.optionWords clause ++ rest.words := by
  refine optionally_eq_ok ?_ h
  intro word mid n hword hbody
  obtain ⟨t, c₁, htoken, hbody⟩ := bind_eq_ok.mp hbody
  obtain ⟨htokens, -, -⟩ := takeIf_eq_ok.mp htoken
  cases hn : Piece.unsigned? t.text with
  | none => simp [hn] at hbody
  | some value =>
    simp only [hn, pure_result, Except.ok.injEq, Prod.mk.injEq] at hbody
    obtain ⟨rfl, rfl⟩ := hbody
    obtain ⟨hne, hall, hle, hvalue⟩ := Piece.unsigned?_eq_some.mp hn
    refine ⟨⟨[word], [t.text]⟩, ⟨?_, t.text, rfl, hne, hall, hle⟩, hvalue, ?_⟩
    · exact List.Forall₂.cons hword List.Forall₂.nil
    · rw [Cursor.words, htokens]
      rfl

/-! ## 7. The source

The kind decides what is read behind it.  The operand of a federation may be followed by WITH, and
for the two other kinds a WITH there is left over and refused by what comes next. -/

/-- The drift policy is a clause that may be absent like the others. -/
theorem driftPolicy_eq : driftPolicy = optionally "WITH" (do
    let _ ← Rule.keyword "DRIFT"
    let policy ← operand "drift policy"
    return policy.upper) := by
  simp [driftPolicy, optionally]

/-- A drift policy is read, or its absence, if no WITH is next. -/
theorem reads_driftPolicy {drift : Option WrittenClause} {rest : List String}
    (hdrift : ∀ c ∈ drift, WrittenSource.DriftFormed c)
    (hrest : ∀ word, rest.head? = some word → Text.sameLetters word "WITH" = false) :
    Reads driftPolicy (WrittenClause.optionWords drift ++ rest)
      (· = drift.map fun c => Text.upper c.text) rest := by
  rw [driftPolicy_eq]
  refine reads_optionally ?_ hrest
  rintro ⟨opening, body⟩ hc
  obtain ⟨hopened, policy, rfl, hpolicy⟩ := hdrift _ hc
  obtain ⟨word, drift, rfl, hword, hdrift⟩ := hopened.eq_pair
  refine ⟨word, [drift, policy], hword, rfl, ?_⟩
  refine Reads.bind (reads_keyword hdrift _) fun _ _ => ?_
  refine Reads.bind (reads_operand hpolicy rest) ?_
  rintro t rfl
  exact reads_pure _ rest

/-- What was read as a drift policy is one. -/
theorem driftPolicy_eq_ok {cursor rest : Cursor} {found : Option String}
    (h : (driftPolicy cursor).result = .ok (found, rest)) :
    ∃ drift : Option WrittenClause, (∀ c ∈ drift, WrittenSource.DriftFormed c) ∧
      (drift.map fun c => Text.upper c.text) = found ∧
      cursor.words = WrittenClause.optionWords drift ++ rest.words := by
  rw [driftPolicy_eq] at h
  refine optionally_eq_ok ?_ h
  intro word mid policy hword hbody
  obtain ⟨t, c₁, hkeyword, hbody⟩ := bind_eq_ok.mp hbody
  obtain ⟨p, c₂, hoperand, hbody⟩ := bind_eq_ok.mp hbody
  simp only [pure_result, Except.ok.injEq, Prod.mk.injEq] at hbody
  obtain ⟨rfl, rfl⟩ := hbody
  obtain ⟨hdrift, hmid⟩ := keyword_words hkeyword
  obtain ⟨hpolicy, hleft⟩ := operand_words hoperand
  refine ⟨⟨[word, t.text], [p.text]⟩, ⟨?_, p.text, rfl, hpolicy⟩, rfl, by rw [hmid, hleft]; rfl⟩
  exact List.Forall₂.cons hword (List.Forall₂.cons hdrift List.Forall₂.nil)

/-- **A well-formed source is read**, if what follows does not read as its drift policy.  WITH is
looked at behind a federation only, but then it has to be followed by DRIFT and a policy, so no
clause may begin with it. -/
theorem reads_fromClause {written : WrittenSource} (h : written.WellFormed) {rest : List String}
    (hrest : ∀ word, rest.head? = some word → Text.sameLetters word "WITH" = false) :
    Reads fromClause (written.words ++ rest) (· = written.source) rest := by
  obtain ⟨kind, opening, operand, drift⟩ := written
  obtain ⟨hopened, hoperand, hdrift⟩ := h
  obtain ⟨from_, word, rfl, hfrom, hword⟩ := hopened.eq_pair
  refine Reads.bind (reads_keyword hfrom _) fun _ _ => ?_
  refine Reads.bind (reads_token "source kind" word _) fun t ht => ?_
  have hkind : ∀ other b, Text.sameLetters kind.keyword other = b → t.isKeyword other = b := by
    intro other b hother
    rw [Token.isKeyword, ht]
    exact Text.sameLetters_of hword hother
  have hnone : kind ≠ .federation → drift = none := by
    intro hne
    cases drift with
    | none => rfl
    | some clause => exact absurd (hdrift clause rfl).1 hne
  cases kind with
  | hexad =>
    obtain rfl := hnone (by simp)
    rw [hkind "HEXAD" true (by decide), if_pos rfl]
    refine Reads.bind (reads_operand hoperand rest) ?_
    rintro t rfl
    exact reads_pure _ rest
  | store =>
    obtain rfl := hnone (by simp)
    rw [hkind "HEXAD" false (by decide), hkind "STORE" true (by decide), if_neg (by simp),
      if_pos rfl]
    refine Reads.bind (reads_operand hoperand rest) ?_
    rintro t rfl
    exact reads_pure _ rest
  | federation =>
    rw [hkind "HEXAD" false (by decide), hkind "STORE" false (by decide),
      hkind "FEDERATION" true (by decide), if_neg (by simp), if_neg (by simp), if_pos rfl]
    refine Reads.bind (reads_operand hoperand _) ?_
    rintro t rfl
    refine Reads.bind (reads_driftPolicy (fun c hc => (hdrift c hc).2) hrest) ?_
    rintro _ rfl
    exact reads_pure _ rest

/-- A source whose kind takes nothing but an operand. -/
theorem plainSource_eq_ok (kind : SourceKind) {expected : String} {make : String → Source}
    {fromWord kindWord : String} {cursor rest : Cursor} {source : Source}
    (hfrom : Text.sameLetters fromWord "FROM" = true)
    (hkind : Text.sameLetters kindWord kind.keyword = true)
    (hmake : ∀ operand, make operand = WrittenSource.source ⟨kind, [], operand, none⟩)
    (h : ((do return make (← operand expected).text : Rule Source) cursor).result =
      .ok (source, rest)) :
    ∃ written : WrittenSource, written.WellFormed ∧ written.source = source ∧
      fromWord :: kindWord :: cursor.words = written.words ++ rest.words := by
  obtain ⟨t, c₁, hoperand, h⟩ := bind_eq_ok.mp h
  simp only [pure_result, Except.ok.injEq, Prod.mk.injEq] at h
  obtain ⟨rfl, rfl⟩ := h
  obtain ⟨hplain, hwords⟩ := operand_words hoperand
  refine ⟨⟨kind, [fromWord, kindWord], t.text, none⟩, ⟨?_, hplain, by simp⟩, ?_, ?_⟩
  · exact List.Forall₂.cons hfrom (List.Forall₂.cons hkind List.Forall₂.nil)
  · rw [hmake]
    cases kind <;> rfl
  · rw [hwords]
    rfl

/-- **What was read as a source is one.** -/
theorem fromClause_eq_ok {cursor rest : Cursor} {source : Source}
    (h : (fromClause cursor).result = .ok (source, rest)) :
    ∃ written : WrittenSource, written.WellFormed ∧ written.source = source ∧
      cursor.words = written.words ++ rest.words := by
  obtain ⟨from_, c₁, hfrom, h⟩ := bind_eq_ok.mp h
  obtain ⟨kind, c₂, hkind, h⟩ := bind_eq_ok.mp h
  obtain ⟨hfromWord, hcursor⟩ := keyword_words hfrom
  have hnext : c₁.words = kind.text :: c₂.words := by
    rw [Cursor.words, (takeIf_eq_ok.mp hkind).1]
    rfl
  rw [hcursor, hnext]
  -- the second word says which source it is; the first two are read as in a federation, but for the
  -- policy
  split at h
  · next hk => exact plainSource_eq_ok .hexad hfromWord hk (fun _ => rfl) h
  split at h
  · next hk => exact plainSource_eq_ok .store hfromWord hk (fun _ => rfl) h
  split at h
  · next hk =>
    obtain ⟨pattern, c₃, hoperand, h⟩ := bind_eq_ok.mp h
    obtain ⟨policy, c₄, hpolicy, h⟩ := bind_eq_ok.mp h
    simp only [pure_result, Except.ok.injEq, Prod.mk.injEq] at h
    obtain ⟨rfl, rfl⟩ := h
    obtain ⟨hplain, hwords⟩ := operand_words hoperand
    obtain ⟨drift, hdrift, rfl, hleft⟩ := driftPolicy_eq_ok hpolicy
    refine ⟨⟨.federation, [from_.text, kind.text], pattern.text, drift⟩,
      ⟨?_, hplain, fun c hc => ⟨rfl, hdrift c hc⟩⟩, rfl, by rw [hwords, hleft]; simp [WrittenSource.words]⟩
    exact List.Forall₂.cons hfromWord (List.Forall₂.cons hk List.Forall₂.nil)
  · exact absurd h (by simp)

/-! ## 8. The SELECT list

Its words end at the first FROM, and a list without any is refused.  What the words are cut into is
a function of them (`selectTexts`), so positions and events are dropped first. -/

end Rule

namespace SelectPiece

/-- Pieces keep their texts when tokens do. -/
theorem map_text_ofTokens : ∀ tokens : List Token,
    (ofTokens tokens).map (·.text) = selectTexts (tokens.map (·.text))
  | [] => rfl
  | [t] => by simp [selectTexts, ofTokens, ofToken, Token.ofWord, Function.comp_def]
  | t :: next :: rest => by
    have ih := map_text_ofTokens rest
    have ih' := map_text_ofTokens (next :: rest)
    have hawaits : awaitsOperand (Token.ofWord t.text) = awaitsOperand t := rfl
    have hopens : Rule.opensGroup (Token.ofWord next.text) = Rule.opensGroup next := rfl
    simp only [selectTexts, List.map_cons] at ih ih' ⊢
    rw [ofTokens, ofTokens, hawaits, hopens]
    by_cases hcall : (awaitsOperand t && Rule.opensGroup next) = true
    · rw [if_pos hcall, if_pos hcall, List.map_append, List.map_append, ih]
      simp [ofCall, Token.ofWord, Function.comp_def]
    · rw [if_neg hcall, if_neg hcall, List.map_append, List.map_append, ih']
      simp [ofToken, Token.ofWord, Function.comp_def]

/-- What is collected depends on the texts of the pieces. -/
theorem collect_eq (registry : Registry) (pieces : List SelectPiece) :
    collect registry pieces =
      SelectList.collect ((pieces.map (·.text)).filterMap (SelectItem.parse? registry)) := by
  rw [collect, List.filterMap_map]
  rfl

/-- And so does whether all are recognised. -/
theorem unrecognised_eq_nil {registry : Registry} {pieces : List SelectPiece} :
    unrecognised registry pieces = [] ↔
      ∀ piece ∈ pieces.map (·.text), SelectItem.parse? registry piece ≠ none := by
  simp [unrecognised, item?, Option.ne_none_iff_isSome]

end SelectPiece

namespace Rule

/-- Settling the pieces of a SELECT list takes no token, and fails on what a strict reading does
not recognise. -/
theorem selectItems_eq_ok {config : Config} {pieces : List SelectPiece} {cursor rest : Cursor}
    {list : SelectList} :
    (selectItems config pieces cursor).result = .ok (list, rest) ↔
      (config.mode = .strict → SelectPiece.unrecognised config.registry pieces = []) ∧
        list = SelectPiece.collect config.registry pieces ∧ rest = cursor := by
  have hpass : ∀ events events' found,
      ((do note events; note events'; return found : Rule SelectList) cursor).result =
        .ok (list, rest) ↔ list = found ∧ rest = cursor := by
    intro events events' found
    change Except.ok (found, cursor) = Except.ok (list, rest) ↔ _
    rw [Except.ok.injEq, Prod.mk.injEq, eq_comm (a := found), eq_comm (a := cursor)]
  unfold selectItems
  cases hstrange : SelectPiece.unrecognised config.registry pieces with
  | nil =>
    cases hmode : config.mode with
    | strict => simpa using hpass _ _ _
    | lenient => simpa using hpass _ _ _
  | cons piece more =>
    cases hmode : config.mode with
    | strict => simp
    | lenient => simpa using hpass _ _ _

/-- The first word of a SELECT list passes the look ahead. -/
theorem not_from_of_head? {body : List String} (hne : body ≠ [])
    (hbody : ∀ word ∈ body, Text.sameLetters word "FROM" = false) {rest : List String} (t : Token)
    (ht : (body ++ rest).head? = some t.text) : ¬ t.isKeyword "FROM" = true := by
  rw [List.head?_append_of_ne_nil _ hne] at ht
  rw [Token.isKeyword, hbody t.text (List.mem_of_mem_head? ht)]
  simp

/-- **A SELECT list is read** up to the FROM that ends it. -/
theorem reads_selectClause {config : Config} {select : WrittenClause} {rest : List String}
    (hopened : select.Opened ["SELECT"]) (hne : select.body ≠ [])
    (hbody : ∀ word ∈ select.body, Text.sameLetters word "FROM" = false)
    (hstrict : config.mode = .strict → ∀ piece ∈ selectTexts select.body,
      SelectItem.parse? config.registry piece ≠ none)
    (hrest : LedBy ["FROM"] rest) :
    Reads (selectClause config) (select.words ++ rest)
      (· = SelectList.collect
        ((selectTexts select.body).filterMap (SelectItem.parse? config.registry))) rest := by
  obtain ⟨opening, body⟩ := select
  obtain ⟨word, rfl, hword⟩ := hopened.eq_singleton
  refine Reads.bind (reads_keyword hword (body ++ rest)) fun _ _ => ?_
  refine Reads.lookahead (not_from_of_head? hne hbody) ?_
  refine Reads.bind (reads_takeUntil ?_ (hrest.stops (by decide))) ?_
  · intro w hw
    rw [Text.isAnyOf_singleton]
    exact hbody w hw
  · rintro tokens rfl cursor hc
    refine ⟨_, cursor, selectItems_eq_ok.mpr ⟨?_, rfl, rfl⟩, ?_, hc⟩
    · intro hmode
      rw [SelectPiece.unrecognised_eq_nil, SelectPiece.map_text_ofTokens]
      exact hstrict hmode
    · rw [SelectPiece.collect_eq, SelectPiece.map_text_ofTokens]

/-- **What was read as a SELECT list is one**, though it may be empty at the end of the input.
`select_clause` refuses a FROM that is next, and then takes what is there up to the next FROM; at
the end of the input there is nothing to take, and the FROM clause is refused after that. -/
theorem selectClause_eq_ok {config : Config} {cursor rest : Cursor} {list : SelectList}
    (h : (selectClause config cursor).result = .ok (list, rest)) :
    ∃ select : WrittenClause, select.Opened ["SELECT"] ∧
      (select.body = [] → rest.words = []) ∧
      (∀ word ∈ select.body, Text.sameLetters word "FROM" = false) ∧
      (config.mode = .strict → ∀ piece ∈ selectTexts select.body,
        SelectItem.parse? config.registry piece ≠ none) ∧
      SelectList.collect
        ((selectTexts select.body).filterMap (SelectItem.parse? config.registry)) = list ∧
      cursor.words = select.words ++ rest.words := by
  obtain ⟨t, c₁, hselect, h⟩ := bind_eq_ok.mp h
  obtain ⟨hnext, h⟩ := (lookahead_eq_ok fun _ _ => ⟨_, rfl⟩).mp h
  obtain ⟨tokens, c₂, htake, h⟩ := bind_eq_ok.mp h
  obtain ⟨hstrict, rfl, rfl⟩ := selectItems_eq_ok.mp h
  obtain ⟨hword, hcursor⟩ := keyword_words hselect
  obtain ⟨hleft, hstops⟩ := takeUntil_words htake
  refine ⟨⟨[t.text], tokens.map (·.text)⟩, ?_, ?_, ?_, ?_, ?_, ?_⟩
  · exact List.Forall₂.cons hword List.Forall₂.nil
  · -- the span is empty only if no word is left, because the next one is no FROM
    intro hnil
    obtain ⟨htokens, -, hfrom⟩ := takeUntil_eq_ok htake
    rw [List.map_eq_nil_iff.mp hnil, List.nil_append] at htokens
    cases hlist : rest.tokens with
    | nil => rw [Cursor.words, hlist]; rfl
    | cons next more =>
      have hstop := hfrom next (by rw [hlist]; rfl)
      rw [Text.isAnyOf_singleton] at hstop
      exact absurd hstop (hnext next (by rw [htokens, hlist]; rfl))
  · intro word hmem
    rw [← Text.isAnyOf_singleton]
    exact hstops word hmem
  · intro hmode
    rw [← SelectPiece.map_text_ofTokens]
    exact SelectPiece.unrecognised_eq_nil.mp (hstrict hmode)
  · rw [SelectPiece.collect_eq, SelectPiece.map_text_ofTokens]
  · rw [hcursor, hleft]
    rfl

/-! ## 9. Whole queries

The clauses in a row.  `ReadsClauses` has one field for each step of the rule, so that the proof of
`reads_query` is a walk along it. -/

/-- The clauses of a well-formed query are read one after the other; the statement says where each
of the readings ends. -/
structure ReadsClauses (config : Config) (demand : ProofDemand) (written : WrittenQuery) : Prop where
  select : Reads (selectClause config) written.words
    (· = (written.query config.registry).select) (written.source.words ++ written.afterSource)
  source : Reads fromClause (written.source.words ++ written.afterSource)
    (· = written.source.source) written.afterSource
  filter : Reads (optionally "WHERE" (rawText filterStops)) written.afterSource
    (· = written.filter.map WrittenClause.text) written.fromGroup
  groupBy : Reads (optionally "GROUP" groupFields) written.fromGroup
    (· = written.groupBy.map fun c => c.pieces.filterMap Piece.projection?) written.fromHaving
  having : Reads (optionally "HAVING" (rawText havingStops)) written.fromHaving
    (· = written.having.map WrittenClause.text) written.fromProof
  proof : Reads (proofClause demand) written.fromProof
    (· = WrittenChain.optionSpecs written.proof) written.fromOrder
  orderBy : Reads (optionally "ORDER" orderFields) written.fromOrder
    (· = written.orderBy.map fun c => orderItems none c.pieces) written.fromLimit
  limit : Reads (optionally "LIMIT" (number "LIMIT value")) written.fromLimit
    (· = written.limit.map WrittenClause.number) (WrittenClause.optionWords written.offset)
  offset : Reads (optionally "OFFSET" (number "OFFSET value"))
    (WrittenClause.optionWords written.offset) (· = written.offset.map WrittenClause.number) []

/-- Each clause is read up to the next, because the words from there on are led by the right
keywords. -/
theorem readsClauses {config : Config} {demand : ProofDemand} {written : WrittenQuery}
    (h : written.WellFormed config) (hdemand : demand.Admits written.proof) :
    ReadsClauses config demand written where
  select := reads_selectClause h.opened h.select_ne h.select_from h.select_strict (h.ledBy_source _)
  source := reads_fromClause h.source (h.ledBy_afterSource.head_eq (by decide))
  filter := reads_rawClause h.filter h.ledBy_group (by decide) (by decide)
  groupBy := by
    rw [groupFields_eq]
    exact reads_listClause h.groupBy h.ledBy_having (by decide) (by decide)
  having := reads_rawClause h.having h.ledBy_proof (by decide) (by decide)
  proof := reads_proofClause h.proof hdemand fun word hword =>
    ⟨h.ledBy_order.head_eq (by decide) word hword, h.ledBy_order.head_eq (by decide) word hword⟩
  orderBy := by
    rw [orderFields_eq]
    exact reads_listClause h.orderBy h.ledBy_limit (by decide) (by decide)
  limit := reads_numberClause h.limit h.ledBy_offset (by decide)
  offset := by
    rw [← List.append_nil (WrittenClause.optionWords written.offset)]
    exact reads_numberClause h.offset (ledBy_nil []) (by simp)

/-- **A well-formed query is read to its end**, where the demand admits its PROOF clause.  What
each clause is read in front of starts with none of the words that would make it longer. -/
theorem reads_query {config : Config} {demand : ProofDemand} {written : WrittenQuery}
    (h : written.WellFormed config) (hdemand : demand.Admits written.proof) :
    Reads (query config demand) written.words (· = written.query config.registry) [] := by
  have hreads := readsClauses h hdemand
  refine Reads.bind hreads.select ?_
  rintro _ rfl
  refine Reads.bind hreads.source ?_
  rintro _ rfl
  refine Reads.bind hreads.filter ?_
  rintro _ rfl
  refine Reads.bind hreads.groupBy ?_
  rintro _ rfl
  refine Reads.bind hreads.having ?_
  rintro _ rfl
  refine Reads.bind hreads.proof ?_
  rintro _ rfl
  refine Reads.bind hreads.orderBy ?_
  rintro _ rfl
  refine Reads.bind hreads.limit ?_
  rintro _ rfl
  refine Reads.bind hreads.offset ?_
  rintro _ rfl
  refine Reads.bind (reads_finish _) fun _ _ => ?_
  exact reads_pure _ []

/-- **What was read as a query is one that is well-formed.**  The words of the parts, one behind
the other, are those the cursor had. -/
theorem query_eq_ok {config : Config} {demand : ProofDemand} {cursor rest : Cursor} {q : Query}
    (hwords : ∀ w ∈ cursor.words, Text.IsWord w.toList)
    (h : (query config demand cursor).result = .ok (q, rest)) :
    ∃ written : WrittenQuery, written.WellFormed config ∧ demand.Admits written.proof ∧
      written.words = cursor.words ∧ written.query config.registry = q := by
  obtain ⟨list, c₁, hselect, h⟩ := bind_eq_ok.mp h
  obtain ⟨source, c₂, hsource, h⟩ := bind_eq_ok.mp h
  obtain ⟨filter, c₃, hfilter, h⟩ := bind_eq_ok.mp h
  obtain ⟨groupBy, c₄, hgroup, h⟩ := bind_eq_ok.mp h
  obtain ⟨having', c₅, hhaving, h⟩ := bind_eq_ok.mp h
  obtain ⟨proof, c₆, hproof, h⟩ := bind_eq_ok.mp h
  obtain ⟨orderBy, c₇, horder, h⟩ := bind_eq_ok.mp h
  obtain ⟨limit, c₈, hlimit, h⟩ := bind_eq_ok.mp h
  obtain ⟨offset, c₉, hoffset, h⟩ := bind_eq_ok.mp h
  obtain ⟨_, c₁₀, hfinish, h⟩ := bind_eq_ok.mp h
  simp only [pure_result, Except.ok.injEq, Prod.mk.injEq] at h
  obtain ⟨rfl, rfl⟩ := h
  obtain ⟨hend, rfl⟩ := finish_eq_ok hfinish
  obtain ⟨select, hopened, hempty, hfrom, hstrict, rfl, hw₀⟩ := selectClause_eq_ok hselect
  obtain ⟨from_, hfromFormed, rfl, hw₁⟩ := fromClause_eq_ok hsource
  obtain ⟨filter, hfilterFormed, rfl, hw₂⟩ := rawClause_eq_ok hfilter
  rw [groupFields_eq] at hgroup
  obtain ⟨groupBy, hgroupFormed, rfl, hw₃⟩ := listClause_eq_ok hgroup
  obtain ⟨having', hhavingFormed, rfl, hw₄⟩ := rawClause_eq_ok hhaving
  -- a proof type is a word of the text, which takes the words up to here being part of it
  have hleft : ∀ w ∈ c₅.words, Text.IsWord w.toList := by
    intro w hw
    refine hwords w ?_
    rw [hw₀, hw₁, hw₂, hw₃, hw₄]
    simp [hw]
  obtain ⟨proof, hproofFormed, hdemand, rfl, hw₅⟩ := proofClause_eq_ok hleft hproof
  rw [orderFields_eq] at horder
  obtain ⟨orderBy, horderFormed, rfl, hw₆⟩ := listClause_eq_ok horder
  obtain ⟨limit, hlimitFormed, rfl, hw₇⟩ := numberClause_eq_ok hlimit
  obtain ⟨offset, hoffsetFormed, rfl, hw₈⟩ := numberClause_eq_ok hoffset
  have hnil : c₁₀.words = [] := by rw [Cursor.words, hend]; rfl
  refine ⟨⟨select, from_, filter, groupBy, having', proof, orderBy, limit, offset⟩,
    ⟨hopened, ?_, hfrom, hstrict, hfromFormed, hfilterFormed, hgroupFormed, hhavingFormed,
      hproofFormed, horderFormed, hlimitFormed, hoffsetFormed⟩, hdemand, ?_, rfl⟩
  · intro hbody
    have hnone := hempty hbody
    rw [hw₁] at hnone
    simp [WrittenSource.words] at hnone
  · rw [hw₀, hw₁, hw₂, hw₃, hw₄, hw₅, hw₆, hw₇, hw₈, hnil, List.append_nil]
    rfl

end Rule

/-! ## 10. Readings of a whole text

From rules to results.  What a reading adds to its rule, an event and a count, is no part of the
result. -/

@[simp] theorem Outcome.accepted_result {α : Type} (outcome : Outcome α) (event : α → Event)
    (render : α → String) : (outcome.accepted event render).result = outcome.result := by
  rw [accepted, result_andThen]
  cases outcome.result <;> rfl

/-- A change of the value is one of the result. -/
theorem Outcome.map_result {α β : Type} (f : α → β) (outcome : Outcome α) :
    (f <$> outcome).result = outcome.result.map f := by
  change (outcome.andThen fun a => .ok (f a)).result = _
  rw [result_andThen]
  cases outcome.result <;> rfl

/-- A text is read from its first token, and where the reading ends is forgotten. -/
theorem Rule.run_result {α : Type} (rule : Rule α) (input : String) :
    (rule.run input).result = (rule (Cursor.ofText input)).result.map (·.1) := by
  rw [run, Outcome.result_andThen]
  cases (rule (Cursor.ofText input)).result <;> rfl

/-- What is refused by its words is refused as a text. -/
theorem Rule.Refuses.run {α : Type} {rule : Rule α} {input : String} {holds : ParseError → Prop}
    (h : Refuses rule (Text.words input) holds) :
    ∃ error, (rule.run input).result = .error error ∧ holds error := by
  obtain ⟨error, herror, hholds⟩ := h (Cursor.ofText input) (Cursor.words_ofText input)
  refine ⟨error, ?_, hholds⟩
  rw [run_result, herror]
  rfl

/-- A text that is read leaves a cursor somewhere. -/
theorem Rule.run_eq_ok {α : Type} {rule : Rule α} {input : String} {a : α} :
    (rule.run input).result = .ok a ↔
      ∃ rest, (rule (Cursor.ofText input)).result = .ok (a, rest) := by
  rw [run, Outcome.result_andThen]
  cases hr : (rule (Cursor.ofText input)).result with
  | error e => simp [Except.bind]
  | ok p => simp [Except.bind, Outcome.ok, Prod.ext_iff]

/-- **The queries are the well-formed ones**, under each demand. -/
theorem Rule.query_run_eq_ok_iff {config : Config} {demand : ProofDemand} {input : String}
    {q : Query} :
    ((query config demand).run input).result = .ok q ↔
      ∃ written : WrittenQuery, written.WellFormed config ∧ demand.Admits written.proof ∧
        written.words = (tokenize input).map (·.text) ∧ written.query config.registry = q := by
  rw [run_eq_ok]
  constructor
  · rintro ⟨rest, h⟩
    refine query_eq_ok (fun w hw => ?_) h
    rw [Cursor.words_ofText] at hw
    exact Text.isWord_of_mem_words hw
  · rintro ⟨written, hformed, hdemand, hwords, rfl⟩
    have hcursor : (Cursor.ofText input).words = written.words := hwords.symm
    obtain ⟨rest, hok, -⟩ := (reads_query hformed hdemand).result hcursor
    exact ⟨rest, hok⟩

/-! ## 11. Divisions

Uniqueness, part by part, and the statement for `parse_query`. -/

/-- The words determine a source, once it is known what source it is: then the number of its
words is known too. -/
theorem WrittenSource.WellFormed.eq_of_words {written other : WrittenSource}
    (h : written.WellFormed) (h' : other.WellFormed) (hsource : written.source = other.source)
    (hwords : written.words = other.words) : written = other := by
  obtain ⟨kind, opening, operand, drift⟩ := written
  obtain ⟨kind', opening', operand', drift'⟩ := other
  have hlen : opening.length = opening'.length :=
    h.opened.length.trans h'.opened.length.symm
  obtain ⟨rfl, hrest⟩ := List.append_inj hwords hlen
  obtain ⟨rfl, hdrift⟩ := List.cons.inj hrest
  obtain rfl : kind = kind' := by
    cases kind <;> cases kind' <;> first | rfl | cases hsource
  obtain rfl : drift = drift' := by
    refine WrittenClause.optionWords_inj (fun c hc => (h.drift c hc).2.opened)
      (fun c hc => (h'.drift c hc).2.opened) (Eq.refl []) ?_
    rw [List.append_nil, List.append_nil]
    exact hdrift
  rfl

/-- **Words divide in at most one way**: each part ends where the reading of it does.  Reading
the one and the other is reading the same words, so what is left behind each clause is the same;
and a part is determined by its words, the openings having a known length. -/
theorem WrittenQuery.WellFormed.unique {config : Config} {written other : WrittenQuery}
    (h : written.WellFormed config) (h' : other.WellFormed config)
    (hwords : written.words = other.words) : written = other := by
  have hreads : Rule.ReadsClauses config .optional written :=
    Rule.readsClauses h ⟨by simp, by simp⟩
  have hreads' : Rule.ReadsClauses config .optional other :=
    Rule.readsClauses h' ⟨by simp, by simp⟩
  have hsource := hreads.select.after_eq hreads'.select hwords
  have hafter := hreads.source.after_eq hreads'.source hsource
  have hgroup := hreads.filter.after_eq hreads'.filter hafter
  have hhaving := hreads.groupBy.after_eq hreads'.groupBy hgroup
  have hproof := hreads.having.after_eq hreads'.having hhaving
  have horder := hreads.proof.after_eq hreads'.proof hproof
  have hlimit := hreads.orderBy.after_eq hreads'.orderBy horder
  have hoffset := hreads.limit.after_eq hreads'.limit hlimit
  have hvalue : written.source.source = other.source.source :=
    ((hsource ▸ hreads.source).unique hreads'.source).1
  obtain ⟨select, source, filter, groupBy, having', proof, orderBy, limit, offset⟩ := written
  obtain ⟨select', source', filter', groupBy', having'', proof', orderBy', limit', offset'⟩ := other
  have eselect : some select = some select' :=
    WrittenClause.optionWords_inj (by simpa using h.opened) (by simpa using h'.opened) hsource hwords
  obtain rfl := Option.some.inj eselect
  obtain rfl := h.source.eq_of_words h'.source hvalue (by
    rw [hafter] at hsource
    exact List.append_cancel_right hsource)
  obtain rfl := WrittenClause.optionWords_inj (fun c hc => (h.filter c hc).opened)
    (fun c hc => (h'.filter c hc).opened) hgroup hafter
  obtain rfl := WrittenClause.optionWords_inj (fun c hc => (h.groupBy c hc).opened)
    (fun c hc => (h'.groupBy c hc).opened) hhaving hgroup
  obtain rfl := WrittenClause.optionWords_inj (fun c hc => (h.having c hc).opened)
    (fun c hc => (h'.having c hc).opened) hproof hhaving
  obtain rfl := WrittenChain.optionWords_inj h.proof h'.proof horder hproof
  obtain rfl := WrittenClause.optionWords_inj (fun c hc => (h.orderBy c hc).opened)
    (fun c hc => (h'.orderBy c hc).opened) hlimit horder
  obtain rfl := WrittenClause.optionWords_inj (fun c hc => (h.limit c hc).opened)
    (fun c hc => (h'.limit c hc).opened) hoffset hlimit
  obtain rfl := WrittenClause.optionWords_inj (fun c hc => (h.offset c hc).opened)
    (fun c hc => (h'.offset c hc).opened) (Eq.refl []) (by simpa using hoffset)
  rfl

/-- **The query grammar is sound and complete.**  A text is read as a query exactly if its words
divide into the clauses of one, the fields of the query are what the parts say, and the words of
a text divide in at most one way. -/
theorem parseQuery_eq_ok_iff (config : Config) (input : String) (q : Query) :
    ((parseQuery config input).result = .ok q ↔
      ∃ written : WrittenQuery, written.WellFormed config ∧
        written.words = (tokenize input).map (·.text) ∧ written.query config.registry = q) ∧
    ∀ written written' : WrittenQuery,
      written.WellFormed config → written.words = (tokenize input).map (·.text) →
      written'.WellFormed config → written'.words = (tokenize input).map (·.text) →
      written = written' := by
  refine ⟨?_, fun written written' h hw h' hw' => h.unique h' (hw.trans hw'.symm)⟩
  rw [parseQuery, Outcome.accepted_result, Rule.query_run_eq_ok_iff]
  constructor
  · rintro ⟨written, h, -, hwords, hquery⟩
    exact ⟨written, h, hwords, hquery⟩
  · rintro ⟨written, h, hwords, hquery⟩
    exact ⟨written, h, ⟨by simp, by simp⟩, hwords, hquery⟩

/-- A division with every clause, and what the text it divides is read as: a detached call in the
SELECT list, a nested group and a group in a word of its own in the PROOF chain, and a piece that
is passed over in a list clause. -/
theorem parseQuery_of_division :
    (parseQuery .strict ("SELECT vector.b, COUNT (*) FROM federation f WITH drift strict " ++
      "WHERE a = b GROUP BY GRAPH.x,bogus HAVING n > 1 PROOF t(c (d)) AND u (e) " ++
      "ORDER BY VECTOR.b DESC LIMIT 7 OFFSET 2")).result =
      .ok { select := ⟨[.modality .vector], [⟨.vector, "b"⟩], [.countAll]⟩
            source := .federation "f" (some "STRICT")
            filter := some "a = b"
            groupBy := [⟨.graph, "x"⟩]
            having := some "n > 1"
            proof := [⟨"t", "c (d)"⟩, ⟨"u", "e"⟩]
            orderBy := [⟨⟨.vector, "b"⟩, .desc⟩]
            limit := some 7
            offset := some 2 } := by
  refine (parseQuery_eq_ok_iff _ _ _).1.mpr ⟨{
    select := ⟨["SELECT"], ["vector.b,", "COUNT", "(*)"]⟩
    source := ⟨.federation, ["FROM", "federation"], "f", some ⟨["WITH", "drift"], ["strict"]⟩⟩
    filter := some ⟨["WHERE"], ["a", "=", "b"]⟩
    groupBy := some ⟨["GROUP", "BY"], ["GRAPH.x,bogus"]⟩
    having := some ⟨["HAVING"], ["n", ">", "1"]⟩
    proof := some ⟨"PROOF", ⟨"t", "(c", ["(d))"], false⟩, [("AND", ⟨"u", "(e)", [], true⟩)]⟩
    orderBy := some ⟨["ORDER", "BY"], ["VECTOR.b", "DESC"]⟩
    limit := some ⟨["LIMIT"], ["7"]⟩
    offset := some ⟨["OFFSET"], ["2"]⟩ }, ?_, by decide +kernel, by decide +kernel⟩
  constructor
  case opened => exact .cons (by decide) .nil
  case select_ne => simp
  case select_from => decide
  case select_strict => decide +kernel
  case source =>
    refine ⟨.cons (by decide) (.cons (by decide) .nil), by decide, ?_⟩
    rintro _ ⟨rfl⟩
    exact ⟨rfl, .cons (by decide) (.cons (by decide) .nil), "strict", rfl, by decide⟩
  case filter =>
    rintro _ ⟨rfl⟩
    exact ⟨.cons (by decide) .nil, by decide⟩
  case groupBy =>
    rintro _ ⟨rfl⟩
    exact ⟨.cons (by decide) (.cons (by decide) .nil), by decide⟩
  case having =>
    rintro _ ⟨rfl⟩
    exact ⟨.cons (by decide) .nil, by decide⟩
  case proof =>
    rintro _ ⟨rfl⟩
    refine ⟨by decide, ⟨by decide, by decide, by decide, "c (d)".toList, by decide, by decide,
      'c', by decide, by decide⟩, ?_⟩
    rintro _ (_ | ⟨_, ⟨⟩⟩)
    exact ⟨by decide, by decide, by decide, by decide, ['e'], by decide, by decide,
      'e', by decide, by decide⟩
  case orderBy =>
    rintro _ ⟨rfl⟩
    exact ⟨.cons (by decide) (.cons (by decide) .nil), by decide⟩
  case limit =>
    rintro _ ⟨rfl⟩
    exact ⟨.cons (by decide) .nil, "7", rfl, by decide, List.all_eq_true.mp (by decide), by decide⟩
  case offset =>
    rintro _ ⟨rfl⟩
    exact ⟨.cons (by decide) .nil, "2", rfl, by decide, List.all_eq_true.mp (by decide), by decide⟩

end HexadQuery
