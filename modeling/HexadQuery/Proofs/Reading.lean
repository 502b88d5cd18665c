/-
# What a rule reads

A rule works on tokens, but what it accepts is decided by their texts.  Two views of that:

* `Rule.Reads rule before holds after`: on every cursor whose words are `before` the rule succeeds
  with a value that `holds`, and leaves the words `after`.  Rules compose by `Reads.bind`, and the
  primitive ones have a lemma each.
* the lemmas `.._eq_ok`: what must have been ahead of a rule that succeeded.

The first view is completeness and the second soundness, and a grammar is settled when both are
proved of it against one written form.  They are kept apart because they are proved apart: from
words to a success one goes forward through the rule, and from a success to words one takes the
rule to pieces from its front.

A rule reads words in one way (`Reads.unique`), so a grammar described through `Reads` is
unambiguous for free: what the parts of a division are is what the rules read, and there is no
choice in it.

Events and positions play no part here.  That is what makes words enough: two cursors with the same
words differ in positions and in the number of tokens, and a success shows neither.  Errors do show
them, so what is said about failures is said of the error's kind and text (`Refuses`).
-/
import HexadQuery.Grammar.Rule
import HexadQuery.Proofs.Words
import Mathlib.Data.List.TakeDrop

namespace HexadQuery

/-! ## 1. Words and keywords

Tests on tokens are tests on their texts.  The two simp lemmas turn the one into the other, so
everything below is about words. -/

/-- Whether a text is one of these keywords, in any casing. -/
def Text.isAnyOf (word : String) (keywords : List String) : Bool :=
  keywords.any fun keyword => Text.sameLetters word keyword

/-- One keyword is a list of keywords. -/
theorem Text.isAnyOf_singleton (word keyword : String) :
    Text.isAnyOf word [keyword] = Text.sameLetters word keyword := by
  simp [Text.isAnyOf]

/-- A word that can be an operand. -/
structure IsOperand (word : String) : Prop where
  isWord : Text.IsWord word.toList
  operand : Text.isAnyOf word Rule.clauseKeywords = false

@[simp] theorem Token.isKeyword_eq (token : Token) (keyword : String) :
    token.isKeyword keyword = Text.sameLetters token.text keyword := rfl

@[simp] theorem Token.isAnyKeyword_eq (token : Token) (keywords : List String) :
    token.isAnyKeyword keywords = Text.isAnyOf token.text keywords := rfl

/-- The words that are left. -/
def Cursor.words (cursor : Cursor) : List String := cursor.tokens.map (·.text)

@[simp] theorem Cursor.words_mk (tokens : List Token) (count : Nat) :
    (Cursor.mk tokens count).words = tokens.map (·.text) := rfl

/-- The words ahead of a rule that starts on a text are the words of the text. -/
theorem Cursor.words_ofText (input : String) : (Cursor.ofText input).words = Text.words input :=
  map_text_tokenize input

/-- Any words can be ahead of a rule. -/
theorem Cursor.exists_words_eq (words : List String) : ∃ cursor : Cursor, cursor.words = words :=
  ⟨⟨words.map fun word => ⟨word, 0, 0⟩, 0⟩, by simp [Function.comp_def]⟩

/-- If a word is next, a token is, and it has that text. -/
theorem Cursor.tokens_of_words_cons {cursor : Cursor} {word : String} {rest : List String}
    (h : cursor.words = word :: rest) : ∃ token tokens, cursor.tokens = token :: tokens ∧
      token.text = word ∧ tokens.map (·.text) = rest :=
  List.map_eq_cons_iff.mp h

namespace Rule

variable {α β : Type}

/-! ## 2. Success, step by step

The inversion of each primitive rule and of `bind`.  A lemma about a compound rule starts with
`bind_eq_ok` once for each step, so that its proof has the shape of the rule and no proof unfolds a
primitive. -/

/-- The result of one rule and then another, by the result of the first. -/
theorem bind_result (rule : Rule α) (next : α → Rule β) (cursor : Cursor) :
    ((rule >>= next) cursor).result =
      (rule cursor).result.bind fun (a, rest) => (next a rest).result :=
  Outcome.result_andThen _ _

/-- What a success of two rules, one behind the other, comes from. -/
theorem bind_eq_ok {rule : Rule α} {next : α → Rule β} {cursor rest : Cursor} {b : β} :
    ((rule >>= next) cursor).result = .ok (b, rest) ↔
      ∃ a mid, (rule cursor).result = .ok (a, mid) ∧ (next a mid).result = .ok (b, rest) := by
  change ((rule cursor).andThen fun p => next p.1 p.2).result = _ ↔ _
  rw [Outcome.result_andThen]
  cases h : (rule cursor).result with
  | error e => simp [Except.bind]
  | ok p =>
    obtain ⟨a, mid⟩ := p
    simp [Except.bind]

/-- Two continuations that agree wherever a rule succeeds agree behind the rule: where it fails,
neither is reached. -/
theorem bind_congr_ok {rule : Rule α} {next next' : α → Rule β} {cursor : Cursor}
    (h : ∀ a rest, (rule cursor).result = .ok (a, rest) →
      (next a rest).result = (next' a rest).result) :
    ((rule >>= next) cursor).result = ((rule >>= next') cursor).result := by
  rw [bind_result, bind_result]
  cases hrule : (rule cursor).result with
  | error e => rfl
  | ok p => exact h p.1 p.2 hrule

@[simp] theorem pure_result (a : α) (cursor : Cursor) :
    ((pure a : Rule α) cursor).result = .ok (a, cursor) := rfl

@[simp] theorem fail_result (error : ParseError) (cursor : Cursor) :
    ((fail error : Rule α) cursor).result = .error error := rfl

@[simp] theorem note_result (events : List Event) (cursor : Cursor) :
    (note events cursor).result = .ok ((), cursor) := rfl

@[simp] theorem get_result (cursor : Cursor) :
    ((get : Rule Cursor) cursor).result = .ok (cursor, cursor) := rfl

@[simp] theorem peek_result (cursor : Cursor) :
    (peek cursor).result = .ok (cursor.tokens.head?, cursor) := rfl

/-- A check that fails the rule, and what follows it. -/
theorem guard_eq_ok {p : Prop} [Decidable p] {error : Rule Unit} {next : Unit → Rule β}
    (herror : ∀ cursor, ∃ e, (error cursor).result = .error e) {cursor rest : Cursor} {b : β} :
    ((if p then error >>= next else next ()) cursor).result = .ok (b, rest) ↔
      ¬ p ∧ (next () cursor).result = .ok (b, rest) := by
  by_cases hp : p
  · simp only [hp, if_true, not_true, false_and, iff_false, bind_eq_ok]
    rintro ⟨a, mid, h, -⟩
    obtain ⟨e, he⟩ := herror cursor
    simp [he] at h
  · simp [hp]

/-- A look ahead that fails on some tokens, and what follows it. -/
theorem lookahead_eq_ok {test : Token → Prop} [DecidablePred test] {error : Token → Rule Unit}
    {next : Unit → Rule β} (herror : ∀ t cursor, ∃ e, (error t cursor).result = .error e)
    {cursor rest : Cursor} {b : β} :
    ((peek >>= fun found =>
        match found with
        | some t => if test t then error t >>= next else next ()
        | _ => next ()) cursor).result = .ok (b, rest) ↔
      (∀ t, cursor.tokens.head? = some t → ¬ test t) ∧
        (next () cursor).result = .ok (b, rest) := by
  rw [bind_eq_ok]
  simp only [peek_result, Except.ok.injEq, Prod.mk.injEq]
  constructor
  · rintro ⟨found, mid, ⟨rfl, rfl⟩, h⟩
    cases hhead : cursor.tokens.head? with
    | none =>
      rw [hhead] at h
      exact ⟨by simp, h⟩
    | some t =>
      rw [hhead] at h
      obtain ⟨ht, h⟩ := (guard_eq_ok (herror t)).mp h
      refine ⟨?_, h⟩
      rintro t' ht'
      obtain rfl : t = t' := by simpa using ht'
      exact ht
  · rintro ⟨htest, h⟩
    refine ⟨_, _, ⟨rfl, rfl⟩, ?_⟩
    cases hhead : cursor.tokens.head? with
    | none => exact h
    | some t => exact (guard_eq_ok (herror t)).mpr ⟨htest t hhead, h⟩

/-- A token that was taken was next, it passed the test, and nothing else changed.  `token`,
`keyword` and `operand` are settled by this one. -/
theorem takeIf_eq_ok {test : Token → Bool} {expected : String} {cursor rest : Cursor} {t : Token} :
    (takeIf test expected cursor).result = .ok (t, rest) ↔
      cursor.tokens = t :: rest.tokens ∧ rest.count = cursor.count ∧ test t = true := by
  obtain ⟨tokens, count⟩ := cursor
  obtain ⟨tokens', count'⟩ := rest
  cases tokens with
  | nil => simp [takeIf, Outcome.fail]
  | cons t' ts =>
    by_cases h : test t' = true
    · simp only [takeIf, h, if_true, Outcome.ok, Except.ok.injEq, Prod.mk.injEq, Cursor.mk.injEq,
        List.cons.injEq]
      constructor
      · rintro ⟨rfl, rfl, rfl⟩
        exact ⟨⟨rfl, rfl⟩, rfl, h⟩
      · rintro ⟨⟨rfl, rfl⟩, rfl, -⟩
        exact ⟨rfl, rfl, rfl⟩
    · simp only [takeIf, h, Outcome.fail]
      simp only [List.cons.injEq]
      constructor
      · intro hx
        simp at hx
      · rintro ⟨⟨rfl, -⟩, -, ht⟩
        exact absurd ht h

/-- Either the keyword was next and is gone, or the cursor is as it was. -/
theorem skipKeyword_eq_ok {word : String} {cursor rest : Cursor} {found : Bool}
    (h : (skipKeyword word cursor).result = .ok (found, rest)) :
    found = true ∧ (∃ w, Text.sameLetters w word = true ∧ cursor.words = w :: rest.words) ∨
      found = false ∧ rest = cursor := by
  obtain ⟨tokens, count⟩ := cursor
  cases tokens with
  | nil =>
    simp only [skipKeyword, Outcome.ok, Except.ok.injEq, Prod.mk.injEq] at h
    exact Or.inr ⟨h.1.symm, h.2.symm⟩
  | cons t ts =>
    by_cases hk : t.isKeyword word = true
    · simp only [skipKeyword, hk, if_true, Outcome.ok, Except.ok.injEq, Prod.mk.injEq] at h
      obtain ⟨rfl, rfl⟩ := h
      exact Or.inl ⟨rfl, t.text, hk, rfl⟩
    · simp only [skipKeyword, hk, Bool.false_eq_true, if_false, Outcome.ok, Except.ok.injEq,
        Prod.mk.injEq] at h
      exact Or.inr ⟨h.1.symm, h.2.symm⟩

/-- A span holds no stop word, and a stop word follows it if anything does. -/
theorem takeUntil_eq_ok {stops : List String} {cursor rest : Cursor} {taken : List Token}
    (h : (takeUntil stops cursor).result = .ok (taken, rest)) :
    cursor.tokens = taken ++ rest.tokens ∧ (∀ t ∈ taken, Text.isAnyOf t.text stops = false) ∧
      ∀ t, rest.tokens.head? = some t → Text.isAnyOf t.text stops = true := by
  simp only [takeUntil, List.span_eq_takeWhile_dropWhile, Outcome.ok, Except.ok.injEq,
    Prod.mk.injEq] at h
  obtain ⟨rfl, rfl⟩ := h
  refine ⟨List.takeWhile_append_dropWhile.symm, ?_, ?_⟩
  · intro t ht
    simpa using List.mem_takeWhile_imp ht
  · intro t ht
    have hnot := List.head?_dropWhile_not (fun t => !t.isAnyKeyword stops) cursor.tokens
    rw [ht] at hnot
    simpa using hnot

/-- The end of the input was reached. -/
theorem finish_eq_ok {expected : String} {cursor rest : Cursor}
    (h : (finish expected cursor).result = .ok ((), rest)) : cursor.tokens = [] ∧ rest = cursor := by
  obtain ⟨tokens, count⟩ := cursor
  cases tokens with
  | nil =>
    simp only [finish, Outcome.ok, Except.ok.injEq, Prod.mk.injEq, true_and] at h
    exact ⟨rfl, h.symm⟩
  | cons t ts => simp [finish, Outcome.fail] at h

/-- One round of a chain, and the rounds after it.  Either another round is made, behind fewer
tokens, or this was the last. -/
theorem chain_eq_ok {step : Rule (α × Bool)} {cursor rest : Cursor} {as : List α}
    (h : (chain step cursor).result = .ok (as, rest)) :
    ∃ a more mid, (step cursor).result = .ok ((a, more), mid) ∧
      ((more = true ∧ ∃ bs, as = a :: bs ∧ (chain step mid).result = .ok (bs, rest)) ∨
        as = [a] ∧ rest = mid ∧ ¬ (more = true ∧ mid.tokens.length < cursor.tokens.length)) := by
  rw [chain] at h
  cases hstep : (step cursor).result with
  | error e => simp [hstep] at h
  | ok p =>
    obtain ⟨⟨a, more⟩, mid⟩ := p
    simp only [hstep] at h
    split at h
    · next hmore =>
      cases htail : (chain step mid).result with
      | error e => simp [htail, Except.map] at h
      | ok q =>
        obtain ⟨bs, last⟩ := q
        simp only [htail, Except.map, Except.ok.injEq, Prod.mk.injEq] at h
        obtain ⟨rfl, rfl⟩ := h
        exact ⟨a, more, mid, rfl, Or.inl ⟨hmore.1, bs, rfl, htail⟩⟩
    · next hmore =>
      simp only [Except.ok.injEq, Prod.mk.injEq] at h
      obtain ⟨rfl, rfl⟩ := h
      exact ⟨a, more, mid, rfl, Or.inr ⟨rfl, rfl, hmore⟩⟩

/-! ## 3. Reading by words

The value is described by a predicate, because a token is not determined by its text: rules that
yield tokens are known to yield one with a certain text.  Where the value is determined, the
predicate is an equation. -/

/-- On every cursor with the words `before`, the rule yields a value that `holds` and leaves the
words `after`. -/
def Reads (rule : Rule α) (before : List String) (holds : α → Prop) (after : List String) : Prop :=
  ∀ cursor : Cursor, cursor.words = before →
    ∃ a rest, (rule cursor).result = .ok (a, rest) ∧ holds a ∧ rest.words = after

/-- Rules compose: what the first leaves is what the second reads. -/
theorem Reads.bind {rule : Rule α} {next : α → Rule β} {before mid after : List String}
    {holds : α → Prop} {holds' : β → Prop} (h : Reads rule before holds mid)
    (h' : ∀ a, holds a → Reads (next a) mid holds' after) :
    Reads (rule >>= next) before holds' after := by
  intro cursor hc
  obtain ⟨a, rest, hok, ha, hrest⟩ := h cursor hc
  obtain ⟨b, rest', hok', hb, hrest'⟩ := h' a ha rest hrest
  exact ⟨b, rest', bind_eq_ok.mpr ⟨a, rest, hok, hok'⟩, hb, hrest'⟩

/-- A rule that reads is passed over: what follows it decides. -/
theorem Reads.step {rule : Rule α} {before mid : List String} {holds : α → Prop}
    (h : Reads rule before holds mid) {cursor : Cursor} (hc : cursor.words = before) :
    ∃ a next, holds a ∧ next.words = mid ∧ ∀ {β : Type} {more : α → Rule β} {b : β} {rest : Cursor},
      ((rule >>= more) cursor).result = .ok (b, rest) ↔ (more a next).result = .ok (b, rest) := by
  obtain ⟨a, next, hok, ha, hnext⟩ := h cursor hc
  refine ⟨a, next, ha, hnext, ?_⟩
  intro β more b rest
  rw [bind_eq_ok]
  constructor
  · rintro ⟨a', next', hok', hmore⟩
    rw [hok] at hok'
    simp only [Except.ok.injEq, Prod.mk.injEq] at hok'
    obtain ⟨rfl, rfl⟩ := hok'
    exact hmore
  · intro hmore
    exact ⟨a, next, hok, hmore⟩

/-- Less may be said of the value. -/
theorem Reads.weaken {rule : Rule α} {before after : List String} {holds holds' : α → Prop}
    (h : Reads rule before holds after) (himp : ∀ a, holds a → holds' a) :
    Reads rule before holds' after := by
  intro cursor hc
  obtain ⟨a, rest, hok, ha, hrest⟩ := h cursor hc
  exact ⟨a, rest, hok, himp a ha, hrest⟩

/-- What a rule reads, on one cursor. -/
theorem Reads.result {rule : Rule α} {before after : List String} {a : α}
    (h : Reads rule before (· = a) after) {cursor : Cursor} (hc : cursor.words = before) :
    ∃ rest, (rule cursor).result = .ok (a, rest) ∧ rest.words = after := by
  obtain ⟨b, rest, hok, rfl, hrest⟩ := h cursor hc
  exact ⟨rest, hok, hrest⟩

/-- A rule reads words in one way. -/
theorem Reads.unique {rule : Rule α} {before after after' : List String} {a b : α}
    (h : Reads rule before (· = a) after) (h' : Reads rule before (· = b) after') :
    a = b ∧ after = after' := by
  obtain ⟨cursor, hc⟩ := Cursor.exists_words_eq before
  obtain ⟨rest, hok, hrest⟩ := h.result hc
  obtain ⟨rest', hok', hrest'⟩ := h'.result hc
  rw [hok] at hok'
  simp only [Except.ok.injEq, Prod.mk.injEq] at hok'
  obtain ⟨rfl, rfl⟩ := hok'
  exact ⟨rfl, hrest.symm.trans hrest'⟩

/-- So the words that are left are determined as well, also if the words ahead are known to be
equal only. -/
theorem Reads.after_eq {rule : Rule α} {before before' after after' : List String} {a b : α}
    (h : Reads rule before (· = a) after) (h' : Reads rule before' (· = b) after')
    (hbefore : before = before') : after = after' := by
  subst hbefore
  exact (h.unique h').2

/-! ## 4. The primitive rules

One lemma for each, with a second where the rule can go two ways.  A rule that takes a word wants
to know what the word is; one that may take a word wants to know what the next one is not. -/

theorem reads_pure (a : α) (words : List String) : Reads (pure a) words (· = a) words :=
  fun cursor hc => ⟨a, cursor, rfl, rfl, hc⟩

/-- A check that passes. -/
theorem Reads.guard {p : Prop} [Decidable p] {error : Rule Unit} {next : Unit → Rule β}
    {before after : List String} {holds : β → Prop} (hp : ¬ p)
    (h : Reads (next ()) before holds after) :
    Reads (if p then error >>= next else next ()) before holds after := by
  rwa [if_neg hp]

theorem reads_note (events : List Event) (words : List String) :
    Reads (note events) words (fun _ => True) words :=
  fun cursor hc => ⟨(), cursor, rfl, trivial, hc⟩

theorem reads_get (words : List String) :
    Reads (get : Rule Cursor) words (fun cursor => cursor.words = words) words :=
  fun cursor hc => ⟨cursor, cursor, rfl, hc, hc⟩

/-- Looking ahead: the next token, and nothing at the end. -/
theorem reads_peek (words : List String) :
    Reads peek words (fun next => next.map (·.text) = words.head?) words := by
  intro cursor hc
  refine ⟨cursor.tokens.head?, cursor, rfl, ?_, hc⟩
  rw [← hc, Cursor.words, List.head?_map]

/-- A look ahead that passes. -/
theorem Reads.lookahead {test : Token → Prop} [DecidablePred test] {error : Token → Rule Unit}
    {next : Unit → Rule β} {before after : List String} {holds : β → Prop}
    (hpass : ∀ t : Token, before.head? = some t.text → ¬ test t)
    (h : Reads (next ()) before holds after) :
    Reads (peek >>= fun found =>
        match found with
        | some t => if test t then error t >>= next else next ()
        | _ => next ()) before holds after := by
  refine Reads.bind (reads_peek before) fun found hfound => ?_
  cases found with
  | none => exact h
  | some t => exact Reads.guard (hpass t hfound.symm) h

/-- A token is taken if every token with that text passes the test. -/
theorem reads_takeIf {test : Token → Bool} {expected word : String} {rest : List String}
    (h : ∀ t : Token, t.text = word → test t = true) :
    Reads (takeIf test expected) (word :: rest) (fun t => t.text = word) rest := by
  intro cursor hc
  obtain ⟨t, ts, htokens, htext, hrest⟩ := Cursor.tokens_of_words_cons hc
  exact ⟨t, ⟨ts, cursor.count⟩, takeIf_eq_ok.mpr ⟨htokens, rfl, h t htext⟩, htext, hrest⟩

theorem reads_token (expected word : String) (rest : List String) :
    Reads (token expected) (word :: rest) (fun t => t.text = word) rest :=
  reads_takeIf fun _ _ => rfl

theorem reads_keyword {keyword word : String} (h : Text.sameLetters word keyword = true)
    (rest : List String) :
    Reads (Rule.keyword keyword) (word :: rest) (fun t => t.text = word) rest :=
  reads_takeIf fun t ht => by rw [Token.isKeyword, ht, h]

theorem reads_operand {expected word : String} (h : Text.isAnyOf word clauseKeywords = false)
    (rest : List String) : Reads (operand expected) (word :: rest) (fun t => t.text = word) rest := by
  refine reads_takeIf fun t ht => ?_
  subst ht
  simpa using h

/-- An optional keyword that is there. -/
theorem reads_skipKeyword {keyword word : String} (h : Text.sameLetters word keyword = true)
    (rest : List String) : Reads (skipKeyword keyword) (word :: rest) (· = true) rest := by
  intro cursor hc
  obtain ⟨t, ts, htokens, rfl, hrest⟩ := Cursor.tokens_of_words_cons hc
  obtain ⟨tokens, count⟩ := cursor
  subst htokens
  exact ⟨true, ⟨ts, count⟩, by simp [skipKeyword, Token.isKeyword, h, Outcome.ok], rfl, hrest⟩

/-- An optional keyword that is not there: nothing is taken. -/
theorem reads_skipKeyword_absent {keyword : String} {words : List String}
    (h : ∀ word, words.head? = some word → Text.sameLetters word keyword = false) :
    Reads (skipKeyword keyword) words (· = false) words := by
  rintro ⟨tokens, count⟩ rfl
  refine ⟨false, ⟨tokens, count⟩, ?_, rfl, rfl⟩
  cases tokens with
  | nil => rfl
  | cons t ts => simp [skipKeyword, Token.isKeyword, h t.text rfl, Outcome.ok]

/-- A span up to a stop word, or to the end.  The word behind the span is a stop word, so nothing
more is taken. -/
theorem reads_takeUntil {stops body rest : List String}
    (hbody : ∀ word ∈ body, Text.isAnyOf word stops = false)
    (hrest : ∀ word, rest.head? = some word → Text.isAnyOf word stops = true) :
    Reads (takeUntil stops) (body ++ rest) (fun taken => taken.map (·.text) = body) rest := by
  rintro ⟨tokens, count⟩ hc
  obtain ⟨front, back, rfl, hfront, hback⟩ := List.map_eq_append_iff.mp hc
  have htake : ∀ t ∈ front, (!t.isAnyKeyword stops) = true := by
    intro t ht
    have : Text.isAnyOf t.text stops = false := hbody _ (hfront ▸ List.mem_map_of_mem ht)
    simpa using this
  have hdrop : back.takeWhile (fun t => !t.isAnyKeyword stops) = [] ∧
      back.dropWhile (fun t => !t.isAnyKeyword stops) = back := by
    cases back with
    | nil => exact ⟨rfl, rfl⟩
    | cons t ts =>
      have : Text.isAnyOf t.text stops = true := hrest _ (by rw [← hback]; rfl)
      have hstop : (!t.isAnyKeyword stops) = false := by simpa using this
      rw [List.takeWhile_cons, List.dropWhile_cons, hstop]
      exact ⟨rfl, rfl⟩
  refine ⟨front, ⟨back, count⟩, ?_, hfront, hback⟩
  simp only [takeUntil, List.span_eq_takeWhile_dropWhile, Outcome.ok,
    List.takeWhile_append_of_pos htake, List.dropWhile_append_of_pos htake, hdrop, List.append_nil]

/-- The end of the input. -/
theorem reads_finish (expected : String) : Reads (finish expected) [] (fun _ => True) [] := by
  intro cursor hc
  have : cursor.tokens = [] := List.map_eq_nil_iff.mp hc
  refine ⟨(), cursor, ?_, trivial, hc⟩
  simp [finish, this, Outcome.ok]

/-- The last round of a chain. -/
theorem Reads.chain_last {step : Rule (α × Bool)} {before after : List String} {a : α}
    (h : Reads step before (· = (a, false)) after) : Reads (chain step) before (· = [a]) after := by
  intro cursor hc
  obtain ⟨rest, hok, hrest⟩ := h.result hc
  refine ⟨[a], rest, ?_, rfl, hrest⟩
  rw [chain, hok]
  simp

/-- A round of a chain that another follows. -/
theorem Reads.chain_more {step : Rule (α × Bool)} {before mid after : List String} {a : α}
    {as : List α} (h : Reads step before (· = (a, true)) mid) (hlt : mid.length < before.length)
    (h' : Reads (chain step) mid (· = as) after) :
    Reads (chain step) before (· = a :: as) after := by
  intro cursor hc
  obtain ⟨rest, hok, hrest⟩ := h.result hc
  obtain ⟨last, hok', hlast⟩ := h'.result hrest
  have hlen : rest.tokens.length < cursor.tokens.length := by
    rw [← hc, ← hrest] at hlt
    simpa [Cursor.words] using hlt
  refine ⟨a :: as, last, ?_, rfl, hlast⟩
  rw [chain, hok]
  simp [hlen, hok', Except.map]

/-! ## 5. Refusing by words

Failures, as far as words decide them.  A refusal travels outwards through `bind` whatever follows,
and inwards behind rules that read. -/

/-- On every cursor with the words `before`, the rule fails with an error that `holds`. -/
def Refuses (rule : Rule α) (before : List String) (holds : ParseError → Prop) : Prop :=
  ∀ cursor : Cursor, cursor.words = before →
    ∃ error, (rule cursor).result = .error error ∧ holds error

/-- Nothing behind a refusal is reached. -/
theorem Refuses.bind {rule : Rule α} {before : List String} {holds : ParseError → Prop}
    (h : Refuses rule before holds) (next : α → Rule β) : Refuses (rule >>= next) before holds := by
  intro cursor hc
  obtain ⟨error, herror, hholds⟩ := h cursor hc
  refine ⟨error, ?_, hholds⟩
  rw [bind_result, herror]
  rfl

/-- What follows a rule that reads refuses for both. -/
theorem Reads.refuses {rule : Rule α} {next : α → Rule β} {before mid : List String}
    {holds : α → Prop} {holds' : ParseError → Prop} (h : Reads rule before holds mid)
    (h' : ∀ a, holds a → Refuses (next a) mid holds') : Refuses (rule >>= next) before holds' := by
  intro cursor hc
  obtain ⟨a, rest, hok, ha, hrest⟩ := h cursor hc
  obtain ⟨error, herror, hholds⟩ := h' a ha rest hrest
  refine ⟨error, ?_, hholds⟩
  rw [bind_result, hok]
  exact herror

/-- A look ahead that passes, ahead of a refusal. -/
theorem Refuses.lookahead {test : Token → Prop} [DecidablePred test] {error : Token → Rule Unit}
    {next : Unit → Rule β} {before : List String} {holds : ParseError → Prop}
    (hpass : ∀ t : Token, before.head? = some t.text → ¬ test t)
    (h : Refuses (next ()) before holds) :
    Refuses (peek >>= fun found =>
        match found with
        | some t => if test t then error t >>= next else next ()
        | _ => next ()) before holds := by
  refine Reads.refuses (reads_peek before) fun found hfound => ?_
  cases found with
  | none => exact h
  | some t =>
    dsimp only
    rwa [if_neg (hpass t hfound.symm)]

end Rule

end HexadQuery
