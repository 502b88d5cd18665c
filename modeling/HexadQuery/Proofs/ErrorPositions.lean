/-
# Errors point at what they say

An error names a token by its index, and often repeats its text.  Both come from the input
(`parse_error_faithful`): the index is in range, the text is that of the token there, and the four
errors that say more about a place are right about it.

A rule sees the tokens that are left and nothing else, so the invariant is where they come from:
they are the last tokens of the input, each with its index as position (`Cursor.Past`).  `Sound`
says of a rule that it keeps the invariant and fails with faithful errors only, and passes through
`bind`; most rules are sound because their parts are.

Three are not built that way.  `skipAnd` and `proofClause` point at the place they started from, so
they are followed from one cursor.  And `skipComma`, which is `match_leading_comma` of the source,
rewrites the text of the next token when the comma is glued to it: until that token has been taken,
only its position is that of the input (`Cursor.Reworded`), and the rule that takes it never
repeats its text in an error of the kind that has to be exact.

The errors differ in how much they say.  `UnexpectedToken` and `UnexpectedEnd` say where they are;
the text that the former repeats may be a part of a token, as with the trailing text of a group,
and is not claimed to be more.  `UnknownSourceKind`, `UnknownStatementKind` and `MalformedNumber`
repeat a token whole.  `DanglingProofChain`, `MissingProofClause` and `UnexpectedProofClause` say
something about the token they point at and, the first of them, about the next one.

The sections follow the grammar upwards, with one lemma for each rule.
-/
import HexadQuery.Proofs.AssignmentSpans
import HexadQuery.Proofs.QueryGrammar

namespace HexadQuery

/-! ## 1. What an error says about the input

One line for each error, over a list of tokens that is later the tokens of the input. -/

/-- What an error says is true of these tokens.  A missing clause is missed at a place that may
be the end of the input, so its position is one more than an index can be. -/
def ParseError.Faithful (tokens : List Token) : ParseError → Prop
  | unexpectedToken _ _ p => p < tokens.length
  | unexpectedEnd _ p => p = tokens.length
  | unknownSourceKind text p => ∃ t, tokens[p]? = some t ∧ t.text = text
  | unknownStatementKind text p => ∃ t, tokens[p]? = some t ∧ t.text = text
  | malformedNumber text p => ∃ t, tokens[p]? = some t ∧ t.text = text
  | danglingProofChain p => (∃ t, tokens[p]? = some t ∧ t.isKeyword "AND" = true) ∧
      (p + 1 = tokens.length ∨
        ∃ t, tokens[p + 1]? = some t ∧ t.isAnyKeyword Rule.clauseKeywords = true)
  | missingProofClause p => p ≤ tokens.length ∧
      ∀ t, tokens[p]? = some t → t.isKeyword "PROOF" = false
  | unexpectedProofClause p => ∃ t, tokens[p]? = some t ∧ t.isKeyword "PROOF" = true

/-! ## 2. Places in the input

`Cursor.Past input left` has two lists in it: the cursor is in `left`, and `left` is in the input.
The first is what a rule may go back over, so that "the rule went on to the right" can be said of a
rule that was called in the middle. -/

variable {input : String} {left : List Token} {α β : Type}

/-- A token of the input stands at its own position. -/
theorem getElem?_position {t : Token} (h : t ∈ tokenize input) :
    (tokenize input)[t.position]? = some t := by
  obtain ⟨i, hi, rfl⟩ := List.mem_iff_getElem.mp h
  rw [position_getElem_tokenize, List.getElem?_eq_getElem hi]

/-- And so its position is in range. -/
theorem position_lt {t : Token} (h : t ∈ tokenize input) :
    t.position < (tokenize input).length :=
  (List.getElem?_eq_some_iff.mp (getElem?_position h)).1

/-- An error about a token of the input is faithful. -/
theorem faithful_ofToken {t : Token} (h : t ∈ tokenize input) (expected : String) :
    (ParseError.ofToken expected t).Faithful (tokenize input) :=
  position_lt h

/-- The cursor is in the input, at the place where `left` was left or behind it. -/
structure Cursor.Past (input : String) (left : List Token) (cursor : Cursor) : Prop where
  suffix : left <:+ tokenize input
  /-- nothing that was behind is ahead again -/
  tokens : cursor.tokens <:+ left
  /-- positions count from the front of the input -/
  count : cursor.count = (tokenize input).length

namespace Cursor.Past

variable {cursor : Cursor}

/-- A text is read from its first token. -/
theorem start (input : String) : (Cursor.ofText input).Past input (tokenize input) :=
  ⟨List.suffix_rfl, List.suffix_rfl, rfl⟩

/-- Wherever a rule starts, it starts at that place. -/
theorem here (h : cursor.Past input left) : cursor.Past input cursor.tokens :=
  ⟨h.tokens.trans h.suffix, List.suffix_rfl, h.count⟩

/-- Going on to the right. -/
theorem onward (h : cursor.Past input left) {tokens : List Token} (ht : tokens <:+ cursor.tokens) :
    Cursor.Past input left { cursor with tokens := tokens } :=
  ⟨h.suffix, ht.trans h.tokens, h.count⟩

/-- What is behind a place is behind every earlier one. -/
theorem mono (h : cursor.Past input left) {earlier : List Token} (hleft : left <:+ earlier)
    (hearlier : earlier <:+ tokenize input) : cursor.Past input earlier :=
  ⟨hearlier, h.tokens.trans hleft, h.count⟩

/-- The tokens ahead of a cursor are tokens of the input. -/
theorem mem (h : cursor.Past input left) {t : Token} (ht : t ∈ cursor.tokens) :
    t ∈ tokenize input :=
  h.suffix.subset (h.tokens.subset ht)

/-- The next token is one of the input, and behind it the input goes on. -/
theorem cons (h : cursor.Past input left) {t : Token} {rest : List Token}
    (htokens : cursor.tokens = t :: rest) :
    t ∈ tokenize input ∧ Cursor.Past input left { cursor with tokens := rest } := by
  refine ⟨h.mem ?_, h.onward ?_⟩
  · rw [htokens]
    exact List.mem_cons_self
  · rw [htokens]
    exact List.suffix_cons t rest

/-- The position of a cursor is the number of tokens ahead of it. -/
theorem exists_front (h : cursor.Past input left) :
    ∃ front, tokenize input = front ++ cursor.tokens ∧ cursor.position = front.length := by
  obtain ⟨front, hfront⟩ := h.tokens.trans h.suffix
  refine ⟨front, hfront.symm, ?_⟩
  cases htokens : cursor.tokens with
  | nil =>
    rw [Cursor.position, htokens]
    simp only [h.count, ← hfront, htokens, List.append_nil]
  | cons t rest =>
    have hlt : front.length < (tokenize input).length := by
      rw [← hfront, htokens]
      simp
    have hget : (tokenize input)[front.length] = t := by
      simp [← hfront, htokens]
    rw [Cursor.position, htokens]
    exact (congrArg Token.position hget).symm.trans (position_getElem_tokenize input _ hlt)

/-- Looking ahead in the cursor is looking ahead in the input. -/
theorem getElem?_position_add (h : cursor.Past input left) (k : Nat) :
    (tokenize input)[cursor.position + k]? = cursor.tokens[k]? := by
  obtain ⟨front, hfront, hposition⟩ := h.exists_front
  rw [hposition, hfront, List.getElem?_append_right (by omega), Nat.add_sub_cancel_left]

/-- Position and tokens left make up the input. -/
theorem position_add_length (h : cursor.Past input left) :
    cursor.position + cursor.tokens.length = (tokenize input).length := by
  obtain ⟨front, hfront, hposition⟩ := h.exists_front
  rw [hposition, hfront, List.length_append]

/-- A token that is missing is missed at the end. -/
theorem missing (h : cursor.Past input left) (expected : String) :
    (cursor.missing expected).Faithful (tokenize input) :=
  h.count

theorem refusal (h : cursor.Past input left) (expected : String) :
    (cursor.refusal expected).Faithful (tokenize input) := by
  rw [Cursor.refusal]
  split
  · rename_i t rest htokens
    exact faithful_ofToken (h.cons htokens).1 expected
  · exact h.missing expected

end Cursor.Past

/-! ## 3. Rules with faithful errors

`Safe` follows a rule from one cursor, with whatever is to be known behind it; `Sound` is `Safe`
from everywhere, with the invariant behind it.  A rule is followed by `Safe` where it matters where
it started. -/

namespace Rule

/-- From this cursor the rule fails with a faithful error, or what it yields and leaves is as
`after` says. -/
def Safe (input : String) (rule : Rule α) (after : α → Cursor → Prop) (cursor : Cursor) : Prop :=
  match (rule cursor).result with
  | .error error => error.Faithful (tokenize input)
  | .ok (a, rest) => after a rest

variable {rule : Rule α} {next : α → Rule β} {cursor : Cursor} {holds : α → Prop}
  {holds' : β → Prop}

/-- A success is safe if what is behind it is as it should be. -/
theorem safe_of_ok {a : α} {rest : Cursor} {after : α → Cursor → Prop}
    (h : (rule cursor).result = .ok (a, rest)) (hafter : after a rest) :
    Safe input rule after cursor := by
  rw [Safe, h]
  exact hafter

/-- A failure is safe if its error is faithful. -/
theorem safe_of_error {error : ParseError} {after : α → Cursor → Prop}
    (h : (rule cursor).result = .error error) (herror : error.Faithful (tokenize input)) :
    Safe input rule after cursor := by
  rw [Safe, h]
  exact herror

/-- Less may be known behind the rule. -/
theorem Safe.weaken {after after' : α → Cursor → Prop} (h : Safe input rule after cursor)
    (himp : ∀ a rest, after a rest → after' a rest) : Safe input rule after' cursor := by
  unfold Safe at h ⊢
  split at h
  · exact h
  · exact himp _ _ h

/-- What is known behind the first rule is what the second is followed from. -/
theorem Safe.bind {mid : α → Cursor → Prop} {after : β → Cursor → Prop}
    (h : Safe input rule mid cursor)
    (hnext : ∀ a rest, mid a rest → Safe input (next a) after rest) :
    Safe input (rule >>= next) after cursor := by
  unfold Safe at h ⊢
  rw [bind_result]
  cases hresult : (rule cursor).result with
  | error error =>
    rw [hresult] at h
    exact h
  | ok p =>
    rw [hresult] at h
    exact hnext p.1 p.2 h

/-- Wherever in the input the rule starts, it fails with a faithful error, or goes on to the right
and yields a value that `holds`. -/
def Sound (input : String) (rule : Rule α) (holds : α → Prop) : Prop :=
  ∀ left cursor, cursor.Past input left →
    Safe input rule (fun a rest => rest.Past input left ∧ holds a) cursor

/-- A sound rule can be followed from any cursor in the input. -/
theorem Sound.safe (h : Sound input rule holds) (hcursor : cursor.Past input left) :
    Safe input rule (fun a rest => rest.Past input left ∧ holds a) cursor :=
  h left cursor hcursor

/-- **Soundness passes through `bind`**, with what is known of the value.  The value may be what
the second rule depends on, so the fact about it is carried along with the cursor. -/
theorem Sound.bind (h : Sound input rule holds)
    (hnext : ∀ a, holds a → Sound input (next a) holds') : Sound input (rule >>= next) holds' :=
  fun left cursor hcursor =>
    (h left cursor hcursor).bind fun a rest ⟨hrest, ha⟩ => hnext a ha left rest hrest

theorem sound_pure {a : α} (h : holds a) : Sound input (pure a : Rule α) holds :=
  fun _ _ hcursor => ⟨hcursor, h⟩

/-- A rule that fails is sound if its error is faithful. -/
theorem sound_fail {error : ParseError} (h : error.Faithful (tokenize input)) :
    Sound input (fail error : Rule α) holds :=
  fun _ _ _ => h

theorem sound_note (events : List Event) : Sound input (note events) fun _ => True :=
  fun _ _ hcursor => ⟨hcursor, trivial⟩

theorem safe_get (cursor : Cursor) :
    Safe input get (fun c rest => cursor = c ∧ cursor = rest) cursor :=
  ⟨rfl, rfl⟩

theorem safe_peek (cursor : Cursor) :
    Safe input peek (fun found rest => cursor.tokens.head? = found ∧ cursor = rest) cursor :=
  ⟨rfl, rfl⟩

theorem sound_get : Sound input (get : Rule Cursor) fun c => c.Past input (tokenize input) :=
  fun _ _ hcursor => ⟨hcursor, List.suffix_rfl, hcursor.tokens.trans hcursor.suffix, hcursor.count⟩

theorem sound_peek : Sound input peek fun found => ∀ t, found = some t → t ∈ tokenize input := by
  intro left cursor hcursor
  refine ⟨hcursor, ?_⟩
  intro t ht
  exact hcursor.mem (List.mem_of_head? ht)

theorem Sound.ite {p : Prop} [Decidable p] {other : Rule α} (h : Sound input rule holds)
    (h' : Sound input other holds) : Sound input (if p then rule else other) holds := by
  split
  · exact h
  · exact h'

/-- A check that fails the rule, and what follows it. -/
theorem Safe.guard {p : Prop} [Decidable p] {error : Rule Unit} {next : Unit → Rule β}
    {after : β → Cursor → Prop} (herror : p → Safe input error (fun _ _ => False) cursor)
    (h : ¬ p → Safe input (next ()) after cursor) :
    Safe input (if p then error >>= next else next ()) after cursor := by
  split
  · next hp => exact (herror hp).bind fun _ _ hfalse => hfalse.elim
  · next hp => exact h hp

theorem safe_fail {error : ParseError} (h : error.Faithful (tokenize input))
    (after : α → Cursor → Prop) : Safe input (fail error) after cursor :=
  h

theorem Sound.guard {p : Prop} [Decidable p] {error : ParseError} {next : Unit → Rule β}
    (herror : p → error.Faithful (tokenize input)) (h : ¬ p → Sound input (next ()) holds') :
    Sound input (if p then fail error >>= next else next ()) holds' :=
  fun left cursor hcursor =>
    Safe.guard (fun hp => safe_fail (herror hp) _) fun hp => h hp left cursor hcursor

/-- A look ahead that fails on some tokens, and what follows it. -/
theorem Sound.lookahead {test : Token → Prop} [DecidablePred test] {error : Token → ParseError}
    {next : Unit → Rule β}
    (herror : ∀ t ∈ tokenize input, test t → (error t).Faithful (tokenize input))
    (h : Sound input (next ()) holds') :
    Sound input (peek >>= fun found =>
        match found with
        | some t => if test t then fail (error t) >>= next else next ()
        | _ => next ()) holds' := by
  refine sound_peek.bind fun found hfound => ?_
  cases found with
  | none => exact h
  | some t => exact Sound.guard (herror t (hfound t rfl)) fun _ => h

/-- A token is taken, or refused where it stands. -/
theorem takeIf_cases (test : Token → Bool) (expected : String) (cursor : Cursor) :
    (∃ t rest, cursor.tokens = t :: rest ∧
      (takeIf test expected cursor).result = .ok (t, { cursor with tokens := rest })) ∨
    (takeIf test expected cursor).result = .error (cursor.refusal expected) := by
  unfold takeIf
  split
  · exact Or.inr rfl
  · rename_i t rest htokens
    split
    · exact Or.inl ⟨t, rest, htokens, rfl⟩
    · exact Or.inr rfl

/-- What was taken is a token of the input. -/
theorem sound_takeIf (test : Token → Bool) (expected : String) :
    Sound input (takeIf test expected) fun t => t ∈ tokenize input := by
  intro left cursor hcursor
  rcases takeIf_cases test expected cursor with ⟨t, rest, htokens, hresult⟩ | hresult
  · obtain ⟨hmem, hrest⟩ := hcursor.cons htokens
    exact safe_of_ok hresult ⟨hrest, hmem⟩
  · exact safe_of_error hresult (hcursor.refusal expected)

/-- A keyword is skipped exactly if it is next. -/
theorem skipKeyword_safe (word : String) (hcursor : cursor.Past input left) :
    Safe input (skipKeyword word) (fun found rest => rest.Past input left ∧
      (found = true → ∃ t, cursor.tokens = t :: rest.tokens ∧ t.isKeyword word = true) ∧
      (found = false → ∀ t, cursor.tokens.head? = some t → t.isKeyword word = false)) cursor := by
  cases htokens : cursor.tokens with
  | nil =>
    refine safe_of_ok (by rw [skipKeyword, htokens]; rfl) ⟨hcursor, by simp, ?_⟩
    intro _ t ht
    cases ht
  | cons t rest =>
    by_cases hword : t.isKeyword word = true
    · exact safe_of_ok (by simp only [skipKeyword, htokens, hword, if_true]; rfl)
        ⟨(hcursor.cons htokens).2, fun _ => ⟨t, rfl, hword⟩, by simp⟩
    · refine safe_of_ok (by simp only [skipKeyword, htokens, hword]; rfl) ⟨hcursor, by simp, ?_⟩
      intro _ u hu
      obtain rfl : t = u := by simpa using hu
      simpa using hword

theorem sound_skipKeyword (word : String) : Sound input (skipKeyword word) fun _ => True :=
  fun _ _ hcursor => (skipKeyword_safe word hcursor).weaken fun _ _ h => ⟨h.1, trivial⟩

/-- And so are the tokens up to a keyword. -/
theorem sound_takeUntil (stops : List String) :
    Sound input (takeUntil stops) fun taken => ∀ t ∈ taken, t ∈ tokenize input := by
  intro left cursor hcursor
  refine safe_of_ok (by simp only [takeUntil, List.span_eq_takeWhile_dropWhile]; rfl)
    ⟨hcursor.onward (List.dropWhile_suffix _), ?_⟩
  intro t ht
  exact hcursor.mem ((List.takeWhile_prefix _).subset ht)

/-- A token that is left over is refused where it stands. -/
theorem sound_finish (expected : String) : Sound input (finish expected) fun _ => True := by
  intro left cursor hcursor
  cases htokens : cursor.tokens with
  | nil => exact safe_of_ok (by rw [finish, htokens]; rfl) ⟨hcursor, trivial⟩
  | cons t rest =>
    exact safe_of_error (by rw [finish, htokens]; rfl)
      (faithful_ofToken (hcursor.cons htokens).1 expected)

/-- A chain goes on from wherever a round that asks for another has stopped. -/
theorem Safe.chain {step : Rule (α × Bool)} {before after : Cursor → Prop}
    (h : ∀ cursor, before cursor → Safe input step (fun p rest =>
      (p.2 = true ∧ rest.tokens.length < cursor.tokens.length → before rest) ∧
        (¬ (p.2 = true ∧ rest.tokens.length < cursor.tokens.length) → after rest)) cursor) :
    ∀ cursor, before cursor → Safe input (chain step) (fun _ rest => after rest) cursor := by
  intro cursor hcursor
  have hround := h cursor hcursor
  unfold Safe at hround ⊢
  rw [Rule.chain]
  cases hstep : (step cursor).result with
  | error error => simpa [hstep] using hround
  | ok p =>
    obtain ⟨⟨a, more⟩, rest⟩ := p
    simp only [hstep] at hround ⊢
    obtain ⟨hmore, hlast⟩ := hround
    by_cases hgo : more = true ∧ rest.tokens.length < cursor.tokens.length
    · have hrest := Safe.chain h rest (hmore hgo)
      unfold Safe at hrest
      rw [if_pos hgo]
      cases htail : (Rule.chain step rest).result with
      | error error => simpa [htail, Except.map] using hrest
      | ok q => simpa [htail, Except.map] using hrest
    · rw [if_neg hgo]
      exact hlast hgo
termination_by cursor => cursor.tokens.length

/-- A chain is sound if one round of it is. -/
theorem Sound.chain {step : Rule (α × Bool)} (h : Sound input step fun _ => True) :
    Sound input (chain step) fun _ => True := by
  intro left cursor hcursor
  have hround : ∀ c : Cursor, c.Past input left → Safe input step (fun p rest =>
      (p.2 = true ∧ rest.tokens.length < c.tokens.length → rest.Past input left) ∧
        (¬ (p.2 = true ∧ rest.tokens.length < c.tokens.length) → rest.Past input left)) c :=
    fun c hc => (h left c hc).weaken fun _ _ hrest => ⟨fun _ => hrest.1, fun _ => hrest.1⟩
  exact (Safe.chain hround cursor hcursor).weaken fun _ _ hrest => ⟨hrest, trivial⟩

/-! ## 4. Groups and proof chains

`proof_clause` and the chain behind it.  The position of a dangling AND is taken ahead of the AND,
and that of a demanded clause ahead of the PROOF, so both are followed from where they start. -/

theorem sound_group (head : List Char) : Sound input (group head) fun _ => True := by
  intro left cursor hcursor
  cases hgather : gather (nestAll 0 head) cursor.tokens with
  | none => exact safe_of_error (by rw [group, hgather]; rfl) (hcursor.missing "')'")
  | some p =>
    obtain ⟨taken, rest⟩ := p
    have hrest : rest <:+ cursor.tokens := ⟨taken, (gather_eq_some _ _ hgather).1.symm⟩
    exact safe_of_ok (by rw [group, hgather]; rfl) ⟨hcursor.onward hrest, trivial⟩

/-- The position of a group is in range, so that an error about its trailing text is. -/
theorem sound_callHead {head : Token} (hhead : head.position < (tokenize input).length)
    (expected : String) :
    Sound input (callHead head expected) fun call => call.position < (tokenize input).length := by
  unfold callHead
  split
  · exact (sound_takeIf _ _).bind fun opening hopening => sound_pure (position_lt hopening)
  · exact sound_pure hhead

theorem sound_proofSpec : Sound input proofSpec fun _ => True := by
  refine (sound_takeIf _ _).bind fun head hhead => ?_
  refine Sound.guard (fun _ => faithful_ofToken hhead _) fun _ => ?_
  refine (sound_callHead (position_lt hhead) _).bind fun call hcall => ?_
  refine (sound_group _).bind fun contract _ => ?_
  refine Sound.guard (fun _ => hcall) fun _ => ?_
  refine Sound.guard (fun _ => hcall) fun _ => ?_
  exact sound_pure trivial

/-- A dangling `AND` is the token the rule starts from.  Nothing follows the AND then, and the
error is at the end of the input. -/
theorem sound_skipAnd : Sound input skipAnd fun _ => True := by
  intro left cursor hcursor
  refine (safe_get cursor).bind fun c rest hc => ?_
  obtain ⟨rfl, rfl⟩ := hc
  refine (skipKeyword_safe "AND" hcursor).bind fun found rest hskip => ?_
  obtain ⟨hrest, hfound, -⟩ := hskip
  cases found with
  | false => exact Sound.safe (sound_pure trivial) hrest
  | true =>
    obtain ⟨t, htokens, hand⟩ := hfound rfl
    have hplace : (tokenize input)[cursor.position]? = some t := by
      rw [← Nat.add_zero cursor.position, hcursor.getElem?_position_add, htokens]
      rfl
    have hnext : (tokenize input)[cursor.position + 1]? = rest.tokens.head? := by
      rw [hcursor.getElem?_position_add, htokens, List.head?_eq_getElem?]
      rfl
    have hlength := hcursor.position_add_length
    refine (safe_peek rest).bind fun found last hfound => ?_
    obtain ⟨rfl, rfl⟩ := hfound
    cases htail : rest.tokens with
    | nil =>
      rw [htokens, htail] at hlength
      exact ⟨⟨t, hplace, hand⟩, Or.inl hlength⟩
    | cons u us =>
      rw [htail] at hnext
      refine Sound.safe ?_ hrest
      refine Sound.guard (fun hclause => ?_) fun _ => sound_pure trivial
      exact ⟨⟨t, hplace, hand⟩, Or.inr ⟨u, hnext, hclause⟩⟩

theorem sound_proofLink : Sound input proofLink fun _ => True :=
  sound_proofSpec.bind fun _ _ => sound_skipAnd.bind fun _ _ => sound_pure trivial

/-- A clause that is demanded or forbidden is looked for where the rule starts. -/
theorem sound_proofClause (demand : ProofDemand) :
    Sound input (proofClause demand) fun _ => True := by
  intro left cursor hcursor
  have hplace : (tokenize input)[cursor.position]? = cursor.tokens.head? := by
    rw [← Nat.add_zero cursor.position, hcursor.getElem?_position_add, List.head?_eq_getElem?]
  have hlength := hcursor.position_add_length
  refine (safe_get cursor).bind fun c rest hc => ?_
  obtain ⟨rfl, rfl⟩ := hc
  refine (skipKeyword_safe "PROOF" hcursor).bind fun found rest hskip => ?_
  obtain ⟨hrest, hfound, habsent⟩ := hskip
  cases found with
  | true =>
    obtain ⟨t, htokens, hproof⟩ := hfound rfl
    rw [if_pos rfl]
    refine Sound.safe ?_ hrest
    refine Sound.guard (fun _ => ?_) fun _ => sound_proofLink.chain
    exact ⟨t, by rw [hplace, htokens]; rfl, hproof⟩
  | false =>
    rw [if_neg (by decide)]
    refine Sound.safe ?_ hrest
    refine Sound.guard (fun _ => ?_) fun _ => sound_pure trivial
    refine ⟨by omega, ?_⟩
    rw [hplace]
    exact habsent rfl

/-! ## 5. Queries

The clauses of a query, one after the other.  They are put together from sound rules, and only the
SELECT list has positions of its own: those of the tokens its pieces were cut from. -/

theorem sound_optionally {word : String} {body : Rule α} (h : Sound input body fun _ => True) :
    Sound input (optionally word body) fun _ => True :=
  (sound_skipKeyword word).bind fun _ _ =>
    Sound.ite (h.bind fun _ _ => sound_pure trivial) (sound_pure trivial)

theorem sound_driftPolicy : Sound input driftPolicy fun _ => True := by
  refine (sound_skipKeyword "WITH").bind fun _ _ => Sound.ite ?_ (sound_pure trivial)
  refine (sound_takeIf _ _).bind fun _ _ => ?_
  exact (sound_takeIf _ _).bind fun _ _ => sound_pure trivial

theorem sound_fromClause : Sound input fromClause fun _ => True := by
  refine (sound_takeIf _ _).bind fun _ _ => ?_
  refine (sound_takeIf _ _).bind fun kind hkind => ?_
  refine Sound.ite ?_ (Sound.ite ?_ (Sound.ite ?_ ?_))
  · exact (sound_takeIf _ _).bind fun _ _ => sound_pure trivial
  · exact (sound_takeIf _ _).bind fun _ _ => sound_pure trivial
  · refine (sound_takeIf _ _).bind fun _ _ => ?_
    exact sound_driftPolicy.bind fun _ _ => sound_pure trivial
  · exact sound_fail ⟨kind, getElem?_position hkind, rfl⟩

theorem sound_rawText (stops : List String) : Sound input (rawText stops) fun _ => True :=
  (sound_takeUntil stops).bind fun _ _ => sound_pure trivial

theorem sound_groupFields : Sound input groupFields fun _ => True := by
  refine (sound_takeIf _ _).bind fun _ _ => (sound_takeUntil _).bind fun _ _ => ?_
  exact (sound_note _).bind fun _ _ => sound_pure trivial

theorem sound_orderFields : Sound input orderFields fun _ => True := by
  refine (sound_takeIf _ _).bind fun _ _ => (sound_takeUntil _).bind fun _ _ => ?_
  exact (sound_note _).bind fun _ _ => sound_pure trivial

theorem sound_number (expected : String) : Sound input (number expected) fun _ => True := by
  refine (sound_takeIf _ _).bind fun token htoken => ?_
  split
  · exact sound_pure trivial
  · exact sound_fail ⟨token, getElem?_position htoken, rfl⟩

end Rule

/-- A piece of a SELECT list points at one of its tokens. -/
theorem SelectPiece.exists_position : ∀ {tokens : List Token},
    ∀ piece ∈ SelectPiece.ofTokens tokens, ∃ t ∈ tokens, piece.position = t.position
  | [], piece, h => absurd h (by simp [ofTokens])
  | [token], piece, h => by
    obtain ⟨_, -, rfl⟩ := List.mem_map.mp h
    exact ⟨token, List.mem_cons_self, rfl⟩
  | token :: next :: rest, piece, h => by
    rw [ofTokens] at h
    split at h
    · rcases List.mem_append.mp h with h | h
      · rcases List.mem_append.mp h with h | h
        · obtain ⟨_, -, rfl⟩ := List.mem_map.mp h
          exact ⟨token, List.mem_cons_self, rfl⟩
        · obtain rfl := List.mem_singleton.mp h
          exact ⟨next, by simp, rfl⟩
      · obtain ⟨t, ht, heq⟩ := exists_position piece h
        exact ⟨t, by simp [ht], heq⟩
    · rcases List.mem_append.mp h with h | h
      · obtain ⟨_, -, rfl⟩ := List.mem_map.mp h
        exact ⟨token, List.mem_cons_self, rfl⟩
      · obtain ⟨t, ht, heq⟩ := exists_position piece h
        exact ⟨t, List.mem_cons_of_mem _ ht, heq⟩

namespace Rule

theorem sound_selectItems (config : Config) {pieces : List SelectPiece}
    (h : ∀ piece ∈ pieces, piece.position < (tokenize input).length) :
    Sound input (selectItems config pieces) fun _ => True := by
  unfold selectItems
  dsimp only
  split
  · rename_i piece rest _ hstrange
    refine sound_fail (h piece ?_)
    have hmem : piece ∈ SelectPiece.unrecognised config.registry pieces := by
      rw [hstrange]
      exact List.mem_cons_self
    exact (List.mem_filter.mp hmem).1
  · exact (sound_note _).bind fun _ _ => (sound_note _).bind fun _ _ => sound_pure trivial

theorem sound_selectClause (config : Config) : Sound input (selectClause config) fun _ => True := by
  refine (sound_takeIf _ _).bind fun _ _ => ?_
  refine Sound.lookahead (fun t ht _ => faithful_ofToken ht _) ?_
  refine (sound_takeUntil _).bind fun tokens htokens => sound_selectItems config ?_
  intro piece hpiece
  obtain ⟨t, ht, heq⟩ := SelectPiece.exists_position piece hpiece
  rw [heq]
  exact position_lt (htokens t ht)

theorem sound_query (config : Config) (demand : ProofDemand) :
    Sound input (query config demand) fun _ => True := by
  refine (sound_selectClause config).bind fun _ _ => ?_
  refine sound_fromClause.bind fun _ _ => ?_
  refine (sound_optionally (sound_rawText _)).bind fun _ _ => ?_
  refine (sound_optionally sound_groupFields).bind fun _ _ => ?_
  refine (sound_optionally (sound_rawText _)).bind fun _ _ => ?_
  refine (sound_proofClause demand).bind fun _ _ => ?_
  refine (sound_optionally sound_orderFields).bind fun _ _ => ?_
  refine (sound_optionally (sound_number _)).bind fun _ _ => ?_
  refine (sound_optionally (sound_number _)).bind fun _ _ => ?_
  exact (sound_finish _).bind fun _ _ => sound_pure trivial

end Rule

/-! ## 6. Mutations

A comma that stands at the front of a token is cut off and the rest of the token is read as the
next one.  From there to the next token the cursor is `Reworded`, and a payload takes it from
`Reworded` to `Reworded`, with fewer tokens left; behind the last payload it is `Past` again. -/

/-- The cursor is in the input, but the text of the next token may have been rewritten. -/
def Cursor.Reworded (input : String) (left : List Token) (cursor : Cursor) : Prop :=
  ∃ tokens, Cursor.Past input left { cursor with tokens := tokens } ∧
    cursor.tokens.tail = tokens.tail ∧ cursor.tokens.map (·.position) = tokens.map (·.position)

/-- A cursor in the input has nothing rewritten. -/
theorem Cursor.Past.reworded {cursor : Cursor} (h : cursor.Past input left) :
    cursor.Reworded input left :=
  ⟨cursor.tokens, h, rfl, rfl⟩

namespace Cursor.Reworded

variable {cursor : Cursor}

/-- The next token is in its place, and those behind it are tokens of the input. -/
theorem cons (h : cursor.Reworded input left) {t : Token} {rest : List Token}
    (htokens : cursor.tokens = t :: rest) : t.position < (tokenize input).length ∧
      rest <:+ left ∧ Cursor.Past input rest { cursor with tokens := rest } := by
  obtain ⟨tokens, hpast, htail, hpositions⟩ := h
  rw [htokens] at htail hpositions
  cases tokens with
  | nil => cases hpositions
  | cons u us =>
    obtain rfl : rest = us := htail
    have hposition : t.position = u.position := (List.cons.inj hpositions).1
    obtain ⟨hmem, hrest⟩ := hpast.cons rfl
    refine ⟨?_, hrest.tokens, hrest.here⟩
    rw [hposition]
    exact position_lt hmem

/-- Rewriting a token takes none away. -/
theorem length_le (h : cursor.Reworded input left) : cursor.tokens.length ≤ left.length := by
  obtain ⟨tokens, hpast, -, hpositions⟩ := h
  have hlength := congrArg List.length hpositions
  rw [List.length_map, List.length_map] at hlength
  rw [hlength]
  exact hpast.tokens.length_le

theorem mono (h : cursor.Reworded input left) {earlier : List Token} (hleft : left <:+ earlier)
    (hearlier : earlier <:+ tokenize input) : cursor.Reworded input earlier := by
  obtain ⟨tokens, hpast, htail, hpositions⟩ := h
  exact ⟨tokens, hpast.mono hleft hearlier, htail, hpositions⟩

theorem refusal (h : cursor.Reworded input left) (expected : String) :
    (cursor.refusal expected).Faithful (tokenize input) := by
  rw [Cursor.refusal]
  split
  · rename_i t rest htokens
    exact (h.cons htokens).1
  · obtain ⟨tokens, hpast, -, -⟩ := h
    exact hpast.count

end Cursor.Reworded

namespace Rule

variable {rule : Rule α} {cursor : Cursor}

/-- Taking a reworded token; what is behind it is the input again. -/
theorem takeIf_safe (test : Token → Bool) (expected : String)
    (h : cursor.Reworded input left) :
    Safe input (takeIf test expected) (fun t rest => t.position < (tokenize input).length ∧
      ∃ later, later <:+ left ∧ later.length < cursor.tokens.length ∧ rest.Past input later)
      cursor := by
  rcases takeIf_cases test expected cursor with ⟨t, rest, htokens, hresult⟩ | hresult
  · obtain ⟨hposition, hleft, hrest⟩ := h.cons htokens
    exact safe_of_ok hresult ⟨hposition, rest, hleft, by simp [htokens], hrest⟩
  · exact safe_of_error hresult (h.refusal expected)

/-- A comma that is skipped may leave the rest of its token. -/
theorem skipComma_safe (h : cursor.Past input left) :
    Safe input skipComma (fun found rest => rest.Reworded input left ∧
      (found = false → rest.Past input left)) cursor := by
  have hcases : (skipComma cursor).result = .ok (false, cursor) ∨
      ∃ rest, (skipComma cursor).result = .ok (true, rest) ∧ rest.Reworded input left := by
    unfold skipComma
    split
    · exact Or.inl rfl
    · rename_i t rest htokens
      split
      · exact Or.inr ⟨_, rfl, (h.cons htokens).2.reworded⟩
      · -- the comma is cut off its token, which stays in its place
        refine Or.inr ⟨_, rfl, cursor.tokens, h, ?_, ?_⟩
        · rw [htokens]
          rfl
        · rw [htokens]
          rfl
      · exact Or.inl rfl
  rcases hcases with hresult | ⟨rest, hresult, hrest⟩
  · exact safe_of_ok hresult ⟨h.reworded, fun _ => h⟩
  · exact safe_of_ok hresult ⟨hrest, by simp⟩

/-- A payload may start in a reworded token; if another is to follow, so may that one. -/
theorem payload_safe (h : cursor.Reworded input left) :
    Safe input payload (fun p rest => ∃ later, later <:+ left ∧
      later.length < cursor.tokens.length ∧ rest.Reworded input later ∧
      (p.2 = false → rest.Past input later)) cursor := by
  refine (takeIf_safe _ _ h).bind fun head rest ⟨hhead, later, hleft, hlength, hrest⟩ => ?_
  have hcount : 0 < (tokenize input).length := Nat.zero_lt_of_lt hhead
  refine ((sound_callHead hhead _).safe hrest).bind fun call rest ⟨hrest, hcall⟩ => ?_
  have hname : (ParseError.ofToken "modality name" head).Faithful (tokenize input) := hhead
  refine Safe.guard (fun _ => safe_fail hname _) fun _ => ?_
  refine ((sound_group _).safe hrest).bind fun content rest ⟨hrest, _⟩ => ?_
  dsimp only
  split
  · exact ⟨later, hleft, hlength, hrest.reworded, by simp⟩
  split
  · refine (safe_get rest).bind fun c last hc => ?_
    obtain ⟨rfl, rfl⟩ := hc
    refine (safe_fail ?_ fun _ _ => False).bind fun _ _ hfalse => hfalse.elim
    have hposition := hrest.position_add_length
    change rest.position - 1 < (tokenize input).length
    omega
  · refine (skipComma_safe hrest).bind fun more last hlast => ?_
    exact ⟨later, hleft, hlength, hlast⟩

/-- Behind the last payload stand tokens of the input. -/
theorem sound_payloads : Sound input (chain payload) fun _ => True := by
  intro left cursor hcursor
  have hsuffix := hcursor.suffix
  have hround : ∀ c : Cursor, c.Reworded input left → Safe input payload (fun p rest =>
      (p.2 = true ∧ rest.tokens.length < c.tokens.length → rest.Reworded input left) ∧
        (¬ (p.2 = true ∧ rest.tokens.length < c.tokens.length) → rest.Past input left)) c := by
    intro c hc
    refine (payload_safe hc).weaken ?_
    rintro ⟨item, more⟩ rest ⟨later, hlater, hlength, hrest, hlast⟩
    refine ⟨fun _ => hrest.mono hlater hsuffix, fun hstop => ?_⟩
    -- a payload takes a token, so only the missing comma can end the chain
    have hshorter : rest.tokens.length < c.tokens.length := hrest.length_le.trans_lt hlength
    cases more with
    | true => exact absurd ⟨rfl, hshorter⟩ hstop
    | false => exact (hlast rfl).mono hlater hsuffix
  exact (Safe.chain hround cursor hcursor.reworded).weaken fun _ _ hrest => ⟨hrest, trivial⟩

theorem sound_insert : Sound input insert fun _ => True := by
  refine (sound_takeIf _ _).bind fun _ _ => ?_
  refine (sound_takeIf _ _).bind fun _ _ => ?_
  refine sound_payloads.bind fun _ _ => ?_
  refine Sound.lookahead (fun t ht _ => faithful_ofToken ht _) ?_
  refine (sound_proofClause _).bind fun _ _ => ?_
  exact (sound_note _).bind fun _ _ => sound_pure trivial

end Rule

/-- A piece of a span points at one of its tokens. -/
theorem exists_position_assignmentPieces {tokens : List Token} {piece : AssignmentPiece}
    (h : piece ∈ assignmentPieces tokens) : ∃ t ∈ tokens, piece.position = t.position := by
  obtain ⟨cs, hcs, hpiece⟩ := List.mem_filterMap.mp h
  obtain ⟨p, hp, rfl⟩ := Option.map_eq_some_iff.mp hpiece
  obtain ⟨c, hc, hposition⟩ := List.exists_of_findSome?_eq_some hp
  obtain ⟨t, ht, hmem⟩ := List.mem_flatMap.mp (SpanChar.mem_of_mem_cut hcs hc)
  refine ⟨t, ht, ?_⟩
  rcases List.mem_cons.mp hmem with rfl | hmem
  · cases hposition
  · obtain ⟨_, -, rfl⟩ := List.mem_map.mp hmem
    exact (Option.some.inj hposition).symm

namespace Rule

theorem sound_assignment {piece : AssignmentPiece}
    (h : piece.position < (tokenize input).length) :
    Sound input (assignment piece) fun _ => True := by
  unfold assignment
  split
  · exact Sound.ite (sound_fail h) (sound_pure trivial)
  · exact sound_fail h

/-- Assignments are refused at the tokens of their pieces. -/
theorem sound_assignments : ∀ {pieces : List AssignmentPiece},
    (∀ piece ∈ pieces, piece.position < (tokenize input).length) →
      Sound input (pieces.mapM assignment) fun _ => True
  | [], _ => sound_pure trivial
  | piece :: pieces, h => by
    rw [List.mapM_cons]
    refine (sound_assignment (h piece List.mem_cons_self)).bind fun _ _ => ?_
    have hrest := sound_assignments fun p hp => h p (List.mem_cons_of_mem _ hp)
    exact hrest.bind fun _ _ => sound_pure trivial

theorem sound_setClause : Sound input setClause fun _ => True := by
  refine (sound_takeIf _ _).bind fun _ _ => (sound_takeUntil _).bind fun tokens htokens => ?_
  have hpieces : Sound input ((assignmentPieces tokens).mapM assignment) fun _ => True := by
    refine sound_assignments fun piece hpiece => ?_
    obtain ⟨t, ht, heq⟩ := exists_position_assignmentPieces hpiece
    rw [heq]
    exact position_lt (htokens t ht)
  dsimp only
  refine Sound.ite ?_ (Sound.ite ?_ hpieces)
  · refine sound_get.bind fun c hc => ?_
    have hrefused : Sound input (fail (c.refusal "field=value") : Rule Unit) fun _ => False :=
      sound_fail (hc.refusal _)
    exact hrefused.bind fun _ hfalse => hfalse.elim
  · exact (sound_note _).bind fun _ _ => hpieces

theorem sound_update : Sound input update fun _ => True := by
  refine (sound_takeIf _ _).bind fun _ _ => ?_
  refine (sound_takeIf _ _).bind fun _ _ => ?_
  refine sound_setClause.bind fun _ _ => (sound_proofClause _).bind fun _ _ => ?_
  exact (sound_note _).bind fun _ _ => sound_pure trivial

theorem sound_delete : Sound input delete fun _ => True := by
  refine (sound_takeIf _ _).bind fun _ _ => (sound_takeIf _ _).bind fun _ _ => ?_
  exact (sound_proofClause _).bind fun _ _ => sound_pure trivial

theorem sound_mutation : Sound input mutation fun _ => True := by
  refine (sound_takeIf _ _).bind fun first hfirst => ?_
  have hbody : Sound input (mutationBody first) fun _ => True :=
    Sound.ite sound_insert (Sound.ite sound_update (Sound.ite sound_delete
      (sound_fail ⟨first, getElem?_position hfirst, rfl⟩)))
  refine hbody.bind fun _ _ => ?_
  exact (sound_finish _).bind fun _ _ => sound_pure trivial

/-! ## 7. All entry grammars

What is done with the result of a rule, to make an outcome of an entry function of it, leaves the
errors as they are. -/

theorem sound_statement (config : Config) : Sound input (statement config) fun _ => True := by
  refine sound_peek.bind fun found hfound => ?_
  cases found with
  | none => exact sound_get.bind fun c hc => sound_fail (hc.missing _)
  | some first =>
    refine Sound.ite ?_ ?_
    · exact sound_mutation.bind fun _ _ => sound_pure trivial
    · exact (sound_query config _).bind fun _ _ => sound_pure trivial

/-- An error is left as it is by what is done with a value. -/
theorem error_of_map {f : α → β} {result : Except ParseError α} {error : ParseError}
    (h : result.map f = .error error) : result = .error error := by
  cases result with
  | error e =>
    obtain rfl : e = error := Except.error.inj h
    rfl
  | ok a => cases h

/-- A text is read from its start, where the invariant holds. -/
theorem Sound.run {rule : Rule α} {holds : α → Prop} (hsound : Sound input rule holds)
    {error : ParseError} (h : (rule.run input).result = .error error) :
    error.Faithful (tokenize input) := by
  have hsafe := hsound.safe (Cursor.Past.start input)
  rw [run_result] at h
  rw [Safe, error_of_map h] at hsafe
  exact hsafe

/-- A reading fails where its rule does. -/
theorem Sound.reading {rule : Rule α} {holds : α → Prop} (hsound : Sound input rule holds)
    {f : α → β} {event : α → Event} {render : α → String} {error : ParseError}
    (h : (f <$> (rule.run input).accepted event render).result = .error error) :
    error.Faithful (tokenize input) := by
  rw [Outcome.map_result, Outcome.accepted_result] at h
  exact hsound.run (error_of_map h)

end Rule

/-- **What an error says about the input is true.**  Every rule is sound by itself, and each of the
five entrances runs one rule on all the tokens; what soundness says of a refusal is what is claimed
of the error. -/
theorem parse_error_faithful (config : Config) (action : Action) (input : String)
    {error : ParseError} (h : (parse config action input).result = .error error) :
    error.Faithful (tokenize input) := by
  cases action with
  | query => exact (Rule.sound_query config .optional).reading h
  | slipstream => exact (Rule.sound_query config .forbidden).reading h
  | dependentType => exact (Rule.sound_query config .required).reading h
  | mutation => exact Rule.sound_mutation.reading h
  | statement => exact (Rule.sound_statement config).reading h

/-- A chain that dangles: the error points at its second `AND`, ahead of the LIMIT. -/
theorem parse_dangling_and :
    let input := "SELECT * FROM STORE s PROOF t(c) and u (d) And LIMIT 5"
    (parse Config.lenient .query input).result = .error (.danglingProofChain 10) ∧
      (ParseError.danglingProofChain 10).Faithful (tokenize input) := by
  have h : (parse Config.lenient .query
      "SELECT * FROM STORE s PROOF t(c) and u (d) And LIMIT 5").result =
      .error (.danglingProofChain 10) := by decide +kernel
  exact ⟨h, parse_error_faithful Config.lenient .query _ h⟩

end HexadQuery
