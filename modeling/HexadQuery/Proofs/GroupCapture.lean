/-
# What a group takes, counted

A group takes tokens by the depth at their ENDS and is cut at the first character where the depth
is back at zero.  Here both are said without depths, by counting parentheses: a group takes the
least number of tokens after which its text holds no more opening than closing parentheses
(`gather_of_isLeast`), is refused exactly if no number does (`gather_eq_none_iff`), and its text is
`(u)v` with a matched `u` (`Rule.group_eq_ok`).

This is the description a reader of `take_group` would give of it, and it leaves the loop out: no
order in which tokens are looked at, no running count, only a least number.  The proof is the loop
read backwards.  Positive depth at the end of a token is the failure of `Closes` for the tokens up
to it (`closes_iff`), so being least is the condition under which gathering goes on to the end of
the tokens and stops there.

The two scans may stop in different tokens: `(a)(b c)` is one group with the trailing text `(b c)`,
which runs over two tokens.  They do so only if a parenthesis opens behind the closing one and is
in the trailing text, so with nothing or a comma there the last token taken is the one that closes
the group (`close_mem_last`).  Nothing or a comma is what `modality_payload` accepts behind a
payload, so the groups that lead to a statement all end where they close.
-/
import HexadQuery.Proofs.TreeShapes
import Mathlib.Order.Bounds.Basic

namespace HexadQuery.Rule

/-! ## 1. How many tokens

`Closes` compares two counts, and `nestAll_eq_count` says that the depth is their difference. -/

/-- The text of these tokens behind `head` has no more opening than closing parentheses. -/
def Closes (head : List Char) (taken : List Token) : Prop :=
  (gatheredText head taken).count '(' ≤ (gatheredText head taken).count ')'

instance (head : List Char) (taken : List Token) : Decidable (Closes head taken) :=
  inferInstanceAs (Decidable (_ ≤ _))

/-- Closing, by the depth that gathering looks at. -/
theorem closes_iff {head : List Char} {taken : List Token} :
    Closes head taken ↔ nestAll (nestAll 0 head) (spelled [] (taken.map (·.text))) ≤ 0 := by
  have hdepth : nestAll (nestAll 0 head) (spelled [] (taken.map (·.text))) =
      nestAll 0 (gatheredText head taken) := by
    rw [gatheredText_eq]
    simp [spelled, nestAll_append]
  rw [hdepth, nestAll_eq_count, Closes]
  omega

/-- Fewer tokens than the least number do not close the group. -/
theorem not_closes_of_isLeast {head : List Char} {left taken more : List Token} {k : Nat}
    (h : IsLeast {k | Closes head (left.take k)} k) (htake : left.take k = taken ++ more)
    (hmore : more ≠ []) : ¬ Closes head taken := by
  have hlt : taken.length < k := by
    have hlength := congrArg List.length htake
    have hpos := List.length_pos_iff.mpr hmore
    rw [List.length_take, List.length_append] at hlength
    omega
  have hfewer : left.take taken.length = taken := by
    have hprefix := congrArg (List.take taken.length) htake
    rwa [List.take_take, Nat.min_eq_left hlt.le, List.take_left] at hprefix
  intro hcloses
  rw [← hfewer] at hcloses
  exact absurd (h.2 hcloses) (Nat.not_le.mpr hlt)

/-- **The least number of tokens that closes the group is gathered.**  Gathering asks after each
token, so it stops at the first number that answers. -/
theorem gather_of_isLeast {head : List Char} {left : List Token} {k : Nat}
    (h : IsLeast {k | Closes head (left.take k)} k) :
    gather (nestAll 0 head) left = some (left.take k, left.drop k) := by
  have hgather := gather_append (left.take k) (nestAll 0 head) (left.drop k) ?_ (closes_iff.mp h.1)
  · rwa [List.take_append_drop] at hgather
  · intro taken more htake hmore
    have hnot := not_closes_of_isLeast h htake hmore
    rw [closes_iff] at hnot
    omega

/-- **A group is refused exactly if no number of tokens closes it.**  All the tokens that are
left are among the numbers to try, so a refusal has looked at everything. -/
theorem gather_eq_none_iff {head : List Char} {left : List Token} :
    gather (nestAll 0 head) left = none ↔ ¬ ∃ k, Closes head (left.take k) := by
  constructor
  · rintro hnone ⟨k, hk⟩
    classical
    have hleast : IsLeast {k | Closes head (left.take k)} (Nat.find ⟨k, hk⟩) :=
      ⟨Nat.find_spec _, fun j hj => Nat.find_le hj⟩
    rw [gather_of_isLeast hleast] at hnone
    cases hnone
  · intro hnot
    rw [Option.eq_none_iff_forall_ne_some]
    rintro ⟨taken, rest⟩ hgather
    obtain ⟨rfl, hle⟩ := gather_eq_some left _ hgather
    refine hnot ⟨taken.length, ?_⟩
    rw [List.take_left]
    exact closes_iff.mpr hle

/-! ## 2. Where the group ends

Cutting and gathering meet in the last token.  The cut is somewhere in the gathered text; were it
ahead of the last token, the tokens up to there would have closed the group, unless a parenthesis
has opened since. -/

/-- The last of the tokens taken, or the head if none was. -/
def lastPart (head : List Char) (taken : List Token) : List Char :=
  (taken.getLast?.map (·.text.toList)).getD head

/-- **The group ends in the last token**, unless a parenthesis opens in its trailing text. -/
theorem close_mem_last {head inside after : List Char} {taken : List Token}
    (htext : gatheredText head taken = '(' :: inside ++ ')' :: after) (hin : Balanced inside)
    (hopen : '(' ∉ after) (hleast : ∀ init last, taken = init ++ [last] → ¬ Closes head init) :
    ')' :: after <:+ lastPart head taken := by
  rcases List.eq_nil_or_concat taken with rfl | ⟨init, last, rfl⟩
  · exact ⟨'(' :: inside, by simpa [gatheredText, lastPart] using htext.symm⟩
  · rw [List.concat_eq_append] at htext hleast ⊢
    have hsplit : gatheredText head init ++ ' ' :: last.text.toList =
        '(' :: inside ++ ')' :: after := by
      rw [← htext]
      simp [gatheredText]
    have hlast : lastPart head (init ++ [last]) = last.text.toList := by simp [lastPart]
    rw [hlast]
    rcases List.append_eq_append_iff.mp hsplit with ⟨zs, -, hzs⟩ | ⟨zs, hinit, hzs⟩
    · -- the space ahead of the last token stands in the group
      cases zs with
      | nil => exact absurd (List.head_eq_of_cons_eq hzs) (by decide)
      | cons z zs => exact ⟨zs, (List.tail_eq_of_cons_eq hzs).symm⟩
    · -- the group was closed ahead of the last token, and nothing has opened since
      exfalso
      cases zs with
      | nil => exact absurd (List.head_eq_of_cons_eq hzs) (by decide)
      | cons z zs =>
        obtain ⟨rfl, rfl⟩ := List.cons.inj hzs
        have hzero : nestAll 0 (gatheredText head init) ≤ 0 := by
          rw [hinit, List.cons_append, nestAll_cons, nest_open, nestAll_append,
            nestAll_eq_add inside, hin.closed, nestAll_cons, nest_close]
          exact nestAll_le_of_not_mem zs _ fun hmem => hopen (List.mem_append_left _ hmem)
        refine hleast init last rfl ?_
        rw [nestAll_eq_count] at hzero
        rw [Closes]
        omega

/-- Nothing or a comma as trailing text: no parenthesis opens there. -/
theorem not_open_mem_of_trim {after : String}
    (h : Text.trim after = "" ∨ Text.trim after = ",") : '(' ∉ after.toList := by
  intro hmem
  obtain ⟨as, bs, hafter, has, hbs⟩ := Text.exists_trimChars_eq after.toList
  have hblank : Text.isBlank '(' = false := by decide
  have htrim : '(' ∈ (Text.trim after).toList := by
    rw [hafter, List.append_assoc, List.mem_append, List.mem_append] at hmem
    rw [Text.trim, String.toList_ofList]
    rcases hmem with hmem | hmem | hmem
    · exact absurd (has _ hmem) (by simp [hblank])
    · exact hmem
    · exact absurd (hbs _ hmem) (by simp [hblank])
  rcases h with h | h
  · rw [h] at htrim
    exact absurd htrim (by decide)
  · rw [h] at htrim
    exact absurd htrim (by decide)

/-! ## 3. The law of groups

`Captured` collects what is known of a group that was taken, and `group_captures_least` states the
outcome of `group` on all inputs: the one refusal with its error, and for each success how far the
cursor moves and what is captured on the way. -/

/-- What a group makes of the tokens it takes: their text behind `head`, joined by single spaces, is
`(inside)after` with a matched inside, both are kept trimmed, and with nothing or a comma behind it
the group ends in the last of the tokens. -/
structure Captured (head : List Char) (taken : List Token) (content : Group)
    (inside after : String) : Prop where
  /-- the head and the tokens, joined by single spaces -/
  text : String.ofList (gatheredText head taken) = "(" ++ inside ++ ")" ++ after
  /-- so the closing parenthesis is the one of the first -/
  matched : Text.Matched inside
  /-- what the group holds -/
  inner : content.inner = Text.trim inside
  /-- what is behind it, in the tokens that were taken -/
  trailing : content.trailing = Text.trim after
  /-- no token was taken behind the one with the closing parenthesis -/
  ends : content.trailing = "" ∨ content.trailing = "," →
    ')' :: after.toList <:+ lastPart head taken

/-- A group that closes with the fewest tokens possible captures them. -/
theorem exists_captured {head : List Char} (hhead : head.head? = some '(') {left : List Token}
    (count : Nat) {k : Nat} (hleast : IsLeast {k | Closes head (left.take k)} k) :
    ∃ content inside after,
      (group head ⟨left, count⟩).result = .ok (content, ⟨left.drop k, count⟩) ∧
      Captured head (left.take k) content inside after := by
  have hok : (group head ⟨left, count⟩).result =
      .ok (Group.ofText (gatheredText head (left.take k)), ⟨left.drop k, count⟩) := by
    simp only [group, gather_of_isLeast hleast, Outcome.ok]
  obtain ⟨more, inside, after, hwords, htext, hin, hcontent⟩ := group_eq_ok hhead hok
  have hmore : more = (left.take k).map (·.text) := by
    refine List.append_cancel_right (hwords.symm.trans ?_)
    rw [Cursor.words_mk, Cursor.words_mk, ← List.map_append, List.take_append_drop]
  rw [hmore, ← gatheredText_eq] at htext
  refine ⟨_, String.ofList inside, String.ofList after, hok, ?_⟩
  constructor
  case text =>
    rw [htext, ← String.toList_inj]
    simp
  case matched => exact balanced_iff.mp (by rwa [String.toList_ofList])
  case inner => rw [hcontent, Text.trim, String.toList_ofList]
  case trailing => rw [hcontent, Text.trim, String.toList_ofList]
  case ends =>
    intro htrailing
    have hafter : Group.trailing ⟨String.ofList (Text.trimChars inside),
        String.ofList (Text.trimChars after)⟩ = Text.trim (String.ofList after) := by
      rw [Text.trim, String.toList_ofList]
    rw [hcontent, hafter] at htrailing
    -- without trailing text all that stands behind the close is blank, and opens nothing
    have hopen := not_open_mem_of_trim htrailing
    rw [String.toList_ofList] at hopen ⊢
    exact close_mem_last htext hin hopen fun init last htake =>
      not_closes_of_isLeast hleast htake (by simp)

/-- **Groups are captured exactly.**  Behind a head that opens it, a group takes the least number of
tokens that closes it, and is refused exactly if no number does; what it takes it captures. -/
theorem group_captures_least {head : List Char} (hhead : head.head? = some '(')
    (tokens : List Token) (position : Nat) :
    ((group head ⟨tokens.drop position, tokens.length⟩).result =
        .error (.unexpectedEnd "')'" tokens.length) ↔
      ¬ ∃ k, Closes head ((tokens.drop position).take k)) ∧
    ∀ k, IsLeast {k | Closes head ((tokens.drop position).take k)} k →
      ∃ content inside after,
        (group head ⟨tokens.drop position, tokens.length⟩).result =
          .ok (content, ⟨tokens.drop (position + k), tokens.length⟩) ∧
        Captured head ((tokens.drop position).take k) content inside after := by
  refine ⟨?_, fun k hleast => ?_⟩
  · rw [← gather_eq_none_iff]
    cases hgather : gather (nestAll 0 head) (tokens.drop position) with
    | none => simp [group, hgather, Outcome.fail, Cursor.missing]
    | some pair => simp [group, hgather, Outcome.ok]
  · rw [← List.drop_drop]
    exact exists_captured hhead tokens.length hleast

/-- The head opens two groups and three tokens close them, the last of them with a comma; the token
behind it stays. -/
theorem group_captures_nested :
    ∃ content inside after,
      (group "(name=Jeanne,(at".toList ⟨tokenize "d'Arc, x=(1)) y), VECTOR(b)", 4⟩).result =
        .ok (content, ⟨[⟨"VECTOR(b)", 3, 18⟩], 4⟩) ∧
      Captured "(name=Jeanne,(at".toList
        [⟨"d'Arc,", 0, 0⟩, ⟨"x=(1))", 1, 7⟩, ⟨"y),", 2, 14⟩] content inside after := by
  have hfewer : ∀ j < 3, ¬ Closes "(name=Jeanne,(at".toList
      (((tokenize "d'Arc, x=(1)) y), VECTOR(b)").drop 0).take j) := by
    decide
  exact (group_captures_least (by decide) (tokenize "d'Arc, x=(1)) y), VECTOR(b)") 0).2 3
    ⟨by decide, fun j hj => Nat.le_of_not_lt fun hlt => hfewer j hlt hj⟩

end HexadQuery.Rule
