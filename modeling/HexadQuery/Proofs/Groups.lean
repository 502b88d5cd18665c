/-
# Groups in parentheses

What a group takes and where it is cut.  A text is `Balanced` when its parentheses match; the group
`(inside)` with a balanced inside is cut exactly at its last parenthesis, whatever follows
(`Group.cut_of_balanced`), and every group that is taken is cut behind a balanced inside
(`Group.cut_one_eq`).

The two functions of the source that do this look at different places.  `take_group` asks after
each token whether the depth has fallen to zero, so it looks at the ENDS of tokens; the `split` of
a `DelimitedGroup` then goes through the gathered text character by character and cuts where the
depth FIRST falls to zero.  The two agree when nothing but the rest of a word follows the cut, and
this is the only case in which the callers are content: a payload wants nothing or a comma there, a
contract nothing at all.

The argument goes through the depth.

* The depth is a sum: starting it higher raises every depth behind it by as much
  (`nestAll_eq_add`).  So a statement about a group, where counting starts at the parenthesis that
  opens it, is a statement about its inside, where counting starts at zero.
* Gathering stops at the first token end where the depth is not positive (`gather_append`,
  `gather_eq_some`), cutting at the first such character (`Group.cut_append`, `Group.cut_eq`).
* A space changes no depth, so the gathered text may be spelled out with the spaces that joining
  puts between tokens, and the words of a group are enough to speak about it (`spelled`).

From these come a completeness lemma and a soundness lemma for `group`, in the two forms that all
rules have: `reads_group` says which words are read as a group, `group_eq_ok` what the words of a
group that was read are.  The last section does the same for the name ahead of the parenthesis,
which may stand in the same token or in the one before.
-/
import HexadQuery.Grammar.Group
import HexadQuery.Proofs.Reading
import Mathlib.Data.List.Infix

namespace HexadQuery

/-! ## 1. Depth

`nest` and `nestAll` as sums.  Everything a later section says about depths it says about `nestAll
0`, and comes there by `nestAll_eq_add`. -/

/-- The depth behind two texts, one behind the other. -/
theorem nestAll_append (depth : Int) (as bs : List Char) :
    nestAll depth (as ++ bs) = nestAll (nestAll depth as) bs :=
  List.foldl_append

@[simp] theorem nestAll_nil (depth : Int) : nestAll depth [] = depth := rfl

@[simp] theorem nestAll_cons (depth : Int) (c : Char) (cs : List Char) :
    nestAll depth (c :: cs) = nestAll (nest depth c) cs := rfl

/-- What one character adds does not depend on how deep it stands. -/
theorem nest_eq_add (depth : Int) (c : Char) : nest depth c = depth + nest 0 c := by
  unfold nest
  split
  · omega
  · split <;> omega

/-- The depth counts from where it starts. -/
theorem nestAll_eq_add : ∀ (cs : List Char) (depth : Int), nestAll depth cs = depth + nestAll 0 cs
  | [], depth => by simp
  | c :: cs, depth => by
    rw [nestAll_cons, nestAll_cons, nestAll_eq_add cs (nest depth c), nestAll_eq_add cs (nest 0 c),
      nest_eq_add depth c]
    omega

/-- Joining tokens by spaces leaves depths as they are. -/
@[simp] theorem nest_space (depth : Int) : nest depth ' ' = depth := by
  have h : ((' ' : Char) == '(') = false ∧ ((' ' : Char) == ')') = false := by decide
  simp [nest, h.1, h.2]

@[simp] theorem nest_open (depth : Int) : nest depth '(' = depth + 1 := by
  simp [nest]

@[simp] theorem nest_close (depth : Int) : nest depth ')' = depth - 1 := by
  have h : ((')' : Char) == '(') = false := by decide
  simp [nest, h]

/-- A character lowers the depth by one at most, so no depth is skipped on the way down. -/
theorem le_nest (depth : Int) (c : Char) : depth - 1 ≤ nest depth c := by
  unfold nest
  split
  · omega
  · split <;> omega

/-- Only a closing parenthesis lowers the depth. -/
theorem eq_close_of_nest_lt {depth : Int} {c : Char} (h : nest depth c < depth) : c = ')' := by
  unfold nest at h
  split at h
  · omega
  · split at h
    · next hc => exact beq_iff_eq.mp hc
    · omega

/-- A character that is no parenthesis leaves the depth as it is. -/
theorem nest_eq_self {c : Char} (hopen : c ≠ '(') (hclose : c ≠ ')') (depth : Int) :
    nest depth c = depth := by
  simp [nest, hopen, hclose]

/-- A text without parentheses leaves the depth as it is. -/
theorem nestAll_eq_self : ∀ (cs : List Char) (depth : Int), '(' ∉ cs → ')' ∉ cs →
    nestAll depth cs = depth
  | [], _, _, _ => rfl
  | c :: cs, depth, hopen, hclose => by
    rw [nestAll_cons, nest_eq_self (List.ne_of_not_mem_cons hopen).symm
      (List.ne_of_not_mem_cons hclose).symm]
    exact nestAll_eq_self cs depth (List.not_mem_of_not_mem_cons hopen)
      (List.not_mem_of_not_mem_cons hclose)

/-- Without an opening parenthesis the depth does not grow.  What is behind the cut of a group is
such a text, and that is why the last token ends at a depth of zero or below. -/
theorem nestAll_le_of_not_mem : ∀ (cs : List Char) (depth : Int), '(' ∉ cs → nestAll depth cs ≤ depth
  | [], _, _ => Int.le_refl _
  | c :: cs, depth, h => by
    have hc : nest depth c ≤ depth := by
      unfold nest
      rw [if_neg (by
        intro hc
        exact h (by rw [beq_iff_eq.mp hc]; exact List.mem_cons_self))]
      split <;> omega
    have ih := nestAll_le_of_not_mem cs (nest depth c) fun hm => h (List.mem_cons_of_mem _ hm)
    exact Int.le_trans ih hc

/-- As many closing as opening parentheses, and nowhere more of the former.  The second part
speaks of every front of the text, since a text such as `)(` has equal numbers of both. -/
structure Balanced (cs : List Char) : Prop where
  /-- as many of both -/
  closed : nestAll 0 cs = 0
  /-- nowhere more closing ones -/
  nonneg : ∀ ds, ds <+: cs → 0 ≤ nestAll 0 ds

/-- The fronts of a text are finitely many, so whether it is balanced can be computed. -/
instance (cs : List Char) : Decidable (Balanced cs) :=
  decidable_of_iff (nestAll 0 cs = 0 ∧ ∀ ds ∈ cs.inits, 0 ≤ nestAll 0 ds)
    ⟨fun h => ⟨h.1, fun ds hds => h.2 ds ((List.mem_inits ds cs).mpr hds)⟩,
      fun h => ⟨h.closed, fun ds hds => h.nonneg ds ((List.mem_inits ds cs).mp hds)⟩⟩

/-! ## 2. Where a group is cut

`Group.cut` is a recursion over characters that carries the depth, so both directions are
inductions over the text at a depth that varies; the balanced inside appears only when the depth is
set to one. -/

namespace Group

/-- The inside of a group, if the depth stays positive over it and ends at one. -/
theorem cut_append : ∀ (inside : List Char) (depth : Int) (after : List Char),
    (∀ ds, ds <+: inside → 0 < nestAll depth ds) → nestAll depth inside = 1 →
      cut depth (inside ++ ')' :: after) = (inside, after)
  | [], depth, after, _, hend => by
    have hd : depth = 1 := hend
    simp [cut, hd]
  | c :: cs, depth, after, hpos, hend => by
    have hc : 0 < nest depth c := hpos [c] ⟨cs, rfl⟩
    have ih := cut_append cs (nest depth c) after
      (fun ds hds => hpos (c :: ds) (List.cons_prefix_cons.mpr ⟨rfl, hds⟩)) hend
    rw [List.cons_append, cut, if_neg (by omega), ih]

/-- **A balanced inside is cut at its closing parenthesis.**  Inside, no beginning falls below
zero, so the depth that counts the opening parenthesis falls to zero behind the inside only. -/
theorem cut_of_balanced {inside : List Char} (h : Balanced inside) (after : List Char) :
    cut 1 (inside ++ ')' :: after) = (inside, after) := by
  refine cut_append inside 1 after (fun ds hds => ?_) ?_
  · have := h.nonneg ds hds
    rw [nestAll_eq_add]
    omega
  · rw [nestAll_eq_add, h.closed]
    rfl

/-- A text whose depth falls to zero is cut behind an inside over which it has not. -/
theorem cut_eq : ∀ (cs : List Char) (depth : Int), 0 < depth → nestAll depth cs ≤ 0 →
    ∃ inside after, cs = inside ++ ')' :: after ∧ cut depth cs = (inside, after) ∧
      (∀ ds, ds <+: inside → 0 < nestAll depth ds) ∧ nestAll depth inside = 1
  | [], depth, hpos, hend => by
    simp only [nestAll_nil] at hend
    omega
  | c :: cs, depth, hpos, hend => by
    -- either the group is still open behind this character, or the character closes it; it closes
    -- it from a depth of exactly one, because it can lower the depth by one only
    rcases Int.lt_or_le 0 (nest depth c) with hc | hc
    · obtain ⟨inside, after, hcs, hcut, hin, hone⟩ := cut_eq cs (nest depth c) hc hend
      refine ⟨c :: inside, after, by rw [hcs]; rfl, ?_, ?_, hone⟩
      · rw [cut, if_neg (by omega), hcut]
      · intro ds hds
        cases ds with
        | nil => exact hpos
        | cons d ds =>
          obtain ⟨rfl, htail⟩ := List.cons_prefix_cons.mp hds
          exact hin ds htail
    · have hlt : nest depth c < depth := by omega
      have hclose : c = ')' := eq_close_of_nest_lt hlt
      have hle := le_nest depth c
      refine ⟨[], cs, by rw [hclose]; rfl, by rw [cut, if_pos hc], ?_, by simp; omega⟩
      intro ds hds
      rw [List.prefix_nil.mp hds]
      exact hpos

/-- **A text that opens a group and closes it is cut behind a balanced inside.**  The text closes
at some character; the first such one is where it is cut, and the depth ahead of it is one. -/
theorem cut_one_eq {cs : List Char} (h : nestAll 1 cs ≤ 0) :
    ∃ inside after, cs = inside ++ ')' :: after ∧ cut 1 cs = (inside, after) ∧
      Balanced inside := by
  obtain ⟨inside, after, hcs, hcut, hpos, hone⟩ := cut_eq cs 1 (by omega) h
  refine ⟨inside, after, hcs, hcut, ?_, ?_⟩
  · rw [nestAll_eq_add] at hone
    omega
  · intro ds hds
    have := hpos ds hds
    rw [nestAll_eq_add] at this
    omega

end Group

/-! ## 3. The tokens of a group

`spelled` is the gathered text by its words.  It forgets positions, so that a group can be
described in the same terms as the rest of a written statement. -/

/-- A text and the words after it, a space ahead of each. -/
def spelled (head : List Char) (words : List String) : List Char :=
  head ++ words.flatMap fun word => ' ' :: word.toList

@[simp] theorem spelled_nil (head : List Char) : spelled head [] = head := by simp [spelled]

/-- Spelling out from a head goes on from the next word. -/
theorem spelled_cons (head : List Char) (word : String) (words : List String) :
    spelled head (word :: words) = head ++ ' ' :: spelled word.toList words := by
  simp [spelled]

/-- Words can be spelled out in two goes. -/
theorem spelled_append (head : List Char) (as bs : List String) :
    spelled head (as ++ bs) = spelled (spelled head as) bs := by
  simp [spelled]

/-- Spelling a list of words out is joining them. -/
theorem spelled_eq_intercalate : ∀ (word : String) (words : List String),
    spelled word.toList words = [' '].intercalate ((word :: words).map String.toList)
  | word, [] => by simp
  | word, next :: words => by
    rw [spelled_cons, spelled_eq_intercalate next words]
    simp only [List.map_cons, List.intercalate_cons_cons, List.append_assoc,
      List.singleton_append]

namespace Rule

/-- The gathered text is decided by the words of the tokens. -/
theorem gatheredText_eq (head : List Char) (tokens : List Token) :
    gatheredText head tokens = spelled head (tokens.map (·.text)) := by
  simp [gatheredText, spelled, List.flatMap_map]

/-- Gathering stops at the first token that brings the depth to zero: if the depth is positive at
the end of every token but the last, all of them are taken and nothing behind them.  Behind a
token the depth is counted from where the token leaves it. -/
theorem gather_append : ∀ (front : List Token) (depth : Int) (back : List Token),
    (∀ xs ys, front = xs ++ ys → ys ≠ [] →
      0 < nestAll depth (spelled [] (xs.map (·.text)))) →
    nestAll depth (spelled [] (front.map (·.text))) ≤ 0 →
      gather depth (front ++ back) = some (front, back)
  | [], depth, back, _, hend => by
    have hd : depth ≤ 0 := by simpa using hend
    cases back with
    | nil => simp [gather, hd]
    | cons t ts => simp [gather, hd]
  | t :: front, depth, back, hpos, hend => by
    have hd : 0 < depth := by simpa using hpos [] (t :: front) rfl (by simp)
    have hstep : ∀ xs : List Token, nestAll depth (spelled [] ((t :: xs).map (·.text))) =
        nestAll (nestAll depth t.text.toList) (spelled [] (xs.map (·.text))) := by
      intro xs
      simp [spelled, nestAll_append]
    have ih := gather_append front (nestAll depth t.text.toList) back
      (fun xs ys hxs hys => by
        rw [← hstep]
        exact hpos (t :: xs) ys (by rw [hxs]; rfl) hys)
      (by rw [← hstep]; exact hend)
    rw [List.cons_append, gather, if_neg (by omega), ih]
    rfl

/-- What was gathered brings the depth to zero. -/
theorem gather_eq_some : ∀ (tokens : List Token) (depth : Int) {taken rest : List Token},
    gather depth tokens = some (taken, rest) →
      tokens = taken ++ rest ∧ nestAll depth (spelled [] (taken.map (·.text))) ≤ 0
  | [], depth, taken, rest, h => by
    unfold gather at h
    split at h
    · next hd =>
      simp only [Option.some.injEq, Prod.mk.injEq] at h
      obtain ⟨rfl, rfl⟩ := h
      exact ⟨rfl, by simpa using hd⟩
    · exact absurd h (by simp)
  | t :: tokens, depth, taken, rest, h => by
    unfold gather at h
    split at h
    · next hd =>
      simp only [Option.some.injEq, Prod.mk.injEq] at h
      obtain ⟨rfl, rfl⟩ := h
      exact ⟨rfl, by simpa using hd⟩
    · obtain ⟨⟨taken', rest'⟩, htail, hpair⟩ := Option.map_eq_some_iff.mp h
      obtain ⟨rfl, hle⟩ := gather_eq_some tokens (nestAll depth t.text.toList) htail
      simp only [Prod.mk.injEq] at hpair
      obtain ⟨rfl, rfl⟩ := hpair
      refine ⟨rfl, ?_⟩
      simpa [spelled, nestAll_append] using hle

/-- Tokens that bring the depth to zero are enough to gather from. -/
theorem exists_gather : ∀ (tokens : List Token) (depth : Int),
    nestAll depth (spelled [] (tokens.map (·.text))) ≤ 0 →
      ∃ taken rest, gather depth tokens = some (taken, rest)
  | [], depth, h => ⟨[], [], by simp [gather, show depth ≤ 0 by simpa using h]⟩
  | t :: tokens, depth, h => by
    by_cases hd : depth ≤ 0
    · exact ⟨[], t :: tokens, by simp [gather, hd]⟩
    · have htail : nestAll (nestAll depth t.text.toList)
          (spelled [] (tokens.map (·.text))) ≤ 0 := by
        simpa [spelled, nestAll_append] using h
      obtain ⟨taken, rest, hgather⟩ := exists_gather tokens _ htail
      exact ⟨t :: taken, rest, by rw [gather, if_neg hd, hgather]; rfl⟩

/-! ## 4. Taking a group

Completeness and soundness of `group`.  The condition on `after` in the first is what the callers
ask for: no blank, so that all of it stands in the last word, and no opening parenthesis, so that
the depth at the end of that word is not positive again. -/

/-- **A group that closes in the last of its words is taken with exactly these words.**  No token
end ahead of the last one is a place to stop, since a space follows it inside the group; behind
the close nothing opens again. -/
theorem reads_group {head inside after : List Char} {more : List String}
    (htext : spelled head more = '(' :: inside ++ ')' :: after) (hin : Balanced inside)
    (hafter : ∀ c ∈ after, Text.isBlank c = false) (hopen : '(' ∉ after) (rest : List String) :
    Reads (group head) (more ++ rest)
      (· = ⟨String.ofList (Text.trimChars inside), String.ofList after⟩) rest := by
  rintro ⟨tokens, count⟩ hc
  obtain ⟨front, back, rfl, hfront, hback⟩ := List.map_eq_append_iff.mp hc
  have hdepth : ∀ words, nestAll (nestAll 0 head) (spelled [] words) =
      nestAll 0 (spelled head words) := by
    intro words
    simp [spelled, nestAll_append]
  have hgather : gather (nestAll 0 head) (front ++ back) = some (front, back) := by
    refine gather_append front _ back ?_ ?_
    · -- a space follows what has been gathered so far, so the group is still open there
      intro xs ys hxs hys
      obtain ⟨y, ys, rfl⟩ := List.exists_cons_of_ne_nil hys
      have hsplit : spelled head (xs.map (·.text)) ++
          ' ' :: spelled y.text.toList (ys.map (·.text)) = '(' :: inside ++ ')' :: after := by
        rw [← htext, ← hfront, hxs, List.map_append, spelled_append, List.map_cons, spelled_cons]
      have hprefix : spelled head (xs.map (·.text)) <+: '(' :: inside := by
        rcases List.append_eq_append_iff.mp hsplit with ⟨zs, hzs, -⟩ | ⟨zs, -, hzs⟩
        · exact ⟨zs, hzs.symm⟩
        · exfalso
          have hmem : ' ' ∈ ')' :: after := by
            rw [hzs]
            exact List.mem_append_right _ List.mem_cons_self
          rcases List.mem_cons.mp hmem with hsp | hsp
          · exact absurd hsp (by decide)
          · exact absurd (hafter ' ' hsp) (by simp [Text.isBlank_space])
      rw [hdepth]
      cases hx : spelled head (xs.map (·.text)) with
      | nil =>
        rw [hx] at hsplit
        exact absurd (List.head_eq_of_cons_eq hsplit) (by decide)
      | cons d ds =>
        rw [hx] at hprefix
        obtain ⟨rfl, hds⟩ := List.cons_prefix_cons.mp hprefix
        have := hin.nonneg ds hds
        rw [nestAll_cons, nest_open, nestAll_eq_add]
        omega
    · rw [hdepth, hfront, htext, List.cons_append, nestAll_cons, nestAll_append, nest_open,
        nestAll_eq_add inside, hin.closed, nestAll_cons, nest_close]
      exact nestAll_le_of_not_mem after _ hopen
  refine ⟨_, ⟨back, count⟩, ?_, rfl, hback⟩
  have hcut : Group.ofText (gatheredText head front) =
      ⟨String.ofList (Text.trimChars inside), String.ofList after⟩ := by
    have htrim : Text.trimChars after = after := Text.trimChars_eq_self
      (fun c hc => hafter c (List.mem_of_mem_head? hc))
      (fun c hc => hafter c (List.mem_of_mem_getLast? hc))
    rw [gatheredText_eq, hfront, htext, List.cons_append, Group.ofText, nest_open,
      show (0 : Int) + 1 = 1 from rfl, Group.cut_of_balanced hin]
    simp only [htrim]
  simp only [group, hgather, hcut, Outcome.ok]

/-- **A group is taken if the words ahead close it.**  The last of the words is a place to stop,
so gathering stops there or ahead of it. -/
theorem exists_group {head : List Char} {cursor : Cursor}
    (h : nestAll 0 (spelled head cursor.words) ≤ 0) :
    ∃ content rest, (group head cursor).result = .ok (content, rest) := by
  have hdepth : nestAll (nestAll 0 head) (spelled [] (cursor.tokens.map (·.text))) ≤ 0 := by
    simpa [spelled, nestAll_append, Cursor.words] using h
  obtain ⟨taken, rest, hgather⟩ := exists_gather cursor.tokens _ hdepth
  refine ⟨Group.ofText (gatheredText head taken), { cursor with tokens := rest }, ?_⟩
  simp only [group, hgather, Outcome.ok]

/-- The words a group took, and how its text divides.  The trailing text is whatever stands
behind the cut, in the last word or, if parentheses open again there, in several. -/
theorem group_eq_ok {head : List Char} (hhead : head.head? = some '(') {cursor rest : Cursor}
    {content : Group} (h : (group head cursor).result = .ok (content, rest)) :
    ∃ more inside after, cursor.words = more ++ rest.words ∧
      spelled head more = '(' :: inside ++ ')' :: after ∧ Balanced inside ∧
      content = ⟨String.ofList (Text.trimChars inside), String.ofList (Text.trimChars after)⟩ := by
  obtain ⟨tokens, count⟩ := cursor
  cases hg : gather (nestAll 0 head) tokens with
  | none => simp [group, hg, Outcome.fail] at h
  | some p =>
    obtain ⟨taken, left⟩ := p
    simp only [group, hg, Outcome.ok, Except.ok.injEq, Prod.mk.injEq] at h
    obtain ⟨rfl, rfl⟩ := h
    obtain ⟨rfl, hle⟩ := gather_eq_some tokens _ hg
    obtain ⟨hs, rfl⟩ : ∃ hs, head = '(' :: hs := by
      cases head with
      | nil => simp at hhead
      | cons c hs =>
        simp only [List.head?_cons, Option.some.injEq] at hhead
        exact ⟨hs, by rw [hhead]⟩
    have hle' : nestAll 1 (spelled hs (taken.map (·.text))) ≤ 0 := by
      simpa [spelled, nestAll_append] using hle
    obtain ⟨inside, after, hcs, hcut, hin⟩ := Group.cut_one_eq hle'
    refine ⟨taken.map (·.text), inside, after, by simp, ?_, hin, ?_⟩
    · rw [List.cons_append, ← hcs]
      rfl
    · have htext : gatheredText ('(' :: hs) taken = '(' :: spelled hs (taken.map (·.text)) := by
        rw [gatheredText_eq]
        rfl
      rw [htext, Group.ofText, nest_open, show (0 : Int) + 1 = 1 from rfl, hcut]

/-! ## 5. The name ahead of a group

`TYPE(c)` in one token or `TYPE (c)` in two.  The name is what stands ahead of the first opening
parenthesis, so it holds none itself, and this is how a name is told from a name with a group. -/

/-- A word splits at its first opening parenthesis, if it has one. -/
theorem span_open (cs : List Char) :
    cs.span (· != '(') = (cs.takeWhile (· != '('), cs.dropWhile (· != '(')) :=
  List.span_eq_takeWhile_dropWhile _ cs

/-- A name with the opening of its group behind it. -/
theorem span_name_append {name opening : List Char} (hname : '(' ∉ name)
    (hopen : opening.head? = some '(') :
    (name ++ opening).span (· != '(') = (name, opening) := by
  have hpos : ∀ c ∈ name, (c != '(') = true := by
    intro c hc
    rw [bne_iff_ne]
    rintro rfl
    exact hname hc
  obtain ⟨hs, rfl⟩ : ∃ hs, opening = '(' :: hs := by
    cases opening with
    | nil => simp at hopen
    | cons c hs =>
      simp only [List.head?_cons, Option.some.injEq] at hopen
      exact ⟨hs, by rw [hopen]⟩
  rw [span_open, List.takeWhile_append_of_pos hpos, List.dropWhile_append_of_pos hpos]
  simp

/-- A name alone; its group is to start in the next token. -/
theorem span_name {name : List Char} (hname : '(' ∉ name) :
    name.span (· != '(') = (name, []) := by
  have hpos : ∀ c ∈ name, (c != '(') = true := by
    intro c hc
    rw [bne_iff_ne]
    rintro rfl
    exact hname hc
  rw [span_open, List.takeWhile_eq_self_iff.mpr hpos, List.dropWhile_eq_nil_iff.mpr hpos]

/-- The group starts in the word of the name. -/
theorem reads_callHead_attached {head : Token} {name opening : List Char}
    (htext : head.text.toList = name ++ opening) (hname : '(' ∉ name)
    (hopen : opening.head? = some '(') (expected : String) (words : List String) :
    Reads (callHead head expected) words
      (fun call => call.name = String.ofList name ∧ call.opening = opening) words := by
  intro cursor hc
  obtain ⟨c, cs, rfl⟩ : ∃ c cs, opening = c :: cs := by
    cases opening with
    | nil => simp at hopen
    | cons c cs => exact ⟨c, cs, rfl⟩
  unfold callHead
  rw [htext, span_name_append hname hopen]
  exact ⟨⟨String.ofList name, c :: cs, head.position⟩, cursor, rfl, ⟨rfl, rfl⟩, hc⟩

/-- The group starts in the next word. -/
theorem reads_callHead_apart {head : Token} (hname : '(' ∉ head.text.toList) {opening : String}
    (hopen : opening.toList.head? = some '(') (expected : String) (words : List String) :
    Reads (callHead head expected) (opening :: words)
      (fun call => call.name = head.text ∧ call.opening = opening.toList) words := by
  unfold callHead
  rw [span_name hname]
  refine Reads.bind (reads_takeIf fun t ht => ?_) fun t ht => ?_
  · subst ht
    simp [opensGroup, hopen]
  · refine (reads_pure _ words).weaken ?_
    rintro call rfl
    exact ⟨rfl, by rw [ht]⟩

/-- Where the name and the opening of a group came from.  The parenthesis is in the token of the
name, or the next token has to start with it. -/
theorem callHead_eq_ok {head : Token} {expected : String} {cursor rest : Cursor} {call : CallHead}
    (h : (callHead head expected cursor).result = .ok (call, rest)) :
    call.opening.head? = some '(' ∧ '(' ∉ call.name.toList ∧
      (rest = cursor ∧ head.text.toList = call.name.toList ++ call.opening ∨
        head.text = call.name ∧ cursor.words = String.ofList call.opening :: rest.words) := by
  unfold callHead at h
  rw [span_open] at h
  have hname : '(' ∉ head.text.toList.takeWhile (· != '(') := by
    intro hmem
    have := List.mem_takeWhile_imp hmem
    simp at this
  have hjoin : head.text.toList.takeWhile (· != '(') ++ head.text.toList.dropWhile (· != '(') =
      head.text.toList := List.takeWhile_append_dropWhile
  cases hd : head.text.toList.dropWhile (· != '(') with
  | nil =>
    rw [hd] at h hjoin
    rw [List.append_nil] at hjoin
    obtain ⟨t, mid, htake, hpure⟩ := bind_eq_ok.mp h
    obtain ⟨htokens, -, htest⟩ := takeIf_eq_ok.mp htake
    simp only [pure_result, Except.ok.injEq, Prod.mk.injEq] at hpure
    obtain ⟨rfl, rfl⟩ := hpure
    refine ⟨by simpa [opensGroup] using htest, by rw [hjoin] at hname; exact hname, Or.inr ⟨rfl, ?_⟩⟩
    rw [Cursor.words, htokens, List.map_cons, String.ofList_toList]
    rfl
  | cons c cs =>
    rw [hd] at h hjoin
    simp only [pure_result, Except.ok.injEq, Prod.mk.injEq] at h
    obtain ⟨rfl, rfl⟩ := h
    have hc : c = '(' := by
      have := List.head?_dropWhile_not (· != '(') head.text.toList
      rw [hd] at this
      simpa using this
    rw [String.toList_ofList]
    exact ⟨by rw [hc]; rfl, hname, Or.inl ⟨rfl, hjoin.symm⟩⟩

/-- The opening of a group is a word, or the end of one. -/
theorem isWord_opening {head : Token} {expected : String} {cursor rest : Cursor} {call : CallHead}
    (hhead : Text.IsWord head.text.toList) (hwords : ∀ w ∈ cursor.words, Text.IsWord w.toList)
    (h : (callHead head expected cursor).result = .ok (call, rest)) :
    Text.IsWord call.opening ∧ ∀ w ∈ rest.words, Text.IsWord w.toList := by
  obtain ⟨hopen, -, hwhere⟩ := callHead_eq_ok h
  have hne : call.opening ≠ [] := by
    rintro hnil
    simp [hnil] at hopen
  rcases hwhere with ⟨rfl, hjoin⟩ | ⟨-, hnext⟩
  · exact ⟨⟨hne, fun c hc => hhead.solid c (by rw [hjoin]; simp [hc])⟩, hwords⟩
  · have hopening := hwords (String.ofList call.opening) (by rw [hnext]; exact List.mem_cons_self)
    rw [String.toList_ofList] at hopening
    exact ⟨hopening, fun w hw => hwords w (by rw [hnext]; exact List.mem_cons_of_mem _ hw)⟩

end Rule

end HexadQuery
