/-
# What a registry keeps, call after call

A registry is looked at with two notions of equality: `register` compares modalities, `resolve`
compares names up to the case of their letters.  The two agree on every registry that calls can
build.  They need not on others: one that held `graph` and `Graph` would have two answers to a
name.

`Registry.after` is what a call leaves, and a call that fails leaves what was there.  One step
keeps a registry reachable (`Reachable.after`), hence so does a run, and the rest is said of
reachable registries: their modalities are canonical and differ in their letters
(`Reachable.apart`), a name resolves to the one modality it spells
(`Reachable.resolve?_eq_some_iff`), and for names in ASCII that is the modality the name makes
(`Reachable.resolve?_ascii`).

The calls are those of the interface: `register`, which tells whether the name was new,
`with_modality`, which does the same for a chain of calls, and `try_from`, by which a list of names
is loaded as a new registry.  The list inside a registry is private, so these are all the ways to
come by one.

The pattern of identifiers is given by ranges of characters, as the documentation has it, and
`is_identifier` is shown to be that.  The law of registries then speaks of the pattern, of
spellings and of canonical forms, and not of how registering goes about it.
-/
import HexadQuery.Proofs.Names

namespace HexadQuery

/-! ## 1. Names that can be registered

The two descriptions of an identifier: by ranges, and by the tests on characters that are run. -/

/-- A letter of ASCII, by its range. -/
def IsLetter (c : Char) : Prop := 'A' ≤ c ∧ c ≤ 'Z' ∨ 'a' ≤ c ∧ c ≤ 'z'

/-- `[A-Za-z][A-Za-z0-9_]*`. -/
def MatchesPattern (name : String) : Prop :=
  ∃ first rest, name.toList = first :: rest ∧ IsLetter first ∧
    ∀ c ∈ rest, IsLetter c ∨ '0' ≤ c ∧ c ≤ '9' ∨ c = '_'

/-- The test for letters is the two ranges. -/
theorem isAlpha_iff (c : Char) : c.isAlpha = true ↔ IsLetter c := by
  simp only [Char.isAlpha, Char.isUpper, Char.isLower, Bool.or_eq_true, Bool.and_eq_true,
    decide_eq_true_eq]
  exact Iff.rfl

/-- Identifiers are the names of the pattern. -/
theorem isIdentifier_iff (name : String) : isIdentifier name = true ↔ MatchesPattern name := by
  have hrest : ∀ c : Char, (c.isAlphanum || c == '_') = true ↔
      IsLetter c ∨ '0' ≤ c ∧ c ≤ '9' ∨ c = '_' := by
    intro c
    simp only [Char.isAlphanum, Char.isDigit, Bool.or_eq_true, Bool.and_eq_true, isAlpha_iff,
      decide_eq_true_eq, beq_iff_eq, or_assoc]
    exact Iff.rfl
  unfold isIdentifier MatchesPattern
  cases name.toList with
  | nil => simp
  | cons c cs => simp [isAlpha_iff, hrest]

/-! ## 2. Spellings of a name

An identifier is spelled in ASCII, so all spellings of it make one modality. -/

/-- Spellings of a name are identifiers together. -/
theorem isIdentifier_of_sameLetters {a b : String} (h : Text.sameLetters a b = true) :
    isIdentifier a = isIdentifier b := by
  rw [← isIdentifier_upper a, Text.upper_of_sameLetters h, isIdentifier_upper]

namespace Modality

/-- The modality a name in ASCII makes is spelled by the name. -/
theorem sameLetters_name_ofName {name : String} (h : ∀ c ∈ name.toList, c.toNat < 128) :
    Text.sameLetters (ofName name).name name = true := by
  simp only [Text.sameLetters, ofName, String.toList_ofList, beq_iff_eq]
  cases hn : name.toList with
  | nil => rfl
  | cons c cs =>
    rw [hn] at h
    rw [canonical_cons (h c List.mem_cons_self) fun d hd => h d (List.mem_cons_of_mem _ hd),
      List.map_cons, List.map_cons, List.map_map, Char.toLower_toUpper_eq_toLower]
    refine congrArg (List.cons _) ?_
    exact List.map_congr_left fun d _ => Char.toLower_toLower_eq_toLower d

/-- A name that spells a canonical modality makes it. -/
theorem IsCanonical.ofName_of_sameLetters {m : Modality} (h : m.IsCanonical) {name : String}
    (hname : Text.sameLetters m.name name = true) : ofName name = m := by
  have hid : HexadQuery.isIdentifier name = true :=
    (isIdentifier_of_sameLetters hname).symm.trans h.isIdentifier
  rw [← ofName_upper hid, ← Text.upper_of_sameLetters hname]
  exact h.ofName_keyword

end Modality

/-- The characters of an identifier are ASCII. -/
theorem ascii_of_isIdentifier {name : String} (h : isIdentifier name = true) :
    ∀ c ∈ name.toList, c.toNat < 128 :=
  fun c hc => toNat_lt_of_isNameChar (isNameChar_of_isIdentifier h c hc)

/-! ## 3. Reachable registries

What the invariant gives: no repetitions, one modality for each name, and agreement of the two
notions of equality. -/

namespace Registry

/-- Holding a modality is having it in the list. -/
theorem contains_iff {registry : Registry} {m : Modality} :
    registry.contains m = true ↔ m ∈ registry.modalities :=
  List.contains_iff_mem

/-- Nothing is held twice, because a name is looked up before it is added. -/
theorem Reachable.nodup {registry : Registry} (h : registry.Reachable) :
    registry.modalities.Nodup := by
  induction h with
  | builtin => decide
  | empty => exact List.nodup_nil
  | register _ hreg ih =>
    rcases register_cases hreg with rfl | ⟨-, hnew, rfl⟩
    · exact ih
    · exact List.nodup_append.mpr ⟨ih, List.nodup_singleton _, by
        rintro m hm other hother rfl
        exact hnew (List.mem_singleton.mp hother ▸ hm)⟩

namespace Reachable

variable {registry : Registry}

/-- A registry holds one spelling of a name. -/
theorem eq_of_sameLetters (h : registry.Reachable) {m other : Modality}
    (hm : m ∈ registry.modalities) (hother : other ∈ registry.modalities)
    (hsame : Text.sameLetters m.name other.name = true) : m = other :=
  ((h.isCanonical m hm).ofName_of_sameLetters hsame).symm.trans
    (h.isCanonical other hother).ofName_name

/-- **No two names are spellings of each other.** -/
theorem apart (h : registry.Reachable) :
    registry.modalities.Pairwise fun a b => Text.sameLetters a.name b.name = false := by
  refine h.nodup.imp_of_mem ?_
  intro a b ha hb hne
  rw [Bool.eq_false_iff]
  exact fun hsame => hne (h.eq_of_sameLetters ha hb hsame)

/-- **A name resolves to the modality it spells.** -/
theorem resolve?_eq_some_iff (h : registry.Reachable) {name : String} {m : Modality} :
    registry.resolve? name = some m ↔
      m ∈ registry.modalities ∧ Text.sameLetters m.name name = true := by
  refine ⟨resolve?_eq_some, ?_⟩
  rintro ⟨hm, hname⟩
  have hfound : (registry.resolve? name).isSome = true := List.find?_isSome.mpr ⟨m, hm, hname⟩
  obtain ⟨other, hother⟩ := Option.isSome_iff_exists.mp hfound
  obtain ⟨hmem, hspell⟩ := resolve?_eq_some hother
  have hsame : Text.sameLetters other.name m.name = true :=
    Text.sameLetters_trans hspell (Text.sameLetters_comm m.name name ▸ hname)
  rw [hother, h.eq_of_sameLetters hmem hm hsame]

/-- **A name in ASCII resolves to the modality it makes**, if that is there.  In ASCII, spelling
a modality and making it are the same, since no letter changes into several. -/
theorem resolve?_ascii (h : registry.Reachable) {name : String}
    (hascii : ∀ c ∈ name.toList, c.toNat < 128) :
    registry.resolve? name =
      if registry.contains (Modality.ofName name) then some (Modality.ofName name) else none := by
  by_cases hmem : Modality.ofName name ∈ registry.modalities
  · rw [if_pos (contains_iff.mpr hmem), h.resolve?_eq_some_iff]
    exact ⟨hmem, Modality.sameLetters_name_ofName hascii⟩
  · rw [if_neg (mt contains_iff.mp hmem), Option.eq_none_iff_forall_ne_some]
    intro m hm
    obtain ⟨hm, hname⟩ := resolve?_eq_some hm
    exact hmem ((h.isCanonical m hm).ofName_of_sameLetters hname ▸ hm)

/-- An identifier makes a stored modality exactly if it spells one. -/
theorem ofName_mem_iff (h : registry.Reachable) {name : String} (hid : isIdentifier name = true) :
    Modality.ofName name ∈ registry.modalities ↔
      ∃ m ∈ registry.modalities, Text.sameLetters m.name name = true := by
  constructor
  · intro hm
    exact ⟨_, hm, Modality.sameLetters_name_ofName (ascii_of_isIdentifier hid)⟩
  · rintro ⟨m, hm, hname⟩
    exact (h.isCanonical m hm).ofName_of_sameLetters hname ▸ hm

/-- Whatever spells a stored name is an identifier. -/
theorem isIdentifier_of_spelled (h : registry.Reachable) {name : String}
    (hname : ∃ m ∈ registry.modalities, Text.sameLetters m.name name = true) :
    isIdentifier name = true := by
  obtain ⟨m, hm, hname⟩ := hname
  exact (isIdentifier_of_sameLetters hname).symm.trans (h.isCanonical m hm).isIdentifier

end Reachable

/-! ## 4. Calls and runs

The step and the run.  A call that fails hands the registry back, so a run never breaks off. -/

/-- A call that may change a registry.  Loading puts the registry of a list of names in its
place. -/
inductive Call where
  | register (name : String)
  | withModality (name : String)
  | load (names : List String)

/-- The registry that a call leaves.  One that fails leaves the registry as it was. -/
def after (registry : Registry) : Call → Registry
  | .register name => ((registry.register name).map (·.2)).toOption.getD registry
  | .withModality name => (registry.withModality name).toOption.getD registry
  | .load names => (ofNames names).toOption.getD registry

/-- The registry that a sequence of calls leaves. -/
def run (registry : Registry) (calls : List Call) : Registry := calls.foldl after registry

/-- A call that fails leaves what was there, and that is reachable. -/
theorem Reachable.getD {registry : Registry} (h : registry.Reachable)
    {outcome : Except InvalidName Registry}
    (hok : ∀ next, outcome = .ok next → next.Reachable) :
    (outcome.toOption.getD registry).Reachable := by
  cases outcome with
  | error e => exact h
  | ok next => exact hok next rfl

/-- **A call leads from a reachable registry to a reachable one**, whether it fails or not. -/
theorem Reachable.after {registry : Registry} (h : registry.Reachable) (call : Call) :
    (registry.after call).Reachable := by
  cases call with
  | register name => exact h.getD fun next hnext => h.withModality hnext
  | withModality name => exact h.getD fun next hnext => h.withModality hnext
  | load names => exact h.getD fun next hnext => reachable_ofNames hnext

/-- **A run of calls leads from a reachable registry to a reachable one.**  So what a registry
can be is described without any history: what holds of reachable ones holds after every run. -/
theorem Reachable.run : ∀ (calls : List Call) {registry : Registry}, registry.Reachable →
    (registry.run calls).Reachable
  | [], _, h => h
  | call :: calls, _, h => Reachable.run calls (h.after call)

/-! ## 5. The law of registries

The three answers of `register` exclude each other and leave no fourth, so each has an exact
condition. -/

/-- Registering, by its three answers. -/
theorem Reachable.register_iff {registry : Registry} (h : registry.Reachable) (name : String) :
    (registry.register name = .error ⟨name⟩ ↔ ¬ MatchesPattern name) ∧
    (registry.register name = .ok (false, registry) ↔
      ∃ m ∈ registry.modalities, Text.sameLetters m.name name = true) ∧
    (registry.register name = .ok (true, ⟨registry.modalities ++ [Modality.ofName name]⟩) ↔
      MatchesPattern name ∧ ¬ ∃ m ∈ registry.modalities, Text.sameLetters m.name name = true) := by
  rw [register_eq, ← isIdentifier_iff]
  by_cases hid : isIdentifier name = true
  · rw [if_pos hid, ← h.ofName_mem_iff hid]
    by_cases hm : Modality.ofName name ∈ registry.modalities
    · simp [hid, hm]
    · simp [hid, hm]
  · have hnone := mt h.isIdentifier_of_spelled hid
    rw [if_neg hid]
    simp [hid, hnone]

end Registry

/-- **What every run of calls keeps.**  Whatever calls have been made, the stored names match the
pattern, are their own canonical form and are no spellings of each other; registering refuses
exactly what does not match and then changes nothing, changes nothing for exactly the spellings of
stored names, and adds the canonical form of any other name at the end; and a name in ASCII
resolves to its canonical form exactly if that is stored. -/
theorem registry_of_run {start : Registry} (hstart : start = .builtin ∨ start = .empty)
    (calls : List Registry.Call) :
    (∀ m ∈ (start.run calls).modalities, MatchesPattern m.name ∧ Modality.ofName m.name = m) ∧
    (start.run calls).modalities.Pairwise
      (fun a b => Text.sameLetters a.name b.name = false) ∧
    (∀ name,
      ((start.run calls).register name = .error ⟨name⟩ ∧
          (start.run calls).after (.register name) = start.run calls ↔ ¬ MatchesPattern name) ∧
      ((start.run calls).register name = .ok (false, start.run calls) ↔
        ∃ m ∈ (start.run calls).modalities, Text.sameLetters m.name name = true) ∧
      ((start.run calls).register name =
          .ok (true, ⟨(start.run calls).modalities ++ [Modality.ofName name]⟩) ↔
        MatchesPattern name ∧
          ¬ ∃ m ∈ (start.run calls).modalities, Text.sameLetters m.name name = true)) ∧
    ∀ name : String, (∀ c ∈ name.toList, c.toNat < 128) →
      (start.run calls).resolve? name =
        if (start.run calls).contains (Modality.ofName name) then some (Modality.ofName name)
        else none := by
  have hreach : (start.run calls).Reachable := by
    rcases hstart with rfl | rfl
    · exact Registry.Reachable.builtin.run calls
    · exact Registry.Reachable.empty.run calls
  refine ⟨?_, hreach.apart, ?_, fun name => hreach.resolve?_ascii⟩
  · intro m hm
    have hcanonical := hreach.isCanonical m hm
    exact ⟨(isIdentifier_iff _).mp hcanonical.isIdentifier, hcanonical.ofName_name⟩
  · intro name
    obtain ⟨herror, hsame, hnew⟩ := hreach.register_iff name
    refine ⟨?_, hsame, hnew⟩
    rw [← herror]
    refine and_iff_left_of_imp fun hrefused => ?_
    rw [Registry.after, hrefused]
    rfl

/-- A run in which three of the calls fail or change nothing. -/
theorem resolve?_after_refusals :
    (Registry.empty.run [.load ["graph", "SPATIAL"], .register "spatial", .register "9lives",
      .withModality "geo_2", .load ["Tensor", "doc-x"]]).resolve? "GEO_2" = some ⟨"Geo_2"⟩ := by
  refine ((registry_of_run (Or.inr rfl) _).2.2.2 "GEO_2" (by simp)).trans ?_
  decide

end HexadQuery
