/-
# Proof chains and what they are written as

A proof specification that was read is `ProofSpec.Writable`: its type is a word without an opening
parenthesis, and its contract is a normal text with balanced parentheses.  That is not enough to
read it again.  `write_proof` writes the type apart from the contract, so it must not be a clause
keyword either, and `FROM(c)` is read as a specification whose rendering `FROM (c)` is not.

Both directions are here: the rendering of a chain without such types is the words of a well-formed
chain (`words_renderProofs`, `writtenProof_wellFormed`), and a well-formed chain that starts with
the words of a rendering has no such type (`WrittenChain.WellFormed.operand_of_words`).

The second is what makes the conditions of the round trips exact.  Suppose the rendering was read
as the same chain.  Its division into specifications need not be the one it was written by, so the
specifications are compared one at a time from the left: the first word of a written specification
is its type, since the parenthesis stands apart; the division that was read begins with the same
word, and its first word is no keyword; and then the two specifications are the same and the rest
is a chain again.

Contracts take care of themselves.  They are written with single spaces and parentheses around
them, and a balanced text closes its group at the last parenthesis only.
-/
import HexadQuery.Proofs.ProofChains
import HexadQuery.Statement.Printer

namespace HexadQuery

/-! ## 1. Balanced texts

A contract is trimmed after the group has been cut, and trimming leaves it balanced. -/

/-- A blank is no parenthesis. -/
theorem nestAll_blank {cs : List Char} (h : ∀ c ∈ cs, Text.isBlank c = true) (depth : Int) :
    nestAll depth cs = depth :=
  nestAll_eq_self cs depth (fun hmem => absurd (h _ hmem) (by decide))
    fun hmem => absurd (h _ hmem) (by decide)

/-- Blanks around a text do not decide whether it is balanced. -/
theorem Balanced.trim {cs : List Char} (h : Balanced cs) : Balanced (Text.trimChars cs) := by
  obtain ⟨as, bs, heq, has, hbs⟩ := Text.exists_trimChars_eq cs
  have hfront : ∀ ds, nestAll 0 (as ++ ds) = nestAll 0 ds := by
    intro ds
    rw [nestAll_append, nestAll_blank has]
  constructor
  · have hclosed := h.closed
    rw [heq, List.append_assoc, hfront, nestAll_append, nestAll_blank hbs] at hclosed
    exact hclosed
  · intro ds hds
    rw [← hfront]
    refine h.nonneg (as ++ ds) ?_
    rw [heq, List.append_assoc]
    exact (List.prefix_append_right_inj as).mpr (hds.trans (List.prefix_append _ _))

/-! ## 2. Specifications

`ProofSpec.written` is the rendering as a written specification: the group is cut into words at its
blanks, and the first of them holds the parenthesis. -/

/-- What a proof specification can be read as. -/
structure ProofSpec.Writable (spec : ProofSpec) : Prop where
  type_word : Text.IsWord spec.proofType.toList
  /-- it ends ahead of the parenthesis -/
  type_open : '(' ∉ spec.proofType.toList
  /-- a group without contract is refused -/
  contract_ne : spec.contract ≠ ""
  /-- trimmed, with single spaces -/
  contract : Text.Normal spec.contract.toList
  /-- so it is closed where it was closed before -/
  balanced : Balanced spec.contract.toList

/-- **What is read as a specification is writable.**  Its words are words of the input, so the
type has no blank in it, and the contract has single spaces and is balanced. -/
theorem WrittenSpec.WellFormed.writable {written : WrittenSpec} (h : written.WellFormed)
    (hwords : ∀ w ∈ written.words, Text.IsWord w.toList) : written.spec.Writable := by
  obtain ⟨inside, htext, hin, c, hc, hblank⟩ := h.closes
  have hsolid : ∀ d, d ∈ written.proofType.toList ∨ d ∈ written.opening.toList →
      Text.isBlank d = false := by
    intro d hd
    cases ha : written.apart with
    | true =>
      rw [words, ha, if_pos rfl] at hwords
      rcases hd with hd | hd
      · exact (hwords _ (by simp)).solid d hd
      · exact (hwords written.opening (by simp)).solid d hd
    | false =>
      rw [words, ha, if_neg (by simp)] at hwords
      refine (hwords _ List.mem_cons_self).solid d ?_
      rw [String.toList_append]
      exact List.mem_append.mpr hd
  have hopening : Text.IsWord written.opening.toList := by
    refine ⟨?_, fun d hd => hsolid d (Or.inr hd)⟩
    intro hnil
    have := h.opening_head
    simp [hnil] at this
  have hmore : ∀ w ∈ written.more, Text.IsWord w.toList := by
    intro w hw
    refine hwords w ?_
    rw [words]
    split <;> simp [hw]
  have hnormal := Rule.normal_spelled hopening hmore
  change Text.Normal written.groupText at hnormal
  have hinside : Text.Spaced inside := by
    rw [htext] at hnormal
    exact hnormal.toSpaced.within ⟨['('], [')'], rfl⟩
  rw [spec_of_groupText htext]
  refine ⟨⟨mt String.toList_eq_nil_iff.mp h.type_ne, fun d hd => hsolid d (Or.inl hd)⟩,
    h.type_open, ?_, ?_, ?_⟩
  · -- what is in the group has a character that is no blank, so trimming leaves some
    intro hnil
    have hnone : Text.trimChars inside = [] := by simpa using congrArg String.toList hnil
    rw [Text.trimChars_eq_nil_iff.mp hnone c hc] at hblank
    exact absurd hblank (by simp)
  · simpa using hinside.trim
  · simpa using hin.trim

/-- **What is read as a PROOF clause is writable.** -/
theorem WrittenChain.writable {chain : Option WrittenChain} (h : ∀ c ∈ chain, c.WellFormed)
    (hwords : ∀ w ∈ optionWords chain, Text.IsWord w.toList) :
    ∀ spec ∈ optionSpecs chain, spec.Writable := by
  intro spec hspec
  cases chain with
  | none => exact absurd hspec (by simp [optionSpecs])
  | some c =>
    have hc := h c rfl
    change ∀ w ∈ c.opening :: (c.head.words ++ linkWords c.links), _ at hwords
    rcases List.mem_cons.mp hspec with rfl | hspec
    · exact hc.head.writable fun w hw => hwords w (by simp [hw])
    · obtain ⟨link, hlink, rfl⟩ := List.mem_map.mp hspec
      refine (hc.links link hlink).2.writable fun w hw => hwords w ?_
      refine List.mem_cons_of_mem _ (List.mem_append_right _ ?_)
      exact List.mem_flatMap.mpr ⟨link, hlink, List.mem_cons_of_mem _ hw⟩

namespace ProofSpec

/-- The contract with the parentheses around it. -/
def groupText (spec : ProofSpec) : String := "(" ++ spec.contract ++ ")"

/-- The specification as it is rendered: the parenthesis stands apart from the type. -/
def written (spec : ProofSpec) : WrittenSpec :=
  ⟨spec.proofType, (Text.words spec.groupText).headD "", (Text.words spec.groupText).tail, true⟩

variable {spec : ProofSpec}

/-- The group of a contract, by its characters. -/
theorem toList_groupText (spec : ProofSpec) :
    spec.groupText.toList = '(' :: spec.contract.toList ++ [')'] := by
  simp [groupText, String.toList_append]

/-- Parentheses around a normal text make a normal text. -/
theorem Writable.normal_groupText (h : spec.Writable) : Text.Normal spec.groupText.toList := by
  have hparen : ∀ c, c = '(' ∨ c = ')' → Text.IsWord [c] := by
    rintro c (rfl | rfl)
    · decide
    · decide
  rw [toList_groupText]
  exact ((hparen '(' (Or.inl rfl)).normal.append h.contract).append (hparen ')' (Or.inr rfl)).normal

/-- A group is not blank, so it has a first word, and that one opens it. -/
theorem words_groupText (spec : ProofSpec) :
    Text.words spec.groupText = spec.written.opening :: spec.written.more := by
  have hne : Text.words spec.groupText ≠ [] := by
    rw [Text.words_eq, toList_groupText]
    intro hnil
    exact Text.charWords_ne_nil (by decide) _ (List.map_eq_nil_iff.mp hnil)
  obtain ⟨first, more, hwords⟩ := List.exists_cons_of_ne_nil hne
  rw [written, hwords]
  rfl

/-- The words of a rendering. -/
theorem Writable.words_render (h : spec.Writable) :
    Text.words spec.render = spec.written.words := by
  have hrender : spec.render = spec.proofType ++ " " ++ spec.groupText := by
    rw [← String.toList_inj]
    simp [render, groupText, String.toList_append]
  rw [hrender, Text.words_append_space, Text.words_of_isWord h.type_word, words_groupText]
  rfl

/-- Its words spell it out again. -/
theorem Writable.groupText_written (h : spec.Writable) :
    spec.written.groupText = '(' :: spec.contract.toList ++ [')'] := by
  rw [WrittenSpec.groupText, spelled_eq_intercalate, ← words_groupText, ← toList_groupText,
    Text.words_eq, List.map_map]
  have hid : (String.toList ∘ String.ofList) = id := by
    funext cs
    simp
  rw [hid, List.map_id]
  exact h.normal_groupText.intercalate_charWords

/-- So the written specification says what the specification is. -/
theorem Writable.spec_written (h : spec.Writable) : spec.written.spec = spec := by
  rw [WrittenSpec.spec_of_groupText h.groupText_written, h.contract.trim, String.ofList_toList]
  rfl

/-- **A writable specification is written well-formed**, unless its type is a clause keyword.
The type must be an operand to be read, and that is the only thing about it that rendering does
not keep: one that stood in one word with its parenthesis may have been a keyword. -/
theorem Writable.written_wellFormed (h : spec.Writable)
    (htype : Text.isAnyOf spec.proofType Rule.clauseKeywords = false) :
    spec.written.WellFormed := by
  refine ⟨mt String.toList_eq_nil_iff.mpr h.type_word.ne_nil, h.type_open, htype,
    spec.contract.toList, h.groupText_written, h.balanced, ?_⟩
  obtain ⟨c, cs, hc⟩ := List.exists_cons_of_ne_nil (mt String.toList_eq_nil_iff.mp h.contract_ne)
  exact ⟨c, by rw [hc]; exact List.mem_cons_self, h.contract.head c (by rw [hc]; rfl)⟩

end ProofSpec

/-! ## 3. Chains

The rendering joins specifications by AND.  An empty chain is not written at all, so it is no
clause. -/

/-- The words of a rendered chain. -/
def proofWords : List ProofSpec → List String
  | [] => []
  | spec :: specs =>
    spec.written.words ++ WrittenChain.linkWords (specs.map fun next => ("AND", next.written))

/-- The PROOF clause as it is rendered; an empty chain has none. -/
def writtenProof : List ProofSpec → Option WrittenChain
  | [] => none
  | spec :: specs =>
    some ⟨"PROOF", spec.written, specs.map fun next => ("AND", next.written)⟩

/-- The words of a rendered chain are those of its specifications. -/
theorem words_renderProofs : ∀ {proof : List ProofSpec}, (∀ spec ∈ proof, spec.Writable) →
    Text.words (renderProofs proof) = proofWords proof
  | [], _ => rfl
  | [spec], h => by
    have hlist : renderProofs [spec] = spec.render := by simp [renderProofs]
    rw [hlist, (h spec List.mem_cons_self).words_render]
    simp [proofWords, WrittenChain.linkWords]
  | spec :: next :: specs, h => by
    have hlist : renderProofs (spec :: next :: specs) =
        spec.render ++ " " ++ ("AND" ++ " " ++ renderProofs (next :: specs)) := by
      rw [← String.toList_inj]
      simp [renderProofs, String.toList_append]
    have hand : Text.words "AND" = ["AND"] := by decide
    rw [hlist, Text.words_append_space, Text.words_append_space, hand,
      (h spec List.mem_cons_self).words_render,
      words_renderProofs fun s hs => h s (List.mem_cons_of_mem _ hs)]
    simp [proofWords, WrittenChain.linkWords]

/-- The clause is opened by PROOF in capitals. -/
theorem opening_writtenProof {proof : List ProofSpec} {chain : WrittenChain}
    (h : chain ∈ writtenProof proof) : chain.opening = "PROOF" := by
  cases proof with
  | nil => exact absurd h (by simp [writtenProof])
  | cons spec specs =>
    obtain rfl := Option.some.inj h
    rfl

/-- The words of the clause that is written for a chain. -/
theorem optionWords_writtenProof {proof : List ProofSpec} (hne : proof ≠ []) :
    WrittenChain.optionWords (writtenProof proof) = "PROOF" :: proofWords proof := by
  cases proof with
  | nil => exact absurd rfl hne
  | cons spec specs => rfl

/-- What the clause says is the chain it was written for. -/
theorem optionSpecs_writtenProof {proof : List ProofSpec} (h : ∀ spec ∈ proof, spec.Writable) :
    WrittenChain.optionSpecs (writtenProof proof) = proof := by
  cases proof with
  | nil => rfl
  | cons spec specs =>
    have hspecs : (specs.map fun next => ("AND", next.written)).map (fun link => link.2.spec) =
        specs := by
      rw [List.map_map]
      refine (List.map_congr_left fun s hs => ?_).trans (List.map_id specs)
      exact (h s (List.mem_cons_of_mem _ hs)).spec_written
    change spec.written.spec :: _ = spec :: specs
    rw [(h spec List.mem_cons_self).spec_written, hspecs]

/-- **A rendered PROOF clause is well-formed**, if no type is a clause keyword. -/
theorem writtenProof_wellFormed {proof : List ProofSpec} (h : ∀ spec ∈ proof, spec.Writable)
    (htypes : ∀ spec ∈ proof, Text.isAnyOf spec.proofType Rule.clauseKeywords = false) :
    ∀ chain ∈ writtenProof proof, chain.WellFormed := by
  intro chain hchain
  cases proof with
  | nil => exact absurd hchain (by simp [writtenProof])
  | cons spec specs =>
    obtain rfl := Option.some.inj hchain
    refine ⟨(by decide : Text.sameLetters "PROOF" "PROOF" = true), ?_, ?_⟩
    · exact (h spec List.mem_cons_self).written_wellFormed (htypes spec List.mem_cons_self)
    · intro link hlink
      obtain ⟨next, hnext, rfl⟩ := List.mem_map.mp hlink
      refine ⟨(by decide : Text.sameLetters "AND" "AND" = true), ?_⟩
      exact (h next (List.mem_cons_of_mem _ hnext)).written_wellFormed
        (htypes next (List.mem_cons_of_mem _ hnext))

/-- The types of a chain whose words start with a rendering.  The first word of each specification
is its type there, and with that known the specification is read from the rendering too, so the
two go on with the same words. -/
theorem operand_of_linkWords : ∀ (specs : List ProofSpec) {spec : ProofSpec} {head : WrittenSpec}
    {links : List (String × WrittenSpec)} {rest rest' : List String},
    (∀ s ∈ spec :: specs, s.Writable) → head.WellFormed →
    (∀ link ∈ links, WrittenChain.LinkFormed link) → links.length = specs.length →
    head.words ++ (WrittenChain.linkWords links ++ rest) = proofWords (spec :: specs) ++ rest' →
    ∀ s ∈ spec :: specs, Text.isAnyOf s.proofType Rule.clauseKeywords = false
  | specs, spec, head, links, rest, rest', hwritable, hhead, hlinks, hlen, hwords => by
    have hspec := hwritable spec List.mem_cons_self
    have htype : Text.isAnyOf spec.proofType Rule.clauseKeywords = false := by
      obtain ⟨tail, htail⟩ := head.words_eq_cons
      have hfirst : head.first = spec.proofType := by
        rw [htail] at hwords
        exact List.head_eq_of_cons_eq hwords
      rw [← hfirst]
      exact hhead.operand
    rw [proofWords, List.append_assoc] at hwords
    -- both readings of the first part leave the same words, so the argument goes on behind it
    have hafter := (Rule.reads_proofSpec hhead _).after_eq
      (Rule.reads_proofSpec (hspec.written_wellFormed htype) _) hwords
    intro s hs
    rcases List.mem_cons.mp hs with rfl | hs
    · exact htype
    · cases specs with
      | nil => exact absurd hs (by simp)
      | cons next specs =>
        cases links with
        | nil => exact absurd hlen (by simp)
        | cons link links =>
          have hnext : link.2.words ++ (WrittenChain.linkWords links ++ rest) =
              proofWords (next :: specs) ++ rest' := by
            have hcons := congrArg List.tail hafter
            simpa [WrittenChain.linkWords, proofWords] using hcons
          exact operand_of_linkWords specs
            (fun s' hs' => hwritable s' (List.mem_cons_of_mem _ hs'))
            (hlinks link List.mem_cons_self).2
            (fun l hl => hlinks l (List.mem_cons_of_mem _ hl)) (by simpa using hlen) hnext s hs

/-- **A rendered chain that is read as it was rendered has no clause keyword for a type.**  A
reading of the rendering takes the first word of each specification for its operand, and these
are the types. -/
theorem WrittenChain.WellFormed.operand_of_words {chain : WrittenChain} (h : chain.WellFormed)
    {proof : List ProofSpec} (hwritable : ∀ spec ∈ proof, spec.Writable)
    (hspecs : chain.specs = proof) {rest rest' : List String}
    (hwords : chain.words ++ rest = "PROOF" :: proofWords proof ++ rest') :
    ∀ spec ∈ proof, Text.isAnyOf spec.proofType Rule.clauseKeywords = false := by
  cases proof with
  | nil => simp
  | cons spec specs =>
    have hlen : chain.links.length = specs.length := by
      have := congrArg List.length hspecs
      simpa [WrittenChain.specs] using this
    have htail : chain.head.words ++ (WrittenChain.linkWords chain.links ++ rest) =
        proofWords (spec :: specs) ++ rest' := by
      have := congrArg List.tail hwords
      simpa [WrittenChain.words] using this
    exact operand_of_linkWords specs hwritable h.head h.links hlen htail

/-! ## 4. Optional clauses

A clause of a rendering has a space ahead of it, so its words are added to those of the text
before. -/

/-- The words of a clause that may be absent. -/
def clauseWords (lead : List String) : Option String → List String
  | none => []
  | some body => lead ++ Text.words body

/-- The words of a text with a clause behind it, which may be absent. -/
theorem words_append_clauseText (text lead : String) (body : Option String) :
    Text.words (text ++ clauseText lead body) =
      Text.words text ++ clauseWords (Text.words lead) body := by
  cases body with
  | none => simp [clauseText, clauseWords]
  | some body =>
    have hlist : text ++ clauseText lead (some body) = text ++ " " ++ (lead ++ " " ++ body) := by
      rw [← String.toList_inj]
      simp [clauseText, String.toList_append]
    rw [hlist, Text.words_append_space, Text.words_append_space]
    rfl

/-- The words of a text with a PROOF clause behind it. -/
theorem words_append_proofText (text : String) {proof : List ProofSpec}
    (h : ∀ spec ∈ proof, spec.Writable) :
    Text.words (text ++ proofText proof) =
      Text.words text ++ WrittenChain.optionWords (writtenProof proof) := by
  have hproof : Text.words "PROOF" = ["PROOF"] := by decide
  rw [proofText, words_append_clauseText, hproof]
  cases proof with
  | nil => rfl
  | cons spec specs =>
    rw [optionWords_writtenProof (List.cons_ne_nil spec specs), ← words_renderProofs h]
    rfl

end HexadQuery
