/-
# Every tree that is read is well-formed

What an engine may rely on without looking again: `Statement.WellFormed`, which every tree of every
entry grammar has (`wellFormed_of_parse`).  The tree is looked at as a whole, through the lists of
what it holds: all its texts, all its modalities, all its fields.  So a property of texts is said
once, whatever part of the tree they are in.

The grammar was followed when queries and mutations were shown to be writable; nothing is read
again here.  What is left is to say what writable trees look like from outside, with parentheses
counted rather than followed (`balanced_iff`), and that collecting a SELECT list makes up no
modality that no item mentions.

The properties are those of the parts.  Texts have single spaces, because they are words joined and
then cut and trimmed.  Modalities are canonical, because they were made from identifiers or found
in a registry that holds none but canonical ones; this is where the registry has to be reachable.
Fields hold neither parentheses nor commas, because `projection` cuts them out of a piece by a test
on characters.  Operands are no clause keywords, and drift policies are in capitals.  Captured
texts hold none of their stop words.  Contracts and payloads are balanced, because their groups
were cut where the depth came back to zero.

All five actions of a bridge end in one of three kinds of tree, and each tree has a statement in it
(`Parsed.toStatement`), so there is one property and not five.
-/
import HexadQuery.Proofs.MutationRoundTrip
import HexadQuery.Proofs.QueryRoundTrip
import HexadQuery.Statement.Validation

namespace HexadQuery

/-! ## 1. Texts

The two properties of texts, each in the form in which someone would check it. -/

/-- The text is its words joined by single spaces. -/
def Text.Tidy (s : String) : Prop := " ".intercalate (words s) = s

/-- A word is tidy: there is nothing to join. -/
theorem Text.IsWord.tidy {s : String} (h : IsWord s.toList) : Tidy s := joined_words h.normal

/-- As many opening as closing parentheses, and nowhere more of the latter. -/
structure Text.Matched (s : String) : Prop where
  /-- as many of both in all -/
  total : s.toList.count '(' = s.toList.count ')'
  /-- and in no front more closing ones -/
  front : ∀ cs, cs <+: s.toList → cs.count ')' ≤ cs.count '('

/-- The depth is the opening parentheses less the closing ones. -/
theorem nestAll_eq_count : ∀ cs : List Char,
    nestAll 0 cs = (cs.count '(' : Int) - cs.count ')'
  | [] => rfl
  | c :: cs => by
    have ih := nestAll_eq_count cs
    rw [nestAll_cons, nestAll_eq_add, ih, List.count_cons, List.count_cons, nest]
    by_cases hopen : c = '('
    · subst hopen
      simp
      omega
    · by_cases hclose : c = ')'
      · subst hclose
        simp
        omega
      · simp [hopen, hclose]

/-- **Balanced texts, by counting.**  The depth behind a text is how many more parentheses it
opens than it closes. -/
theorem balanced_iff {s : String} : Balanced s.toList ↔ Text.Matched s := by
  constructor
  · rintro ⟨hclosed, hnonneg⟩
    rw [nestAll_eq_count] at hclosed
    refine ⟨by omega, ?_⟩
    intro cs hcs
    have hfront := hnonneg cs hcs
    rw [nestAll_eq_count] at hfront
    omega
  · rintro ⟨htotal, hfront⟩
    refine ⟨?_, ?_⟩
    · rw [nestAll_eq_count]
      omega
    · intro cs hcs
      have := hfront cs hcs
      rw [nestAll_eq_count]
      omega

/-! ## 2. What a tree holds

The lists.  They follow the tree, and a part that a tree does not have is an empty list. -/

/-- The field an aggregate is applied to. -/
def Aggregate.operand? : Aggregate → Option Projection
  | countAll => none
  | ofField _ operand => some operand

/-- The single words of a source. -/
def Source.operands : Source → List String
  | hexad id => [id]
  | store name => [name]
  | federation pattern drift => pattern :: drift.toList

def Source.drift? : Source → Option String
  | federation _ drift => drift
  | _ => none

namespace Query

/-- All fields, with their modalities. -/
def projections (q : Query) : List Projection :=
  q.select.projections ++ q.select.aggregates.filterMap Aggregate.operand? ++ q.groupBy ++
    q.orderBy.map (·.projection)

def modalities (q : Query) : List Modality :=
  q.select.modalities.filterMap Selected.modality? ++ q.projections.map (·.modality)

end Query

namespace Statement

def projections : Statement → List Projection
  | query q => q.projections
  | mutation _ => []

def payloads : Statement → List Payload
  | mutation (.insert payloads _) => payloads
  | _ => []

def assignments : Statement → List Assignment
  | mutation (.update _ assignments _) => assignments
  | _ => []

def proof : Statement → List ProofSpec
  | query q => q.proof
  | mutation m => m.proof

def modalities (s : Statement) : List Modality :=
  match s with
  | query q => q.modalities
  | mutation _ => s.payloads.map (·.modality)

/-- The source operands, drift policies and hexad ids. -/
def operands : Statement → List String
  | query q => q.source.operands
  | mutation (.insert ..) => []
  | mutation (.update id _ _) => [id]
  | mutation (.delete id _) => [id]

def drift? : Statement → Option String
  | query q => q.source.drift?
  | mutation _ => none

/-- The text of the WHERE clause. -/
def filter : Statement → Option String
  | query q => q.filter
  | mutation _ => none

/-- The text of the HAVING clause. -/
def having : Statement → Option String
  | query q => q.having
  | mutation _ => none

/-- All texts of a statement. -/
def texts (s : Statement) : List String :=
  s.modalities.map (·.name) ++ s.projections.map (·.field) ++ s.operands ++ s.filter.toList ++
    s.having.toList ++ s.proof.flatMap (fun spec => [spec.proofType, spec.contract]) ++
    s.payloads.map (·.text) ++ s.assignments.flatMap fun a => [a.field, a.value]

/-- What an engine may rely on. -/
structure WellFormed (s : Statement) : Prop where
  /-- every text is its words joined by single spaces -/
  texts : ∀ text ∈ s.texts, Text.Tidy text
  /-- every modality is in the canonical casing -/
  modalities : ∀ m ∈ s.modalities, m.IsCanonical
  /-- a field is one word, without parentheses and commas -/
  fields : ∀ p ∈ s.projections, p.field ≠ "" ∧
    ∀ c ∈ p.field.toList, c ≠ '(' ∧ c ≠ ')' ∧ c ≠ ',' ∧ Text.isBlank c = false
  /-- an identifier, a store or a pattern is one word and no clause keyword -/
  operands : ∀ word ∈ s.operands, IsOperand word
  /-- a drift policy is in capitals -/
  drift : ∀ policy ∈ s.drift?, ∀ c ∈ policy.toList, c.isLower = false
  /-- a WHERE holds no word that ends it -/
  filter : ∀ text ∈ s.filter, ∀ word ∈ Text.words text,
    Text.isAnyOf word Rule.filterStops = false
  /-- nor does a HAVING -/
  having : ∀ text ∈ s.having, ∀ word ∈ Text.words text,
    Text.isAnyOf word Rule.havingStops = false
  /-- the type of a proof is one word, up to the parenthesis -/
  proofTypes : ∀ spec ∈ s.proof, Text.IsWord spec.proofType.toList ∧
    '(' ∉ spec.proofType.toList
  /-- its contract is not empty, and its parentheses match -/
  contracts : ∀ spec ∈ s.proof, spec.contract ≠ "" ∧ Text.Matched spec.contract
  /-- and so do those of a payload -/
  payloads : ∀ p ∈ s.payloads, Text.Matched p.text
  /-- an INSERT has a payload -/
  insert : ∀ payloads proof, s = mutation (.insert payloads proof) → payloads ≠ []
  /-- an assignment has a field without equals sign, and a value -/
  assignments : ∀ a ∈ s.assignments, a.field ≠ "" ∧ '=' ∉ a.field.toList ∧ a.value ≠ ""

end Statement

/-! ## 3. Parts of writable trees

What writable parts look like, one part at a time. -/

/-- The name of a modality is a word. -/
theorem Modality.IsCanonical.tidy {m : Modality} (h : m.IsCanonical) : Text.Tidy m.name := by
  refine Text.IsWord.tidy ⟨toList_ne_nil_of_isIdentifier h.isIdentifier, ?_⟩
  intro c hc
  have hfield := isFieldChar_of_isNameChar c (isNameChar_of_isIdentifier h.isIdentifier c hc)
  simp only [Piece.isFieldChar, Bool.and_eq_true, Bool.not_eq_true'] at hfield
  exact hfield.2

/-- The characters of a field are field characters, and none of these is one of the others. -/
theorem Projection.Writable.field_char {p : Projection} (h : p.Writable) :
    ∀ c ∈ p.field.toList, c ≠ '(' ∧ c ≠ ')' ∧ c ≠ ',' ∧ Text.isBlank c = false := by
  intro c hc
  have hfield := h.field c hc
  simp only [Piece.isFieldChar, Bool.and_eq_true, Bool.not_eq_true', bne_iff_ne] at hfield
  obtain ⟨⟨⟨hopen, hclose⟩, hcomma⟩, hblank⟩ := hfield
  exact ⟨hopen, hclose, hcomma, hblank⟩

/-- A field is a word. -/
theorem Projection.Writable.tidy {p : Projection} (h : p.Writable) : Text.Tidy p.field :=
  Text.IsWord.tidy
    ⟨mt String.toList_eq_nil_iff.mp h.field_ne, fun c hc => (h.field_char c hc).2.2.2⟩

/-- A text in capitals holds no small letter. -/
theorem isLower_of_upper_eq {s : String} (h : Text.upper s = s) :
    ∀ c ∈ s.toList, c.isLower = false := by
  intro c hc
  rw [← h, Text.toList_upper] at hc
  obtain ⟨d, -, rfl⟩ := List.mem_map.mp hc
  exact Char.isLower_toUpper_eq_false d

/-- The operands of a source are operands. -/
theorem Source.Writable.operands {source : Source} (h : source.Writable) :
    ∀ word ∈ source.operands, IsOperand word := by
  cases source with
  | hexad id => exact List.forall_mem_singleton.mpr h
  | store name => exact List.forall_mem_singleton.mpr h
  | federation pattern drift =>
    refine List.forall_mem_cons.mpr ⟨h.1, ?_⟩
    intro policy hpolicy
    exact (h.2 policy (Option.mem_toList.mp hpolicy)).1

/-- A drift policy has been put into capitals. -/
theorem Source.Writable.drift {source : Source} (h : source.Writable) :
    ∀ policy ∈ source.drift?, ∀ c ∈ policy.toList, c.isLower = false := by
  cases source with
  | hexad | store =>
    intro policy hpolicy
    cases hpolicy
  | federation pattern drift =>
    intro policy hpolicy
    exact isLower_of_upper_eq (h.2 policy hpolicy).2

/-- A collected list mentions nothing that no item does. -/
theorem SelectItem.exists_of_mem_firstMentions : ∀ {items : List SelectItem}
    {seen : List Selected} {entry : Selected}, entry ∈ firstMentions seen items →
      ∃ item ∈ items, item.mentioned? = some entry
  | [], _, _, h => absurd h (by simp [firstMentions])
  | item :: items, seen, entry, h => by
    rw [firstMentions] at h
    cases hitem : item.mentioned? with
    | none =>
      rw [hitem] at h
      obtain ⟨i, hi, hentry⟩ := exists_of_mem_firstMentions h
      exact ⟨i, List.mem_cons_of_mem _ hi, hentry⟩
    | some first =>
      simp only [hitem] at h
      split at h
      · obtain ⟨i, hi, hentry⟩ := exists_of_mem_firstMentions h
        exact ⟨i, List.mem_cons_of_mem _ hi, hentry⟩
      · rcases List.mem_cons.mp h with rfl | h
        · exact ⟨item, List.mem_cons_self, hitem⟩
        · obtain ⟨i, hi, hentry⟩ := exists_of_mem_firstMentions h
          exact ⟨i, List.mem_cons_of_mem _ hi, hentry⟩

theorem Aggregate.Writable.operand {a : Aggregate} (h : a.Writable) {p : Projection}
    (hp : a.operand? = some p) : p.Writable := by
  cases a with
  | countAll => cases hp
  | ofField function operand =>
    obtain rfl := Option.some.inj hp
    exact h

/-- What an item mentions is canonical: a registered modality, or that of a field. -/
theorem SelectItem.Writable.mentioned {registry : Registry} {item : SelectItem}
    (h : item.Writable registry) {m : Modality} (hm : item.mentioned? = some (.modality m)) :
    m.IsCanonical := by
  cases item with
  | selected s =>
    obtain rfl := Option.some.inj hm
    exact h.1
  | projection p =>
    obtain rfl := Selected.modality.inj (Option.some.inj hm)
    exact Projection.Writable.modality h
  | aggregate a =>
    cases a with
    | countAll => cases hm
    | ofField function operand =>
      obtain rfl := Selected.modality.inj (Option.some.inj hm)
      exact Projection.Writable.modality h

namespace Query.Writable

variable {registry : Registry} {q : Query}

/-- All the fields of a query were read as such: those of its SELECT list, of the calls there, of
its GROUP BY and of its ORDER BY. -/
theorem projections (h : q.Writable registry) : ∀ p ∈ q.projections, p.Writable := by
  obtain ⟨items, hitems, hselect⟩ := h.select
  rw [SelectList.collect_eq] at hselect
  intro p hp
  simp only [Query.projections, List.mem_append] at hp
  rcases hp with ((hp | hp) | hp) | hp
  · rw [← hselect] at hp
    obtain ⟨item, hitem, hp⟩ := List.mem_filterMap.mp hp
    cases item with
    | projection _ =>
      obtain rfl := Option.some.inj hp
      exact hitems _ hitem
    | selected | aggregate => cases hp
  · rw [← hselect] at hp
    obtain ⟨a, ha, hp⟩ := List.mem_filterMap.mp hp
    obtain ⟨item, hitem, ha⟩ := List.mem_filterMap.mp ha
    cases item with
    | aggregate _ =>
      obtain rfl := Option.some.inj ha
      exact Aggregate.Writable.operand (hitems _ hitem) hp
    | selected | projection => cases ha
  · exact h.groupBy p hp
  · obtain ⟨item, hitem, rfl⟩ := List.mem_map.mp hp
    exact h.orderBy item hitem

/-- The modalities of the SELECT list are mentioned by its items, and the others stand ahead of
fields. -/
theorem modalities (h : q.Writable registry) : ∀ m ∈ q.modalities, m.IsCanonical := by
  intro m hm
  rcases List.mem_append.mp hm with hm | hm
  · obtain ⟨items, hitems, hselect⟩ := h.select
    rw [SelectList.collect_eq] at hselect
    rw [← hselect] at hm
    obtain ⟨entry, hentry, hm⟩ := List.mem_filterMap.mp hm
    obtain ⟨item, hitem, hmentioned⟩ := SelectItem.exists_of_mem_firstMentions hentry
    cases entry with
    | all => cases hm
    | modality _ =>
      obtain rfl := Option.some.inj hm
      exact (hitems item hitem).mentioned hmentioned
  · obtain ⟨p, hp, rfl⟩ := List.mem_map.mp hm
    exact (h.projections p hp).modality

end Query.Writable

theorem ProofSpec.Writable.tidy {spec : ProofSpec} (h : spec.Writable) :
    ∀ text ∈ [spec.proofType, spec.contract], Text.Tidy text := by
  intro text htext
  simp only [List.mem_cons, List.not_mem_nil, or_false] at htext
  rcases htext with rfl | rfl
  · exact h.type_word.tidy
  · exact Text.joined_words h.contract

theorem Assignment.Writable.tidy {a : Assignment} (h : a.Writable) :
    ∀ text ∈ [a.field, a.value], Text.Tidy text := by
  intro text htext
  simp only [List.mem_cons, List.not_mem_nil, or_false] at htext
  rcases htext with rfl | rfl
  · exact Text.joined_words h.field
  · exact Text.joined_words h.value

/-! ## 4. Whole trees

The parts put together, for a statement of either family. -/

/-- A statement whose parts are writable. -/
structure Statement.Writable (s : Statement) : Prop where
  modalities : ∀ m ∈ s.modalities, m.IsCanonical
  projections : ∀ p ∈ s.projections, p.Writable
  operands : ∀ word ∈ s.operands, IsOperand word
  drift : ∀ policy ∈ s.drift?, ∀ c ∈ policy.toList, c.isLower = false
  filter : ∀ text ∈ s.filter, Captured Rule.filterStops text
  having : ∀ text ∈ s.having, Captured Rule.havingStops text
  proof : ∀ spec ∈ s.proof, spec.Writable
  payloads : ∀ p ∈ s.payloads, p.Writable
  insert : ∀ payloads proof, s = mutation (.insert payloads proof) → payloads ≠ []
  assignments : ∀ a ∈ s.assignments, a.Writable

namespace Statement

/-- Whatever text of a statement is looked at, it is tidy. -/
theorem Writable.tidy {s : Statement} (h : s.Writable) : ∀ text ∈ s.texts, Text.Tidy text := by
  intro text htext
  simp only [texts, List.mem_append, List.mem_map, List.mem_flatMap, Option.mem_toList] at htext
  rcases htext with ((((((⟨m, hm, rfl⟩ | ⟨p, hp, rfl⟩) | hword) | htext) | htext) |
    ⟨spec, hspec, htext⟩) | ⟨p, hp, rfl⟩) | ⟨a, ha, htext⟩
  · exact (h.modalities m hm).tidy
  · exact (h.projections p hp).tidy
  · exact (h.operands text hword).isWord.tidy
  · exact Text.joined_words (h.filter text htext).1
  · exact Text.joined_words (h.having text htext).1
  · exact (h.proof spec hspec).tidy text htext
  · exact Text.joined_words (h.payloads p hp).text
  · exact (h.assignments a ha).tidy text htext

theorem Writable.wellFormed {s : Statement} (h : s.Writable) : s.WellFormed where
  texts := h.tidy
  modalities := h.modalities
  fields p hp := ⟨(h.projections p hp).field_ne, (h.projections p hp).field_char⟩
  operands := h.operands
  drift := h.drift
  filter text htext := (h.filter text htext).2
  having text htext := (h.having text htext).2
  proofTypes spec hspec := ⟨(h.proof spec hspec).type_word, (h.proof spec hspec).type_open⟩
  contracts spec hspec :=
    ⟨(h.proof spec hspec).contract_ne, balanced_iff.mp (h.proof spec hspec).balanced⟩
  payloads p hp := balanced_iff.mp (h.payloads p hp).balanced
  insert := h.insert
  assignments a ha :=
    ⟨(h.assignments a ha).field_ne, (h.assignments a ha).field_plain, (h.assignments a ha).value_ne⟩

end Statement

/-- A query is a statement with the parts of a query. -/
theorem Query.Writable.statement {registry : Registry} {q : Query} (h : q.Writable registry) :
    (Statement.query q).Writable where
  modalities := h.modalities
  projections := h.projections
  operands := h.source.operands
  drift := h.source.drift
  filter := h.filter
  having := h.having
  proof := h.proof
  payloads := List.forall_mem_nil _
  insert payloads proof heq := by cases heq
  assignments := List.forall_mem_nil _

/-- A mutation is a statement with the parts of its kind. -/
theorem Mutation.Writable.statement {m : Mutation} (h : m.Writable) :
    (Statement.mutation m).Writable := by
  cases m with
  | insert payloads proof =>
    obtain ⟨hne, hpayloads, hproof⟩ := h
    constructor
    case modalities =>
      intro m hm
      obtain ⟨p, hp, rfl⟩ := List.mem_map.mp hm
      exact (hpayloads p hp).modality
    case proof => exact hproof
    case payloads => exact hpayloads
    case insert =>
      rintro _ _ ⟨⟩
      exact hne
    all_goals simp [Statement.projections, Statement.operands, Statement.drift?, Statement.filter,
      Statement.having, Statement.assignments]
  | update id assignments proof =>
    obtain ⟨hid, ⟨span, ps, -, hspell⟩, hproof⟩ := h
    constructor
    case operands => exact List.forall_mem_singleton.mpr hid
    case proof => exact hproof
    case assignments => exact hspell.writable
    all_goals simp [Statement.modalities, Statement.projections, Statement.drift?,
      Statement.filter, Statement.having, Statement.payloads]
  | delete id proof =>
    obtain ⟨hid, hproof⟩ := h
    constructor
    case operands => exact List.forall_mem_singleton.mpr hid
    case proof => exact hproof
    all_goals simp [Statement.modalities, Statement.projections, Statement.drift?,
      Statement.filter, Statement.having, Statement.payloads, Statement.assignments]

/-! ## 5. Readings

Every entry grammar is one of two rules, and both yield what is writable. -/

theorem isWord_of_mem_words_ofText {input : String} :
    ∀ w ∈ (Cursor.ofText input).words, Text.IsWord w.toList := by
  intro w hw
  rw [Cursor.words_ofText] at hw
  exact Text.isWord_of_mem_words hw

/-- What is read as a query, under whatever demand, is writable. -/
theorem Rule.query_run_writable {config : Config} (hregistry : config.registry.Reachable)
    {demand : ProofDemand} {input : String} {q : Query}
    (h : ((query config demand).run input).result = .ok q) : q.Writable config.registry := by
  obtain ⟨written, hformed, -, hwords, rfl⟩ := query_run_eq_ok_iff.mp h
  refine hformed.writable hregistry ?_
  rw [hwords]
  exact isWord_of_mem_words_ofText

/-- What is read as a mutation is writable. -/
theorem Rule.mutation_run_writable {input : String} {m : Mutation}
    (h : (mutation.run input).result = .ok m) : m.Writable := by
  obtain ⟨rest, hread⟩ := run_eq_ok.mp h
  exact mutation_writable isWord_of_mem_words_ofText hread

/-- A tree is what its rule reads. -/
theorem Outcome.ok_of_map {α β : Type} {f : α → β} {event : α → Event} {render : α → String}
    {outcome : Outcome α} {b : β} (h : (f <$> outcome.accepted event render).result = .ok b) :
    ∃ a, outcome.result = .ok a ∧ f a = b := by
  rw [map_result, accepted_result] at h
  cases hresult : outcome.result with
  | error e =>
    rw [hresult] at h
    cases h
  | ok a =>
    rw [hresult] at h
    exact ⟨a, rfl, Except.ok.inj h⟩

/-- **Every tree that is read is well-formed**, by whichever entry grammar and under whatever
configuration.  What was read is writable, and what is writable is well-formed; the five
entrances read queries and mutations only. -/
theorem wellFormed_of_parse {config : Config} (hregistry : config.registry.Reachable)
    {action : Action} {input : String} {tree : Parsed}
    (h : (parse config action input).result = .ok tree) : tree.toStatement.WellFormed := by
  have hquery : ∀ {demand : ProofDemand} {q : Query},
      ((Rule.query config demand).run input).result = .ok q → (Statement.query q).WellFormed :=
    fun hq => (Rule.query_run_writable hregistry hq).statement.wellFormed
  have hmutation : ∀ {m : Mutation},
      (Rule.mutation.run input).result = .ok m → (Statement.mutation m).WellFormed :=
    fun hm => (Rule.mutation_run_writable hm).statement.wellFormed
  cases action with
  | query | slipstream | dependentType =>
    obtain ⟨q, hq, rfl⟩ := Outcome.ok_of_map h
    exact hquery hq
  | mutation =>
    obtain ⟨m, hm, rfl⟩ := Outcome.ok_of_map h
    exact hmutation hm
  | statement =>
    obtain ⟨s, hs, rfl⟩ := Outcome.ok_of_map h
    have hresult : (parseStatement config input).result = .ok s := by
      rw [parseStatement, Outcome.accepted_result]
      exact hs
    cases s with
    | query q =>
      rw [parseStatement_query_iff, parseQuery, Outcome.accepted_result] at hresult
      exact hquery hresult
    | mutation m =>
      rw [parseStatement_mutation_iff, parseMutation, Outcome.accepted_result] at hresult
      exact hmutation hresult

/-- A query with most of its parts: casing, blanks and the parentheses of the group are settled. -/
theorem wellFormed_of_federation :
    let input := "select graph, Sum (document.x) from federation f/* with drift strict " ++
      "where  a  =  b proof t( c(d) ) order by vector.y desc"
    ∃ tree, (parse Config.strict .query input).result = .ok tree ∧
      tree.toStatement.WellFormed := by
  have h : (parse Config.strict .query
      ("select graph, Sum (document.x) from federation f/* with drift strict " ++
        "where  a  =  b proof t( c(d) ) order by vector.y desc")).result =
      .ok (.query {
        select :=
          { modalities := [.modality Modality.graph, .modality Modality.document]
            aggregates := [.ofField .sum ⟨Modality.document, "x"⟩] }
        source := .federation "f/*" (some "STRICT")
        filter := some "a = b"
        proof := [⟨"t", "c(d)"⟩]
        orderBy := [⟨⟨Modality.vector, "y"⟩, .desc⟩] }) := by decide +kernel
  exact ⟨_, h, wellFormed_of_parse .builtin h⟩

end HexadQuery
