/-
# Strict and lenient readings

A lenient reading drops the SELECT items it does not recognise and notes each; a strict one fails
on the first.  In the source both come from `unrecognized_select_item`, which is called for each
piece that is no item and either logs a warning or returns an error.  The two runs part at that
item and never meet again, so they are compared from the lenient side: `Outcome.tightened` is what
a strict reading must answer, given what the lenient one noted and answered.  It is the first
dropped item as an error if there is one, and the lenient result otherwise.

Two facts carry the comparison.  Tightening commutes with `andThen` (`Outcome.tightened_andThen`),
because once an item was dropped nothing later counts; and no rule but that of the SELECT list
drops anything (`Quiet`), so every other rule, run in either mode, is its own tightening.

So there are two walks over the grammar.  The first goes through all rules but one and shows them
quiet, which for most is that their parts are.  The second goes from the SELECT list upwards,
through the rules that contain it, with `Tightens`, which passes through `bind`.

The lenient reading may fail as well, behind an item that it has dropped.  Then the strict one
fails on the item, and not as the lenient one does.
-/
import HexadQuery.Grammar.Action
import HexadQuery.Proofs.QueryGrammar

namespace HexadQuery

/-! ## 1. What was dropped

Outcomes carry their events, so what was dropped can be read off.  Other events, such as those of
GROUP BY pieces that are passed over, are noted in both modes and do not count. -/

/-- The piece and the position of a dropped item. -/
def Event.dropped? : Event → Option (String × Nat)
  | .droppedItem piece position => some (piece, position)
  | _ => none

namespace Outcome

variable {α β : Type}

/-- The SELECT items that were dropped, in order. -/
def dropped (outcome : Outcome α) : List (String × Nat) := outcome.events.filterMap Event.dropped?

/-- The answer of a strict reading, by the outcome of the lenient one. -/
def tightened (outcome : Outcome α) : Except ParseError α :=
  match outcome.dropped with
  | [] => outcome.result
  | (piece, position) :: _ => .error (.unexpectedToken Rule.selectItemExpected piece position)

/-- Nothing was dropped: the result stands. -/
theorem tightened_of_dropped_nil {outcome : Outcome α} (h : outcome.dropped = []) :
    outcome.tightened = outcome.result := by
  rw [tightened, h]

/-- Something was dropped: the first of it is the error. -/
theorem tightened_of_dropped_cons {outcome : Outcome α} {piece : String} {position : Nat}
    {rest : List (String × Nat)} (h : outcome.dropped = (piece, position) :: rest) :
    outcome.tightened = .error (.unexpectedToken Rule.selectItemExpected piece position) := by
  rw [tightened, h]

/-- Going on after a success adds what is dropped later. -/
theorem dropped_andThen_of_ok {outcome : Outcome α} {next : α → Outcome β} {a : α}
    (h : outcome.result = .ok a) :
    (outcome.andThen next).dropped = outcome.dropped ++ (next a).dropped := by
  simp [andThen, h, dropped, List.filterMap_append]

/-- A failure ends it. -/
theorem dropped_andThen_of_error {outcome : Outcome α} {next : α → Outcome β} {error : ParseError}
    (h : outcome.result = .error error) : (outcome.andThen next).dropped = outcome.dropped := by
  simp [andThen, h, dropped]

/-- **Tightening commutes with going on**: it is a homomorphism to plain results.  The first
dropped item is the verdict, whatever comes after it. -/
theorem tightened_andThen (outcome : Outcome α) (next : α → Outcome β) :
    (outcome.andThen next).tightened = outcome.tightened.bind fun a => (next a).tightened := by
  cases hdropped : outcome.dropped with
  | nil =>
    rw [tightened_of_dropped_nil hdropped]
    cases hresult : outcome.result with
    | error error =>
      rw [tightened_of_dropped_nil ((dropped_andThen_of_error hresult).trans hdropped),
        result_andThen, hresult]
      rfl
    | ok a =>
      have hrest : (outcome.andThen next).dropped = (next a).dropped := by
        rw [dropped_andThen_of_ok hresult, hdropped, List.nil_append]
      rw [tightened, hrest, result_andThen, hresult]
      rfl
  | cons first rest =>
    rw [tightened_of_dropped_cons hdropped]
    cases hresult : outcome.result with
    | error error =>
      rw [tightened_of_dropped_cons ((dropped_andThen_of_error hresult).trans hdropped)]
      rfl
    | ok a =>
      have hall : (outcome.andThen next).dropped = first :: (rest ++ (next a).dropped) := by
        rw [dropped_andThen_of_ok hresult, hdropped, List.cons_append]
      rw [tightened_of_dropped_cons hall]
      rfl

end Outcome

/-! ## 2. Rules that drop nothing

The primitives and the ways to put rules together. -/

namespace Rule

variable {α β : Type}

/-- The rule drops no SELECT item, whether it succeeds or not. -/
def Quiet (rule : Rule α) : Prop := ∀ cursor, (rule cursor).dropped = []

/-- Quiet rules, one after the other. -/
theorem Quiet.bind {rule : Rule α} {next : α → Rule β} (h : Quiet rule)
    (hnext : ∀ a, Quiet (next a)) : Quiet (rule >>= next) := by
  intro cursor
  change ((rule cursor).andThen fun p => next p.1 p.2).dropped = []
  cases hresult : (rule cursor).result with
  | error error => rw [Outcome.dropped_andThen_of_error hresult, h cursor]
  | ok p => rw [Outcome.dropped_andThen_of_ok hresult, h cursor, hnext p.1 p.2, List.nil_append]

theorem quiet_pure (a : α) : Quiet (pure a : Rule α) := fun _ => rfl

theorem quiet_fail (error : ParseError) : Quiet (fail error : Rule α) := fun _ => rfl

theorem quiet_get : Quiet (get : Rule Cursor) := fun _ => rfl

theorem quiet_peek : Quiet peek := fun _ => rfl

/-- Noting other events drops nothing. -/
theorem quiet_note {events : List Event} (h : ∀ event ∈ events, event.dropped? = none) :
    Quiet (note events) :=
  fun _ => List.filterMap_eq_nil_iff.mpr h

theorem Quiet.ite {p : Prop} [Decidable p] {rule other : Rule α} (h : Quiet rule)
    (h' : Quiet other) : Quiet (if p then rule else other) := by
  split
  · exact h
  · exact h'

/-- A check that may fail the rule. -/
theorem Quiet.guard {p : Prop} [Decidable p] {error : ParseError} {next : Unit → Rule β}
    (h : Quiet (next ())) : Quiet (if p then fail error >>= next else next ()) :=
  Quiet.ite (Quiet.bind (quiet_fail error) fun _ => h) h

theorem quiet_takeIf (test : Token → Bool) (expected : String) : Quiet (takeIf test expected) := by
  intro cursor
  unfold takeIf
  split
  · rfl
  · split <;> rfl

theorem quiet_skipKeyword (word : String) : Quiet (skipKeyword word) := by
  intro cursor
  unfold skipKeyword
  split
  · split <;> rfl
  · rfl

theorem quiet_takeUntil (stops : List String) : Quiet (takeUntil stops) := fun _ => rfl

theorem quiet_finish (expected : String) : Quiet (finish expected) := by
  intro cursor
  unfold finish
  split <;> rfl

/-- A chain of quiet rounds, by the number of tokens left. -/
theorem Quiet.chain {step : Rule (α × Bool)} (h : Quiet step) : Quiet (chain step) := by
  intro cursor
  induction hn : cursor.tokens.length using Nat.strong_induction_on generalizing cursor with
  | _ n ih =>
    have hstep : (step cursor).events.filterMap Event.dropped? = [] := h cursor
    rw [Rule.chain]
    split
    · exact hstep
    · next a more rest _ =>
      split
      · next hmore =>
        have htail : (Rule.chain step rest).events.filterMap Event.dropped? = [] :=
          ih _ (hn ▸ hmore.2) rest rfl
        simp [Outcome.dropped, List.filterMap_append, hstep, htail]
      · exact hstep

/-- A quiet rule for each element of a list. -/
theorem Quiet.mapM {rule : α → Rule β} (h : ∀ a, Quiet (rule a)) :
    ∀ as : List α, Quiet (as.mapM rule)
  | [] => quiet_pure []
  | a :: as => by
    rw [List.mapM_cons]
    refine Quiet.bind (h a) fun b => ?_
    exact Quiet.bind (Quiet.mapM h as) fun _ => quiet_pure _

/-! ## 3. Clauses

Each clause is put together from quiet rules. -/

theorem quiet_group (head : List Char) : Quiet (group head) := by
  intro cursor
  unfold group
  split <;> rfl

theorem quiet_callHead (head : Token) (expected : String) : Quiet (callHead head expected) := by
  unfold callHead
  split
  · exact Quiet.bind (quiet_takeIf _ _) fun _ => quiet_pure _
  · exact quiet_pure _

theorem quiet_proofSpec : Quiet proofSpec := by
  refine Quiet.bind (quiet_takeIf _ _) fun head => Quiet.guard ?_
  refine Quiet.bind (quiet_callHead _ _) fun call => ?_
  refine Quiet.bind (quiet_group _) fun contract => ?_
  exact Quiet.guard (Quiet.guard (quiet_pure _))

theorem quiet_skipAnd : Quiet skipAnd := by
  refine Quiet.bind quiet_get fun cursor => ?_
  refine Quiet.bind (quiet_skipKeyword _) fun found => Quiet.ite ?_ (quiet_pure _)
  refine Quiet.bind quiet_peek fun next => ?_
  cases next with
  | none => exact quiet_fail _
  | some token => exact Quiet.guard (quiet_pure _)

theorem quiet_proofClause (demand : ProofDemand) : Quiet (proofClause demand) := by
  refine Quiet.bind quiet_get fun cursor => ?_
  refine Quiet.bind (quiet_skipKeyword _) fun found => Quiet.ite ?_ (Quiet.guard (quiet_pure _))
  refine Quiet.guard (Quiet.chain ?_)
  refine Quiet.bind quiet_proofSpec fun spec => ?_
  exact Quiet.bind quiet_skipAnd fun _ => quiet_pure _

theorem Quiet.optionally {word : String} {body : Rule α} (h : Quiet body) :
    Quiet (optionally word body) := by
  refine Quiet.bind (quiet_skipKeyword _) fun found => Quiet.ite ?_ (quiet_pure _)
  exact Quiet.bind h fun _ => quiet_pure _

theorem quiet_driftPolicy : Quiet driftPolicy := by
  rw [driftPolicy_eq]
  refine Quiet.optionally (Quiet.bind (quiet_takeIf _ _) fun _ => ?_)
  exact Quiet.bind (quiet_takeIf _ _) fun _ => quiet_pure _

theorem quiet_fromClause : Quiet fromClause := by
  refine Quiet.bind (quiet_takeIf _ _) fun _ => ?_
  refine Quiet.bind (quiet_takeIf _ _) fun kind => ?_
  refine Quiet.ite (Quiet.bind (quiet_takeIf _ _) fun _ => quiet_pure _) ?_
  refine Quiet.ite (Quiet.bind (quiet_takeIf _ _) fun _ => quiet_pure _) ?_
  refine Quiet.ite (Quiet.bind (quiet_takeIf _ _) fun _ => ?_) (quiet_fail _)
  exact Quiet.bind quiet_driftPolicy fun _ => quiet_pure _

theorem quiet_rawText (stops : List String) : Quiet (rawText stops) :=
  Quiet.bind (quiet_takeUntil _) fun _ => quiet_pure _

/-- A list clause notes what it skips, which is no SELECT item. -/
theorem quiet_listFields {stops : List String} {keep : String → Bool} {event : String → Event}
    (hevent : ∀ piece, (event piece).dropped? = none) {make : List String → α} :
    Quiet (listFields stops (fun pieces => (pieces.filter keep).map event) make) := by
  refine Quiet.bind (quiet_takeIf _ _) fun _ => ?_
  refine Quiet.bind (quiet_takeUntil _) fun tokens => ?_
  refine Quiet.bind (quiet_note ?_) fun _ => quiet_pure _
  intro e he
  obtain ⟨piece, -, rfl⟩ := List.mem_map.mp he
  exact hevent piece

theorem quiet_groupFields : Quiet groupFields := by
  rw [groupFields_eq]
  exact quiet_listFields fun _ => rfl

theorem quiet_orderFields : Quiet orderFields := by
  rw [orderFields_eq]
  exact quiet_listFields fun _ => rfl

theorem quiet_number (expected : String) : Quiet (number expected) := by
  refine Quiet.bind (quiet_takeIf _ _) fun token => ?_
  split
  · exact quiet_pure _
  · exact quiet_fail _

/-! ## 4. Mutations

A mutation has no SELECT list, so the mode does not matter to it. -/

theorem quiet_skipComma : Quiet skipComma := by
  intro cursor
  unfold skipComma
  split
  · rfl
  · split <;> rfl

theorem quiet_payload : Quiet payload := by
  refine Quiet.bind (quiet_takeIf _ _) fun head => ?_
  refine Quiet.bind (quiet_callHead _ _) fun call => Quiet.guard ?_
  refine Quiet.bind (quiet_group _) fun content => ?_
  have hcomma : ∀ item : Payload, Quiet (do return (item, ← skipComma)) :=
    fun _ => Quiet.bind quiet_skipComma fun _ => quiet_pure _
  refine Quiet.ite (quiet_pure _) (Quiet.ite ?_ (hcomma _))
  refine Quiet.bind quiet_get fun _ => ?_
  exact Quiet.bind (quiet_fail _) fun _ => hcomma _

theorem quiet_insert : Quiet insert := by
  refine Quiet.bind (quiet_takeIf _ _) fun _ => ?_
  refine Quiet.bind (quiet_takeIf _ _) fun _ => ?_
  refine Quiet.bind (Quiet.chain quiet_payload) fun payloads => ?_
  have hrest : Quiet (do
      let proof ← proofClause .optional
      note [.insertRead payloads.length]
      return Mutation.insert payloads proof) := by
    refine Quiet.bind (quiet_proofClause _) fun _ => ?_
    exact Quiet.bind (quiet_note (by simp [Event.dropped?])) fun _ => quiet_pure _
  refine Quiet.bind quiet_peek fun next => ?_
  cases next with
  | none => exact hrest
  | some token => exact Quiet.guard hrest

theorem quiet_assignment (piece : AssignmentPiece) : Quiet (assignment piece) := by
  unfold assignment
  split
  · exact Quiet.ite (quiet_fail _) (quiet_pure _)
  · exact quiet_fail _

theorem quiet_setClause : Quiet setClause := by
  refine Quiet.bind (quiet_takeIf _ _) fun _ => ?_
  refine Quiet.bind (quiet_takeUntil _) fun tokens => ?_
  have hpieces : Quiet ((assignmentPieces tokens).mapM assignment) :=
    Quiet.mapM quiet_assignment _
  have hrest : Quiet (if hasOpenQuote tokens = true then do
      note [.unclosedQuote]
      (assignmentPieces tokens).mapM assignment
    else (assignmentPieces tokens).mapM assignment) :=
    Quiet.ite (Quiet.bind (quiet_note (by simp [Event.dropped?])) fun _ => hpieces) hpieces
  refine Quiet.ite ?_ hrest
  refine Quiet.bind quiet_get fun _ => ?_
  exact Quiet.bind (quiet_fail _) fun _ => hrest

theorem quiet_update : Quiet update := by
  refine Quiet.bind (quiet_takeIf _ _) fun _ => ?_
  refine Quiet.bind (quiet_takeIf _ _) fun _ => ?_
  refine Quiet.bind quiet_setClause fun _ => ?_
  refine Quiet.bind (quiet_proofClause _) fun _ => ?_
  exact Quiet.bind (quiet_note (by simp [Event.dropped?])) fun _ => quiet_pure _

theorem quiet_delete : Quiet delete := by
  refine Quiet.bind (quiet_takeIf _ _) fun _ => ?_
  refine Quiet.bind (quiet_takeIf _ _) fun _ => ?_
  exact Quiet.bind (quiet_proofClause _) fun _ => quiet_pure _

/-- **A mutation drops nothing.**  Dropping is for SELECT lists, and a mutation has none. -/
theorem quiet_mutation : Quiet mutation := by
  refine Quiet.bind (quiet_takeIf _ _) fun first => ?_
  have hbody : Quiet (mutationBody first) := by
    unfold mutationBody
    exact Quiet.ite quiet_insert (Quiet.ite quiet_update (Quiet.ite quiet_delete (quiet_fail _)))
  refine Quiet.bind hbody fun _ => ?_
  exact Quiet.bind (quiet_finish _) fun _ => quiet_pure _

/-! ## 5. One rule in two modes

The rules that contain the SELECT list.  At that list the modes are compared by inspection;
everywhere else it is `Tightens.bind`. -/

/-- What `strict` answers is the tightening of what `lenient` does. -/
def Tightens (strict lenient : Rule α) : Prop :=
  ∀ cursor, (strict cursor).result = (lenient cursor).tightened

/-- A quiet rule answers the same in both modes. -/
theorem Quiet.tightens {rule : Rule α} (h : Quiet rule) : Tightens rule rule :=
  fun cursor => (Outcome.tightened_of_dropped_nil (h cursor)).symm

/-- **Comparison passes through `bind`**, since tightening commutes with going on. -/
theorem Tightens.bind {strict lenient : Rule α} {next next' : α → Rule β}
    (h : Tightens strict lenient) (hnext : ∀ a, Tightens (next a) (next' a)) :
    Tightens (strict >>= next) (lenient >>= next') := by
  intro cursor
  change _ = ((lenient cursor).andThen fun p => next' p.1 p.2).tightened
  rw [bind_result, Outcome.tightened_andThen, h cursor]
  cases (lenient cursor).tightened with
  | error error => rfl
  | ok p => exact hnext p.1 p.2

/-- The SELECT list is where the modes part: the strict reading fails on the first piece that the
lenient one drops. -/
theorem selectItems_tightens (registry : Registry) (pieces : List SelectPiece) :
    Tightens (selectItems ⟨.strict, registry⟩ pieces)
      (selectItems ⟨.lenient, registry⟩ pieces) := by
  intro cursor
  have hdropped : (selectItems ⟨.lenient, registry⟩ pieces cursor).dropped =
      (SelectPiece.unrecognised registry pieces).map fun piece => (piece.text, piece.position) := by
    change List.filterMap Event.dropped? ((SelectPiece.unrecognised registry pieces).map
      (fun piece => .droppedItem piece.text piece.position) ++ ([.selectListRead _ _ _] ++ [])) = _
    rw [List.filterMap_append, List.filterMap_map]
    simp [Function.comp_def, Event.dropped?]
  cases hstrange : SelectPiece.unrecognised registry pieces with
  | nil =>
    rw [Outcome.tightened_of_dropped_nil (by rw [hdropped, hstrange]; rfl)]
    simp only [selectItems, hstrange]
  | cons piece rest =>
    rw [Outcome.tightened_of_dropped_cons (by rw [hdropped, hstrange]; rfl)]
    simp only [selectItems, hstrange]
    rfl

/-- The words of the list are taken in the same way, and then the modes part. -/
theorem selectClause_tightens (registry : Registry) :
    Tightens (selectClause ⟨.strict, registry⟩) (selectClause ⟨.lenient, registry⟩) := by
  refine Tightens.bind (quiet_takeIf _ _).tightens fun _ => ?_
  have hitems : Tightens
      (do selectItems ⟨.strict, registry⟩ (SelectPiece.ofTokens (← takeUntil ["FROM"])))
      (do selectItems ⟨.lenient, registry⟩ (SelectPiece.ofTokens (← takeUntil ["FROM"]))) :=
    Tightens.bind (quiet_takeUntil _).tightens fun _ => selectItems_tightens registry _
  refine Tightens.bind quiet_peek.tightens fun next => ?_
  cases next with
  | none => exact hitems
  | some token =>
    dsimp only
    split
    · exact Tightens.bind (quiet_fail _).tightens fun _ => hitems
    · exact hitems

/-- Behind the list all clauses are the same rule in both modes. -/
theorem query_tightens (registry : Registry) (demand : ProofDemand) :
    Tightens (query ⟨.strict, registry⟩ demand) (query ⟨.lenient, registry⟩ demand) := by
  refine Tightens.bind (selectClause_tightens registry) fun _ => Quiet.tightens ?_
  refine Quiet.bind quiet_fromClause fun _ => ?_
  refine Quiet.bind (Quiet.optionally (quiet_rawText _)) fun _ => ?_
  refine Quiet.bind (Quiet.optionally quiet_groupFields) fun _ => ?_
  refine Quiet.bind (Quiet.optionally (quiet_rawText _)) fun _ => ?_
  refine Quiet.bind (quiet_proofClause _) fun _ => ?_
  refine Quiet.bind (Quiet.optionally quiet_orderFields) fun _ => ?_
  refine Quiet.bind (Quiet.optionally (quiet_number _)) fun _ => ?_
  refine Quiet.bind (Quiet.optionally (quiet_number _)) fun _ => ?_
  exact Quiet.bind (quiet_finish _) fun _ => quiet_pure _

/-- A statement is a query or a mutation, by its first word. -/
theorem statement_tightens (registry : Registry) :
    Tightens (statement ⟨.strict, registry⟩) (statement ⟨.lenient, registry⟩) := by
  refine Tightens.bind quiet_peek.tightens fun next => ?_
  split
  · exact (Quiet.bind quiet_get fun _ => quiet_fail _).tightens
  · split
    · exact (Quiet.bind quiet_mutation fun _ => quiet_pure _).tightens
    · exact Tightens.bind (query_tightens registry _) fun _ => (quiet_pure _).tightens

end Rule

/-! ## 6. Whole texts

From rules to the entry functions; what these add is an event that drops nothing. -/

/-- The same for a whole text. -/
theorem Rule.Tightens.run {α : Type} {strict lenient : Rule α} (h : Tightens strict lenient)
    (input : String) : (strict.run input).result = (lenient.run input).tightened := by
  rw [Rule.run, Rule.run, Outcome.result_andThen, Outcome.tightened_andThen, h]
  rfl

/-- Noting what was accepted drops nothing. -/
theorem Outcome.accepted_tightened {α : Type} (outcome : Outcome α) {event : α → Event}
    (hevent : ∀ a, (event a).dropped? = none) (render : α → String) :
    (outcome.accepted event render).tightened = outcome.tightened := by
  have hnext : ∀ a, (Outcome.mk [event a, .rendered (render a)] (.ok a)).tightened = .ok a := by
    intro a
    refine tightened_of_dropped_nil ?_
    rw [dropped, List.filterMap_cons_none (hevent a)]
    rfl
  rw [accepted, tightened_andThen]
  simp only [hnext]
  cases outcome.tightened <;> rfl

/-- A change of the value does not drop anything. -/
theorem Outcome.map_tightened {α β : Type} (f : α → β) (outcome : Outcome α) :
    (f <$> outcome).tightened = outcome.tightened.map f := by
  change (outcome.andThen fun a => .ok (f a)).tightened = _
  rw [tightened_andThen]
  cases outcome.tightened <;> rfl

/-- A strict reading answers what the lenient one tightens to. -/
theorem parse_strict_result (registry : Registry) (action : Action) (input : String) :
    (parse ⟨.strict, registry⟩ action input).result =
      (parse ⟨.lenient, registry⟩ action input).tightened := by
  cases action <;> simp only [parse, Outcome.map_result, Outcome.map_tightened]
  case query =>
    rw [parseQuery, parseQuery, Outcome.accepted_result,
      Outcome.accepted_tightened _ fun _ => rfl, (Rule.query_tightens registry _).run]
  case slipstream =>
    rw [parseSlipstream, parseSlipstream, Outcome.accepted_result,
      Outcome.accepted_tightened _ fun _ => rfl, (Rule.query_tightens registry _).run]
  case dependentType =>
    rw [parseDependentType, parseDependentType, Outcome.accepted_result,
      Outcome.accepted_tightened _ fun _ => rfl, (Rule.query_tightens registry _).run]
  case mutation =>
    rw [parseMutation, Outcome.accepted_result, Outcome.accepted_tightened _ fun _ => rfl,
      Rule.quiet_mutation.tightens.run]
  case statement =>
    rw [parseStatement, parseStatement, Outcome.accepted_result,
      Outcome.accepted_tightened _ fun _ => rfl, (Rule.statement_tightens registry).run]

/-- **The modes differ by the first dropped item only.**  If the lenient reading dropped nothing,
the strict one answers the same; if it dropped something, the strict one fails on the first of
it. -/
theorem strict_by_lenient (registry : Registry) (action : Action) (input : String) :
    match (parse ⟨.lenient, registry⟩ action input).dropped with
    | [] =>
      (parse ⟨.strict, registry⟩ action input).result =
        (parse ⟨.lenient, registry⟩ action input).result
    | (piece, position) :: _ =>
      (parse ⟨.strict, registry⟩ action input).result =
        .error (.unexpectedToken Rule.selectItemExpected piece position) := by
  rw [parse_strict_result]
  split
  · next h => exact Outcome.tightened_of_dropped_nil h
  · next h => exact Outcome.tightened_of_dropped_cons h

end HexadQuery
