/-
# A statement may be split over any lines

The console reads lines until one ends in a semicolon.  Splitting a statement over several lines
leaves no trace: a session answers the lines as it answers the one line that joins them with spaces
(`lines_joined`).  Line breaks and spaces are both blank and both one byte, so the two buffers have
the very same tokens, offsets included (`tokenize_statementOf`), and a reading looks at nothing
else of its text (`parse_congr_tokens`).

The loop this is about is `handle_repl` of the program.  It keeps a buffer; a line that is typed
while the buffer is empty may be a command, any other line is put into the buffer with a line break
behind it, and when the line ends in a semicolon, blanks aside, the buffer is trimmed, the
semicolons at its end are cut and what is left is evaluated.

So the rest of the argument is about commands.  Only the first line of a statement can be one, and
it is none if its first word is none of the six command words; the joined line has the same first
word.  While a statement is open no line is a command (`step_keeps`).

The two sides are brought together in three steps.  The lines are gathered and nothing is emitted
until the last one (`stepAll_gathers`, an induction over the lines); the buffer they leave differs
from the joined line in line breaks for spaces and in the break at its end (`buffered_eq_joined`,
`statementOf_buffered`); and buffers that differ so are evaluated to the same emissions
(`evaluate_statementOf`).
-/
import HexadQuery.Console
import HexadQuery.Proofs.Lowering

namespace HexadQuery

/-! ## 1. Line breaks and spaces

Both are blank, both take one byte, and neither is any other character that matters.  These are the
only facts about them that are used. -/

/-- Spaces for line breaks. -/
def spaceForBreak (c : Char) : Char := if c = '\n' then ' ' else c

/-- Other characters stay. -/
theorem spaceForBreak_of_ne {c : Char} (h : c ≠ '\n') : spaceForBreak c = c := if_neg h

/-- A line break and a space are both blank. -/
theorem isBlank_spaceForBreak (c : Char) : Text.isBlank (spaceForBreak c) = Text.isBlank c := by
  by_cases hc : c = '\n'
  · rw [hc]
    decide
  · rw [spaceForBreak_of_ne hc]

/-- A test for another character does not tell them apart. -/
theorem spaceForBreak_beq {mark : Char} (hspace : mark ≠ ' ') (hbreak : mark ≠ '\n') (c : Char) :
    (spaceForBreak c == mark) = (c == mark) := by
  by_cases hc : c = '\n'
  · rw [hc]
    change (' ' == mark) = ('\n' == mark)
    rw [beq_eq_false_iff_ne.mpr hspace.symm, beq_eq_false_iff_ne.mpr hbreak.symm]
  · rw [spaceForBreak_of_ne hc]

/-- They are equally long, so the offsets of what follows are the same. -/
theorem utf8Size_spaceForBreak (c : Char) : (spaceForBreak c).utf8Size = c.utf8Size := by
  by_cases hc : c = '\n'
  · rw [hc]
    decide
  · rw [spaceForBreak_of_ne hc]

/-- The words stand where they stood.  The induction is that of `wordsFrom`, with the offset
going on from character to character. -/
theorem wordsFrom_spaceForBreak : ∀ (cs : List Char) (offset : Nat),
    Text.wordsFrom offset (cs.map spaceForBreak) = Text.wordsFrom offset cs
  | [], _ => rfl
  | c :: cs, offset => by
    have hhead : ((cs.map spaceForBreak).head?.any fun d => !Text.isBlank d) =
        cs.head?.any fun d => !Text.isBlank d := by
      cases cs with
      | nil => rfl
      | cons d ds => simp [isBlank_spaceForBreak]
    rw [List.map_cons, Text.wordsFrom, Text.wordsFrom, utf8Size_spaceForBreak,
      wordsFrom_spaceForBreak cs, isBlank_spaceForBreak, hhead]
    split
    · rfl
    · next hblank =>
      have hne : c ≠ '\n' := by
        rintro rfl
        exact hblank (by decide)
      rw [spaceForBreak_of_ne hne]

/-! ## 2. Readings look at tokens -/

/-- **A reading looks at the tokens of its text and at nothing else.**  It is what lets line
breaks be spaces: both are blanks, and tokens know no blanks. -/
theorem parse_congr_tokens (config : Config) (action : Action) {s t : String}
    (h : tokenize s = tokenize t) : parse config action s = parse config action t := by
  have hrun : ∀ {α : Type} (rule : Rule α), rule.run s = rule.run t := by
    intro α rule
    rw [Rule.run, Rule.run, Cursor.ofText, Cursor.ofText, h]
  cases action with
  | query => rw [parse, parse, parseQuery, parseQuery, hrun]
  | slipstream => rw [parse, parse, parseSlipstream, parseSlipstream, hrun]
  | dependentType => rw [parse, parse, parseDependentType, parseDependentType, hrun]
  | mutation => rw [parse, parse, parseMutation, parseMutation, hrun]
  | statement => rw [parse, parse, parseStatement, parseStatement, hrun]

namespace Console

/-- Trimming a buffer and cutting its semicolons does not tell them apart either. -/
theorem tokenize_statementOf {s t : String}
    (h : s.toList.map spaceForBreak = t.toList.map spaceForBreak) :
    tokenize (statementOf s) = tokenize (statementOf t) := by
  have hwords : ∀ u : String, Text.wordsFrom 0 (statementOf u).toList =
      Text.wordsFrom 0 (Text.trimChars (Text.cutTrailing ';'
        (Text.trimChars (u.toList.map spaceForBreak)))) := by
    intro u
    rw [Text.trimChars_map isBlank_spaceForBreak,
      Text.cutTrailing_map (spaceForBreak_beq (by decide) (by decide)),
      Text.trimChars_map isBlank_spaceForBreak, wordsFrom_spaceForBreak, statementOf,
      String.toList_ofList]
  rw [tokenize, tokenize, hwords, hwords, h]

/-- Buffers that differ in spaces for line breaks are evaluated to the same emissions. -/
theorem evaluate_statementOf (config : Config) (action : Action) (format : OutputFormat)
    {s t : String} (h : s.toList.map spaceForBreak = t.toList.map spaceForBreak) :
    evaluate config action format (statementOf s) =
      evaluate config action format (statementOf t) := by
  rw [evaluate, evaluate, parse_congr_tokens config action (tokenize_statementOf h)]

/-! ## 3. Commands

What a line is taken for depends on its first word, in small letters.  That no command word comes
out of another word by lowering is not needed: the condition is on the lowered word. -/

/-- The words that can open a command. -/
def commandWords : List String := ["exit", "quit", "help", "clear", "action", "format"]

/-- **A line whose first word is no command word is part of a statement.**  `handle_repl`
looks at the first word in small letters, and at whether another one follows. -/
theorem ofLine_eq_statement {line word : String} {words : List String}
    (hwords : Text.words line = word :: words) (hword : Text.lowered word ∉ commandWords) :
    Command.ofLine line = .statement := by
  simp only [commandWords, List.mem_cons, List.not_mem_nil, or_false, not_or] at hword
  obtain ⟨hexit, hquit, hhelp, hclear, haction, hformat⟩ := hword
  rw [Command.ofLine, Text.words_lowered, Text.words_trim, hwords, List.map_cons]
  split
  · next h => cases h
  · next h => exact absurd (List.cons.inj h).1 hexit
  · next h => exact absurd (List.cons.inj h).1 hquit
  · next h => exact absurd (List.cons.inj h).1 hhelp
  · next h => exact absurd (List.cons.inj h).1 hclear
  · next h => exact absurd (List.cons.inj h).1 haction
  · next h => exact absurd (List.cons.inj h).1 hformat
  · rfl

/-- A line is added to the statement if one is open or if it is no command. -/
theorem step_eq_extend {config : Config} {session : Session} {line : String}
    (h : session.buffer = "" → Command.ofLine line = .statement) :
    step config session line = extend config session line := by
  rw [step]
  split
  · next hbuffer => rw [command, h hbuffer]
  · rfl

/-- A line completes a statement if a semicolon is the last of its characters that is not blank. -/
theorem completes_iff (line : String) :
    completes line = true ↔ (line.toList.reverse.dropWhile Text.isBlank).head? = some ';' := by
  rw [completes, Text.trim, String.toList_ofList, Text.getLast?_trimChars, beq_iff_eq]

/-- What stands ahead of a line that completes a statement does not matter. -/
theorem completes_append (front : String) {line : String} (h : completes line = true) :
    completes (front ++ line) = true := by
  rw [completes_iff] at h ⊢
  have hne : line.toList.reverse.dropWhile Text.isBlank ≠ [] := by
    intro hnil
    rw [hnil] at h
    cases h
  rw [String.toList_append, List.reverse_append, List.dropWhile_append,
    if_neg (by simpa using hne), List.head?_append_of_ne_nil _ hne, h]

/-! ## 4. Lines one after the other

`run` reads a session to the end of its input.  Here it is cut in two, so that it can be said what
the first lines do and where they leave the session for the others. -/

/-- What a session emits for lines one after the other, and where they lead it.  The lines behind
the end of the session are not read. -/
def stepAll (config : Config) (session : Session) : List String → Step
  | [] => ⟨session, [], false⟩
  | line :: lines =>
    let next := step config session line
    if next.ended then next
    else
      let later := stepAll config next.session lines
      ⟨later.session, next.emissions ++ later.emissions, later.ended⟩

/-- What a session emits is what it emits for the first lines and then for the others. -/
theorem run_append (config : Config) (more : List (Option String)) :
    ∀ (typed : List String) (session : Session),
      run config session (typed.map some ++ more) =
        (stepAll config session (typed.map Text.applyBackspaces)).emissions ++
          if (stepAll config session (typed.map Text.applyBackspaces)).ended then []
          else run config (stepAll config session (typed.map Text.applyBackspaces)).session more
  | [], _ => rfl
  | line :: typed, session => by
    rw [List.map_cons, List.cons_append, run, List.map_cons, stepAll]
    by_cases hended : (step config session (Text.applyBackspaces line)).ended = true
    · simp only [hended, if_true]
    · simp only [hended, if_false, run_append config more typed, List.append_assoc,
        Bool.false_eq_true]

variable {config : Config} {session : Session}

/-- The last line of a statement: it is evaluated and the buffer is empty again. -/
theorem extend_of_completes {line : String} (h : completes line = true) :
    extend config session line =
      ⟨{ session with buffer := "" },
        evaluate config session.action session.format
          (statementOf (session.buffer ++ line ++ "\n")), false⟩ := by
  rw [extend, if_pos h]

/-- Any line ahead of it: it is kept, with a line break behind it. -/
theorem extend_of_not_completes {line : String} (h : completes line = false) :
    extend config session line =
      ⟨{ session with buffer := session.buffer ++ line ++ "\n" }, [], false⟩ := by
  rw [extend, if_neg (by simp [h])]

/-- **While a statement is open, no line is a command**: it changes neither of the choices and does
not end the session. -/
theorem step_keeps (h : session.buffer ≠ "") (line : String) :
    (step config session line).session.action = session.action ∧
      (step config session line).session.format = session.format ∧
      (step config session line).ended = false := by
  rw [step_eq_extend fun hbuffer => absurd hbuffer h, extend]
  split <;> exact ⟨rfl, rfl, rfl⟩

/-- Lines as they stand in a buffer. -/
def buffered : List String → String
  | [] => ""
  | line :: lines => line ++ "\n" ++ buffered lines

/-- **Lines that are no commands are gathered until one completes the statement**, which is then
evaluated; nothing else is emitted, and the buffer is empty after that. -/
theorem stepAll_gathers {last : String} (hlast : completes last = true) :
    ∀ {front : List String} {session : Session},
      (session.buffer = "" → ∀ line, (front ++ [last]).head? = some line →
        Command.ofLine line = .statement) →
      (∀ line ∈ front, completes line = false) →
      stepAll config session (front ++ [last]) =
        ⟨{ session with buffer := "" },
          evaluate config session.action session.format
            (statementOf (session.buffer ++ buffered (front ++ [last]))), false⟩
  | [], session, hhead, _ => by
    have hstep : step config session last = extend config session last :=
      step_eq_extend fun h => hhead h last rfl
    rw [extend_of_completes hlast] at hstep
    simp [stepAll, hstep, buffered, String.append_assoc]
  | line :: front, session, hhead, hfront => by
    obtain ⟨hline, hfront⟩ := List.forall_mem_cons.mp hfront
    have hstep : step config session line = extend config session line :=
      step_eq_extend fun h => hhead h line rfl
    rw [extend_of_not_completes hline] at hstep
    -- The buffer holds a line break now, so the lines behind are not looked at as commands.
    have hopen : session.buffer ++ line ++ "\n" ≠ "" := by simp
    have ih : stepAll config { session with buffer := session.buffer ++ line ++ "\n" }
        (front ++ [last]) = _ := stepAll_gathers hlast (fun h => absurd h hopen) hfront
    have hbuffer : session.buffer ++ line ++ "\n" ++ buffered (front ++ [last]) =
        session.buffer ++ buffered (line :: (front ++ [last])) := by
      simp only [buffered, String.append_assoc]
    rw [List.cons_append, stepAll, hstep, ← hbuffer]
    simp only [Bool.false_eq_true, if_false, ih, List.nil_append]

/-- Lines in a buffer are the joined lines, with line breaks for the spaces. -/
theorem buffered_eq_joined : ∀ {lines : List String}, lines ≠ [] →
    (buffered lines).toList.map spaceForBreak =
      (buffered [" ".intercalate lines]).toList.map spaceForBreak
  | [], h => absurd rfl h
  | [line], _ => by simp [buffered]
  | line :: next :: lines, _ => by
    have ih := buffered_eq_joined (List.cons_ne_nil next lines)
    have hjoined : (buffered [" ".intercalate (line :: next :: lines)]).toList =
        line.toList ++ ' ' :: (buffered [" ".intercalate (next :: lines)]).toList := by
      simp [buffered, String.toList_intercalate]
    have hbreak : spaceForBreak '\n' = spaceForBreak ' ' := by decide
    rw [hjoined, List.map_append, List.map_cons, ← ih, ← hbreak, buffered]
    simp

/-- The line break at the end of a buffer is cut. -/
theorem statementOf_buffered (line : String) :
    statementOf (buffered [line]) = statementOf line := by
  have hbreak : ∀ b ∈ ['\n'], Text.isBlank b = true := List.forall_mem_singleton.mpr rfl
  have htrim : Text.trimChars (buffered [line]).toList = Text.trimChars line.toList := by
    rw [← Text.trimChars_append_right line.toList hbreak]
    simp [buffered]
  rw [statementOf, statementOf, htrim]

/-- Joined lines start with the first word of the first line. -/
theorem words_joined_lines {line word : String} {words : List String}
    (h : Text.words line = word :: words) (lines : List String) :
    ∃ more, Text.words (" ".intercalate (line :: lines)) = word :: more := by
  cases lines with
  | nil => exact ⟨words, by rw [String.intercalate_singleton, h]⟩
  | cons next lines =>
    rw [String.intercalate_cons_cons, Text.words_append_space, h]
    exact ⟨_, rfl⟩

/-- Joined lines are no command if the first one is none by its first word. -/
theorem ofLine_joined {lines : List String} (hne : lines ≠ [])
    (hhead : ∀ line, lines.head? = some line → ∃ word words,
      Text.words line = word :: words ∧ Text.lowered word ∉ commandWords) :
    Command.ofLine (" ".intercalate lines) = .statement := by
  obtain ⟨line, more, rfl⟩ := List.exists_cons_of_ne_nil hne
  obtain ⟨word, words, hwords, hword⟩ := hhead line rfl
  obtain ⟨others, hjoined⟩ := words_joined_lines hwords more
  exact ofLine_eq_statement hjoined hword

/-- Joined lines complete a statement if the last one does. -/
theorem completes_joined (front : List String) {last : String} (h : completes last = true) :
    completes (" ".intercalate (front ++ [last])) = true := by
  by_cases hfront : front = []
  · rw [hfront, List.nil_append, String.intercalate_singleton, h]
  · rw [String.intercalate_append_of_ne_nil hfront (List.cons_ne_nil _ _),
      String.intercalate_singleton]
    exact completes_append _ h

/-! ## 5. Statements over several lines

The statement has the two sessions, what they emit, what they are left as, and what that means for
the lines that are typed after. -/

/-- **A statement may be split over any lines.**  A session without an open statement gets lines of
which the first is not blank and does not start with a command word, and of which just the last one
ends in a semicolon.  It emits what it emits for the one line that joins them with spaces, which is
the answer to the statement, and in both cases it is left as it was: without an open statement, and
with the same choices.  So the two are one also for whatever is typed after that.  While a statement
is open, no line whatever changes the choices or ends the session. -/
theorem lines_joined (config : Config) {session : Session} (hbuffer : session.buffer = "")
    {front : List String} {last : String}
    (hhead : ∀ line, (front ++ [last]).head? = some line → ∃ word words,
      Text.words line = word :: words ∧ Text.lowered word ∉ commandWords)
    (hfront : ∀ line ∈ front, completes line = false) (hlast : completes last = true) :
    let joined := " ".intercalate (front ++ [last])
    let emissions := evaluate config session.action session.format (statementOf joined)
    stepAll config session (front ++ [last]) = ⟨session, emissions, false⟩ ∧
    stepAll config session [joined] = ⟨session, emissions, false⟩ ∧
    (∀ (typed : List String) (one : String) (more : List (Option String)),
      typed.map Text.applyBackspaces = front ++ [last] → Text.applyBackspaces one = joined →
      run config session (typed.map some ++ more) = emissions ++ run config session more ∧
      run config session (some one :: more) = emissions ++ run config session more) ∧
    ∀ (opened : Session) (line : String), opened.buffer ≠ "" →
      (step config opened line).session.action = opened.action ∧
        (step config opened line).session.format = opened.format ∧
        (step config opened line).ended = false := by
  intro joined emissions
  have hempty : ({ session with buffer := "" } : Session) = session := by rw [← hbuffer]
  have hne : front ++ [last] ≠ [] := List.append_ne_nil_of_right_ne_nil front (by simp)
  have hcommand : ∀ line, (front ++ [last]).head? = some line →
      Command.ofLine line = .statement := by
    intro line hline
    obtain ⟨word, words, hwords, hword⟩ := hhead line hline
    exact ofLine_eq_statement hwords hword
  have hone : stepAll config session [joined] = ⟨session, emissions, false⟩ := by
    have hgather : stepAll config session ([] ++ [joined]) = _ :=
      stepAll_gathers (completes_joined front hlast)
        (by rintro - line ⟨⟩; exact ofLine_joined hne hhead) (List.forall_mem_nil _)
    rw [List.nil_append, hempty, hbuffer, String.empty_append, statementOf_buffered] at hgather
    exact hgather
  have hall : stepAll config session (front ++ [last]) = ⟨session, emissions, false⟩ := by
    rw [stepAll_gathers hlast (fun _ => hcommand) hfront, hempty, hbuffer, String.empty_append,
      evaluate_statementOf config session.action session.format (buffered_eq_joined hne),
      statementOf_buffered]
  refine ⟨hall, hone, ?_, fun opened line hopen => step_keeps hopen line⟩
  intro typed one more htyped hone'
  have hrun := run_append config more typed session
  have hrunOne := run_append config more [one] session
  rw [htyped, hall] at hrun
  rw [List.map_singleton, List.map_singleton, hone', hone] at hrunOne
  exact ⟨hrun, hrunOne⟩

/-- A blank line and a command word inside a statement. -/
theorem lines_joined_exit :
    stepAll Config.lenient {} ["SELECT *", "", "exit", "FROM HEXAD h1 ;"] =
      stepAll Config.lenient {} ["SELECT *  exit FROM HEXAD h1 ;"] := by
  have hhead : ∀ line, (["SELECT *", "", "exit"] ++ ["FROM HEXAD h1 ;"]).head? = some line →
      ∃ word words, Text.words line = word :: words ∧ Text.lowered word ∉ commandWords := by
    rintro line ⟨⟩
    exact ⟨"SELECT", ["*"], by decide, by decide⟩
  have h := lines_joined Config.lenient (rfl : ({} : Session).buffer = "") hhead (by decide)
    (by decide)
  have hjoined : " ".intercalate (["SELECT *", "", "exit"] ++ ["FROM HEXAD h1 ;"]) =
      "SELECT *  exit FROM HEXAD h1 ;" := by decide
  rw [hjoined] at h
  exact h.1.trans h.2.1.symm

end Console

end HexadQuery
