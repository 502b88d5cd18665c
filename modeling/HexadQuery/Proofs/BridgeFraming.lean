/-
# The bridge writes a line for a line

One line goes out for each line that comes in and is not blank, in the same order.  A client that
cuts the output at its newlines finds the responses again, because no response holds a newline of
its own: whatever a query, a message or a name holds, a JSON text escapes its control characters
(`Json.printable_chars`).

What is served is a list of lines, so everything about order is a statement about `serve` on lists
(`serve_append`); the lines of a stream are cut before, and `StreamLines` says how they meet where
two streams do.  Nothing here depends on what reads the queries: the parser is any function, as it
is a type parameter of `handle_line`, `handle_request` and `serve` in the source.

A stream may hold bytes that are no text.  Reading it a line at a time fails at the first such line
and `serve` ends with the error, but what it has written by then is written, so the statements are
about a list of answers and a flag that says whether the stream was read to its end.  The count of
answers that `serve` returns is the length of that list.

The order of the module is that of the output: what a JSON text may hold, which answers there are,
how they are written, and that nothing else goes to the output stream of the program
(`outText_runBridge`).  `serveBytes_framing` puts the parts together.
-/
import HexadQuery.Cli.Run
import HexadQuery.Proofs.JsonTexts
import HexadQuery.Proofs.StreamLines
import HexadQuery.Proofs.Words

namespace HexadQuery

/-! ## 1. JSON texts hold no controls

An induction over the JSON value that follows the writer.  The only characters that come from
outside are those of strings, and `escapeChar` replaces the controls among them by letters, digits
and a backslash. -/

namespace Json

/-- No character is a control below U+0020. -/
def Printable (cs : List Char) : Prop := ∀ c ∈ cs, 0x20 ≤ c.toNat

instance (cs : List Char) : Decidable (Printable cs) :=
  List.decidableBAll (fun c : Char => 0x20 ≤ c.toNat) cs

/-- Printable texts, one behind the other. -/
theorem Printable.append {as bs : List Char} (ha : Printable as) (hb : Printable bs) :
    Printable (as ++ bs) := by
  intro c hc
  rcases List.mem_append.mp hc with hc | hc
  · exact ha c hc
  · exact hb c hc

theorem Printable.cons {c : Char} {cs : List Char} (hc : 0x20 ≤ c.toNat) (hcs : Printable cs) :
    Printable (c :: cs) :=
  List.forall_mem_cons.mpr ⟨hc, hcs⟩

theorem printable_nil : Printable [] := List.forall_mem_nil _

/-- The letters of the short escapes. -/
theorem toNat_of_escaped? {e c : Char} (h : escaped? e = some c) : 0x20 ≤ e.toNat := by
  unfold escaped? at h
  split at h
  all_goals first | decide | cases h

/-- A character that is written as it is was no control; the others have an escape. -/
theorem printable_escapeChar (c : Char) : Printable (escapeChar c) := by
  rcases escapeChar_cases c with ⟨e, he, heq⟩ | ⟨hc, heq⟩ | ⟨-, -, hc, heq⟩
  · rw [heq]
    exact (printable_nil.cons (toNat_of_escaped? he)).cons (by decide)
  · have hdigit : ∀ n : Fin 16, 0x20 ≤ (Nat.digitChar n).toNat := by decide
    rw [heq]
    refine ((((printable_nil.cons ?_).cons ?_).cons (by decide)).cons (by decide)).cons
      (by decide) |>.cons (by decide)
    · exact hdigit ⟨c.toNat % 16, by omega⟩
    · exact hdigit ⟨c.toNat / 16, by omega⟩
  · rw [heq]
    exact printable_nil.cons (by omega)

/-- A string in its quotes. -/
theorem printable_stringText (s : String) : Printable (stringText s).toList := by
  rw [toList_stringText]
  refine Printable.cons (by decide) (Printable.append ?_ (printable_nil.cons (by decide)))
  intro d hd
  obtain ⟨c, -, hd⟩ := List.mem_flatMap.mp hd
  exact printable_escapeChar c d hd

/-- A number is digits. -/
theorem printable_repr (n : Nat) : Printable n.repr.toList := by
  intro c hc
  rw [Nat.toList_repr] at hc
  have hdigit := Nat.isDigit_of_mem_toDigits (by decide) (by decide) hc
  simp only [Char.isDigit, Bool.and_eq_true, decide_eq_true_eq] at hdigit
  have hle : 48 ≤ c.val.toNat := hdigit.1
  change 0x20 ≤ c.val.toNat
  omega

section Lists

variable {α : Type} {text : α → List Char} {close : Char}

/-- What follows the first item of a list: a comma ahead of each, and the closing bracket. -/
theorem printable_tailText (hclose : 0x20 ≤ close.toNat) {items : List α}
    (h : ∀ item ∈ items, Printable (text item)) : Printable (tailText text close items) := by
  refine Printable.append ?_ (printable_nil.cons hclose)
  intro c hc
  obtain ⟨item, hitem, hc⟩ := List.mem_flatMap.mp hc
  exact (h item hitem).cons (by decide) c hc

/-- A list, empty or not. -/
theorem printable_listText (hclose : 0x20 ≤ close.toNat) : ∀ {items : List α},
    (∀ item ∈ items, Printable (text item)) → Printable (listText text close items)
  | [], _ => printable_nil.cons hclose
  | item :: _, h =>
    (h item List.mem_cons_self).append
      (printable_tailText hclose fun i hi => h i (List.mem_cons_of_mem _ hi))

end Lists

mutual

/-- **A compact text holds no controls**, and so no line break.  A string is the only place where
one could stand, and there it is escaped; all else are digits, letters and brackets. -/
theorem printable_chars : ∀ json : Json, Printable json.chars
  | null => (by decide : Printable ['n', 'u', 'l', 'l'])
  | bool true => (by decide : Printable ['t', 'r', 'u', 'e'])
  | bool false => (by decide : Printable ['f', 'a', 'l', 's', 'e'])
  | num n => printable_repr n
  | str text => printable_stringText text
  | arr items => by
    rw [chars_arr]
    exact (printable_listText (by decide) (printable_items items)).cons (by decide)
  | obj members => by
    rw [chars_obj]
    exact (printable_listText (by decide) (printable_members members)).cons (by decide)

/-- The items of an array, each by the induction. -/
theorem printable_items : ∀ items : List Json, ∀ item ∈ items, Printable item.chars
  | [] => List.forall_mem_nil _
  | first :: items => List.forall_mem_cons.mpr ⟨printable_chars first, printable_items items⟩

/-- The members of an object, with their keys. -/
theorem printable_members : ∀ members : List (String × Json), ∀ member ∈ members,
    Printable (memberChars member)
  | [] => List.forall_mem_nil _
  | (key, value) :: members => by
    refine List.forall_mem_cons.mpr ⟨?_, printable_members members⟩
    exact (printable_stringText key).append ((printable_chars value).cons (by decide))

end

end Json

namespace Bridge

/-! ## 2. Serving lines

`serve` answers line after line and stops where a line is no text.  So a stream has two parts, the
lines ahead of the stop and the rest, and only the first part has answers. -/

/-- A line gets no answer exactly if it is blank. -/
theorem answerLine_eq_none_iff {parser : Parser} {line : String} :
    answerLine parser line = none ↔ ∀ c ∈ line.toList, Text.isBlank c = true := by
  rw [← Text.trimChars_eq_nil_iff]
  have hempty : Text.trim line = "" ↔ Text.trimChars line.toList = [] := by
    rw [Text.trim, ← String.toList_inj, String.toList_ofList]
    rfl
  rw [← hempty]
  unfold answerLine
  by_cases hline : Text.trim line = ""
  · simp [hline]
  · simp only [hline, if_false, iff_false]
    split <;> simp

/-- **Lines that are texts are answered one by one**, and what follows them after that. -/
theorem serve_append (parser : Parser) (later : List (Option String)) : ∀ texts : List String,
    serve parser (texts.map some ++ later) =
      ⟨texts.filterMap (answerLine parser) ++ (serve parser later).answers,
        (serve parser later).complete⟩
  | [] => rfl
  | text :: texts => by
    rw [List.map_cons, List.cons_append, serve, serve_append parser later texts,
      List.filterMap_cons]
    cases answerLine parser text <;> rfl

/-- A stream is read to its end, or to the first line that is not a text. -/
theorem exists_texts : ∀ lines : List (Option String), ∃ texts : List String,
    lines = texts.map some ∨ ∃ later, lines = texts.map some ++ none :: later
  | [] => ⟨[], Or.inl rfl⟩
  | none :: later => ⟨[], Or.inr ⟨later, rfl⟩⟩
  | some text :: lines => by
    obtain ⟨texts, rfl | ⟨later, rfl⟩⟩ := exists_texts lines
    · exact ⟨text :: texts, Or.inl rfl⟩
    · exact ⟨text :: texts, Or.inr ⟨later, rfl⟩⟩

/-- If every line is a text there is no stop. -/
theorem exists_texts_of_isSome {lines : List (Option String)} (h : ∀ line ∈ lines, line.isSome) :
    ∃ texts : List String, lines = texts.map some := by
  obtain ⟨texts, hall | ⟨later, rfl⟩⟩ := exists_texts lines
  · exact ⟨texts, hall⟩
  · exact absurd (h none (by simp)) (by simp)

/-! ## 3. What is written

A response is one line because its JSON text is printable, and the newline behind it is the only
one.  Cutting the output therefore undoes the writing. -/

namespace Service

/-- What a service writes: each response with a newline behind it. -/
def output (service : Service) : String := Text.written service.lines

/-- The output, response by response. -/
theorem output_eq (service : Service) : service.output =
    String.join (service.answers.map fun answer => answer.response.toJson.compact ++ "\n") := by
  rw [output, Text.written, lines, List.map_map]
  rfl

/-- A response line holds no controls. -/
theorem printable_lines (service : Service) :
    ∀ line ∈ service.lines, ∀ c ∈ line.toList, 0x20 ≤ c.toNat := by
  intro line hline
  obtain ⟨answer, -, rfl⟩ := List.mem_map.mp hline
  exact Json.printable_chars answer.response.toJson

/-- **The output is cut into the responses again.**  A response has no line break and ends with
one when it is written, so a line of the output is a response. -/
theorem textLines_output (service : Service) :
    Text.textLines (Text.bytes service.output) = service.lines.map some :=
  Text.textLines_written service.printable_lines

end Service

/-! ## 4. What the program writes

The program around `serve` logs to the error stream and writes the answers to the output stream.
Projecting the emissions of a run to the output stream leaves what the service wrote. -/

end Bridge

namespace Emission

/-- The output of two runs of emissions. -/
theorem outText_append : ∀ as bs : List Emission, outText (as ++ bs) = outText as ++ outText bs
  | [], bs => by simp [outText]
  | .out text :: as, bs => by
    rw [List.cons_append, outText, outText, outText_append as bs, String.append_assoc]
  | .err text :: as, bs => outText_append as bs
  | .log entry :: as, bs => outText_append as bs

/-- Log entries do not go there. -/
theorem outText_map_log : ∀ entries : List LogEntry, outText (entries.map .log) = ""
  | [] => rfl
  | _ :: entries => outText_map_log entries

/-- Lines do, with a newline behind each. -/
theorem outText_map_outLine : ∀ lines : List String,
    outText (lines.map outLine) = Text.written lines
  | [] => rfl
  | line :: lines => by
    have hwritten : Text.written (line :: lines) = line ++ "\n" ++ Text.written lines := by
      rw [Text.written, List.map_cons, String.join_cons]
      rfl
    rw [List.map_cons, outLine, outText, outText_map_outLine lines, hwritten]

end Emission

namespace Bridge

/-- **The output stream of a bridge holds what the service writes**, and nothing else, also when
the service stops early. -/
theorem outText_runBridge (config : Config) (input : List UInt8) :
    Emission.outText (Cli.runBridge config input).emissions =
      (serveBytes config input).output := by
  have hlog : ∀ entry, Emission.outText [.log entry] = "" := fun _ => rfl
  have herr : ∀ text, Emission.outText [.errLine text] = "" := fun _ => rfl
  have hserved : ∀ service : Service, Emission.outText (service.lines.map Emission.outLine ++
      service.log.map Emission.log) = service.output := by
    intro service
    rw [Emission.outText_append, Emission.outText_map_log, Emission.outText_map_outLine,
      String.append_empty, Service.output]
  unfold Cli.runBridge
  simp only
  split
  · rw [Emission.outText_append, hserved, hlog, String.append_empty]
  · rw [Cli.Report.failure, Emission.outText_append, hserved, herr, String.append_empty]

/-! ## 5. Framing

The statement for streams of bytes.  That a text behind a text which ends in a newline is served
behind it is what lets a client send requests one at a time. -/

/-- What a stream is served as, by its lines. -/
theorem serveBytes_eq_of_texts {parser : Parser} {stream : List UInt8} {texts : List String}
    (h : Text.textLines stream = texts.map some) :
    serveBytes parser stream = ⟨texts.filterMap (answerLine parser), true⟩ := by
  have happend := serve_append parser [] texts
  rw [List.append_nil] at happend
  rw [serveBytes, h, happend, serve, List.append_nil]

/-- A stream with a line that is no text: the answers ahead of it stand. -/
theorem serveBytes_eq_of_not_text {parser : Parser} {stream : List UInt8} {texts : List String}
    {later : List (Option String)} (h : Text.textLines stream = texts.map some ++ none :: later) :
    serveBytes parser stream = ⟨texts.filterMap (answerLine parser), false⟩ := by
  rw [serveBytes, h, serve_append, serve, List.append_nil]

/-- **Framing.**  The lines of a stream that are ahead of the first one that is no text are answered
in order, a blank line not at all and any other with one line of JSON that holds no newline; the
stream is read to its end if and only if all its lines are texts.  The output, cut into lines, is
the responses.  A text behind a text that ends in a newline is answered behind it. -/
theorem serveBytes_framing (parser : Parser) :
    (∀ stream, ∃ texts : List String,
      (Text.textLines stream = texts.map some ∧ (serveBytes parser stream).complete = true ∨
        ∃ later, Text.textLines stream = texts.map some ++ none :: later ∧
          (serveBytes parser stream).complete = false) ∧
      (serveBytes parser stream).answers = texts.filterMap (answerLine parser) ∧
      (serveBytes parser stream).output = String.join ((texts.filterMap (answerLine parser)).map
        fun answer => answer.response.toJson.compact ++ "\n")) ∧
    (∀ line, answerLine parser line = none ↔ ∀ c ∈ line.toList, Text.isBlank c = true) ∧
    (∀ stream, ∀ line ∈ (serveBytes parser stream).lines, '\n' ∉ line.toList) ∧
    (∀ stream, Text.textLines (Text.bytes (serveBytes parser stream).output) =
      (serveBytes parser stream).lines.map some) ∧
    ∀ a b : List UInt8, (Text.decode? a).isSome → (Text.decode? b).isSome →
      a.getLast? = some 0x0A →
      (serveBytes parser a).complete = true ∧ (serveBytes parser b).complete = true ∧
      (serveBytes parser (a ++ b)).complete = true ∧
      (serveBytes parser (a ++ b)).output =
        (serveBytes parser a).output ++ (serveBytes parser b).output ∧
      (serveBytes parser (a ++ b)).answers.length =
        (serveBytes parser a).answers.length + (serveBytes parser b).answers.length := by
  refine ⟨?_, fun _ => answerLine_eq_none_iff, ?_, fun _ => Service.textLines_output _, ?_⟩
  · intro stream
    obtain ⟨texts, hall | ⟨later, hlater⟩⟩ := exists_texts (Text.textLines stream)
    · rw [serveBytes_eq_of_texts hall]
      exact ⟨texts, Or.inl ⟨hall, rfl⟩, rfl, Service.output_eq _⟩
    · rw [serveBytes_eq_of_not_text hlater]
      exact ⟨texts, Or.inr ⟨later, hlater, rfl⟩, rfl, Service.output_eq _⟩
  · intro stream line hline hmem
    exact absurd (Service.printable_lines _ line hline _ hmem) (by decide)
  · intro a b ha hb hend
    obtain ⟨as, has⟩ := exists_texts_of_isSome (Text.isSome_of_mem_textLines ha)
    obtain ⟨bs, hbs⟩ := exists_texts_of_isSome (Text.isSome_of_mem_textLines hb)
    -- the first stream ends in a line feed, so no line goes over from one to the other
    have hboth : Text.textLines (a ++ b) = (as ++ bs).map some := by
      rw [Text.textLines_append hend, has, hbs, List.map_append]
    rw [serveBytes_eq_of_texts has, serveBytes_eq_of_texts hbs, serveBytes_eq_of_texts hboth]
    refine ⟨rfl, rfl, rfl, ?_, ?_⟩
    · simp only [Service.output, Service.lines, List.filterMap_append, List.map_append,
        Text.written_append]
    · rw [List.filterMap_append, List.length_append]

/-- A request, a blank line and a line that is no request. -/
theorem serveBytes_request_then_junk :
    (serveBytes Config.strict
        (Text.bytes "\x7b\"query\": \"x\"\x7d\n \n" ++ Text.bytes "junk")).output =
      (serveBytes Config.strict (Text.bytes "\x7b\"query\": \"x\"\x7d\n \n")).output ++
        (serveBytes Config.strict (Text.bytes "junk")).output := by
  have htext : ∀ s, (Text.decode? (Text.bytes s)).isSome := by
    intro s
    rw [Text.decode?_eq_some.mpr rfl]
    rfl
  refine ((serveBytes_framing Config.strict).2.2.2.2 _ _ (htext _) (htext _) ?_).2.2.2.1
  rw [Text.bytes_eq]
  decide

end Bridge

end HexadQuery
