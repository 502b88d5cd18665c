/-
# What a SELECT list says

The words between SELECT and FROM are cut into pieces, the pieces that spell items are recognised,
and the items are collected.  Each of the three steps is described here by itself:

* `SelectPieces words pieces` is the cut.  A word is cut at its commas; a word that ends in a
  function name and has a word behind it that opens a group makes one piece with that word.
* `SelectItem.Recognised registry pieces items` keeps what spells an item, in order.
* `SelectList.collect_firstSeen` says what collecting makes of items: the modalities they mention,
  each where it is mentioned first, and all projections and all aggregates.

`select_of_first_mentions` puts them together for whole queries.

The description is relational where the source has loops.  `select_clause` takes token after token
and cuts each into pieces, and behind a function name at the end of a token `detached_operand` looks
whether the next one is its operand; `SelectPieces` has a rule for each of the two cases.
`select_item` puts what it recognises into three lists as it goes; the description speaks of the
sequence of items as a whole.

All three relations are functions: the pieces of words are determined
(`SelectPieces.eq_selectTexts`), so are the items of pieces (`SelectItem.recognised_iff`), and
items always exist, since a piece that is no item is passed over.  So the items of a query may be
taken from any reading of its words by these relations.
-/
import HexadQuery.Proofs.ItemSpellings
import HexadQuery.Proofs.SelectItems

namespace HexadQuery

/-! ## 1. Words into pieces

The cut.  A name that waits for its operand has to be all of its word or stand behind a comma in
it; otherwise the word only looks as if it ended in one. -/

/-- The word ends in the name of a function, which is all of it or stands behind a comma. -/
structure EndsInFunction (word front name : String) : Prop where
  word_eq : word = front ++ name
  /-- the name is all of the word or stands behind a comma -/
  front : front = "" ∨ ∃ text, front = text ++ ","
  function : ∃ function, NamesFunction name function

/-- The pieces of the words of a SELECT list.  The word behind a function name is its operand if it
opens a group; commas at the end of the operand are dropped, and it is not cut at others. -/
inductive SelectPieces : List String → List String → Prop
  | nil : SelectPieces [] []
  /-- a function name at the end of a word, and the word behind it that opens a group -/
  | call {word front name operand commas : String} {rest pieces : List String}
      (hword : EndsInFunction word front name) (hopens : operand.toList.head? = some '(')
      (hlast : operand.toList.getLast? ≠ some ',') (hcommas : ∀ c ∈ commas.toList, c = ',')
      (hrest : SelectPieces rest pieces) :
      SelectPieces (word :: (operand ++ commas) :: rest)
        (Piece.commaPieces front ++ (name ++ operand) :: pieces)
  /-- a word that does not take the next one -/
  | word {word : String} {rest pieces : List String}
      (hword : ∀ front name, EndsInFunction word front name →
        ∀ next, rest.head? = some next → next.toList.head? ≠ some '(')
      (hrest : SelectPieces rest pieces) :
      SelectPieces (word :: rest) (Piece.commaPieces word ++ pieces)

namespace EndsInFunction

variable {word front name : String}

/-- The name is the last piece. -/
theorem commaPieces (h : EndsInFunction word front name) :
    Piece.commaPieces word = Piece.commaPieces front ++ [name] := by
  obtain ⟨function, hname⟩ := h.function
  rw [h.word_eq, Piece.commaPieces_append h.front, hname.solid.commaPieces]

/-- The word ends in a letter. -/
theorem isAlpha_getLast? (h : EndsInFunction word front name) {c : Char}
    (hc : word.toList.getLast? = some c) : c.isAlpha = true := by
  obtain ⟨function, hname⟩ := h.function
  rw [h.word_eq, String.toList_append, List.getLast?_append_of_ne_nil _ hname.ne_nil] at hc
  exact hname.isAlpha c (List.mem_of_mem_getLast? hc)

end EndsInFunction

namespace SelectPiece

/-- The words that wait for an operand are those that end in a function name.  What is behind the
last comma of a word is its last piece. -/
theorem awaitsOperand_iff (token : Token) :
    awaitsOperand token = true ↔ ∃ front name, EndsInFunction token.text front name := by
  unfold awaitsOperand
  rw [Bool.and_eq_true, bne_iff_ne, Option.any_eq_true]
  constructor
  · rintro ⟨hlast, piece, hpiece, hfunction⟩
    obtain ⟨front, back, htext, hfront, hback⟩ := Piece.exists_last_comma token.text
    have hne : back ≠ "" := by
      rintro rfl
      rcases hfront with rfl | ⟨text, rfl⟩
      · rw [htext] at hpiece
        exact absurd hpiece (by simp)
      · rw [htext] at hlast
        simp [String.toList_append] at hlast
    rw [htext, Piece.commaPieces_append hfront, Piece.commaPieces_of_not_mem hne hback,
      List.getLast?_concat, Option.some.injEq] at hpiece
    subst hpiece
    obtain ⟨function, hfound⟩ := Option.isSome_iff_exists.mp hfunction
    exact ⟨front, back, htext, hfront, function,
      AggregateFunction.ofName?_eq_some_iff.mp hfound⟩
  · rintro ⟨front, name, h⟩
    obtain ⟨function, hname⟩ := h.function
    refine ⟨fun hlast => absurd (h.isAlpha_getLast? hlast) (by decide), name,
      by rw [h.commaPieces, List.getLast?_concat], ?_⟩
    rw [AggregateFunction.ofName?_eq_some_iff.mpr hname]
    rfl

end SelectPiece

/-- A word opens a group if it starts with a parenthesis. -/
theorem opensGroup_ofWord (word : String) :
    Rule.opensGroup (Token.ofWord word) = true ↔ word.toList.head? = some '(' := by
  simp [Rule.opensGroup, Token.ofWord]

/-! ### The reading, word by word -/

/-- A function and its operand: the next word is taken whole, up to the commas at its end. -/
theorem selectTexts_call {word front name next : String} (h : EndsInFunction word front name)
    (hopens : next.toList.head? = some '(') (rest : List String) :
    selectTexts (word :: next :: rest) = Piece.commaPieces front ++
      (name ++ String.ofList (Text.cutTrailing ',' next.toList)) :: selectTexts rest := by
  have hcall : (SelectPiece.awaitsOperand (Token.ofWord word) &&
      Rule.opensGroup (Token.ofWord next)) = true := by
    rw [Bool.and_eq_true]
    exact ⟨(SelectPiece.awaitsOperand_iff _).mpr ⟨front, name, h⟩,
      (opensGroup_ofWord next).mpr hopens⟩
  simp only [selectTexts, List.map_cons]
  rw [SelectPiece.ofTokens, if_pos hcall, List.map_append]
  simp [SelectPiece.ofCall, Token.ofWord, h.commaPieces, Function.comp_def]

/-- Any other word is cut at its commas. -/
theorem selectTexts_word {word : String} {rest : List String}
    (h : ∀ front name, EndsInFunction word front name →
      ∀ next, rest.head? = some next → next.toList.head? ≠ some '(') :
    selectTexts (word :: rest) = Piece.commaPieces word ++ selectTexts rest := by
  cases rest with
  | nil =>
    simp [selectTexts, SelectPiece.ofTokens, SelectPiece.ofToken, Token.ofWord, Function.comp_def]
  | cons next rest =>
    have hcall : ¬ (SelectPiece.awaitsOperand (Token.ofWord word) &&
        Rule.opensGroup (Token.ofWord next)) = true := by
      rw [Bool.and_eq_true, SelectPiece.awaitsOperand_iff, opensGroup_ofWord]
      rintro ⟨⟨front, name, hword⟩, hopens⟩
      exact h front name hword next rfl hopens
    simp only [selectTexts, List.map_cons]
    rw [SelectPiece.ofTokens, if_neg hcall, List.map_append]
    simp [SelectPiece.ofToken, Token.ofWord, Function.comp_def]

/-- A trailing mark is cut, with all its copies. -/
theorem Text.cutTrailing_append {mark : Char} {cs marks : List Char}
    (hlast : cs.getLast? ≠ some mark) (hmarks : ∀ c ∈ marks, c = mark) :
    cutTrailing mark (cs ++ marks) = cs := by
  have hpos : ∀ c ∈ marks.reverse, (c == mark) = true := by
    intro c hc
    rw [beq_iff_eq]
    exact hmarks c (List.mem_reverse.mp hc)
  rw [cutTrailing, List.reverse_append, List.dropWhile_append_of_pos hpos]
  cases hcs : cs.reverse with
  | nil => rw [List.dropWhile_nil, List.reverse_nil, List.reverse_eq_nil_iff.mp hcs]
  | cons c more =>
    have hc : ¬ (c == mark) = true := by
      rw [beq_iff_eq]
      rintro rfl
      exact hlast (by rw [← List.head?_reverse, hcs]; rfl)
    rw [List.dropWhile_cons, if_neg hc, ← hcs, List.reverse_reverse]

/-- What is ahead of another character than the mark is not cut. -/
theorem Text.prefix_cutTrailing {mark c : Char} (hc : c ≠ mark) (front back : List Char) :
    front ++ [c] <+: cutTrailing mark (front ++ c :: back) := by
  have hkept : (c :: front.reverse).dropWhile (· == mark) = c :: front.reverse :=
    List.dropWhile_cons_of_neg (by simpa using hc)
  have hsuffix : c :: front.reverse <:+
      (back.reverse ++ c :: front.reverse).dropWhile (· == mark) := by
    rw [List.dropWhile_append]
    split
    · rw [hkept]
    · exact List.suffix_append _ _
  simpa [cutTrailing] using List.reverse_prefix.mpr hsuffix

/-- What is cut are copies of the mark, and the text that is left does not end in it. -/
theorem Text.exists_cutTrailing (mark : Char) (cs : List Char) : ∃ marks,
    cs = cutTrailing mark cs ++ marks ∧ (∀ c ∈ marks, c = mark) ∧
      (cutTrailing mark cs).getLast? ≠ some mark := by
  refine ⟨(cs.reverse.takeWhile (· == mark)).reverse, ?_, ?_, ?_⟩
  · rw [cutTrailing, ← List.reverse_append, List.takeWhile_append_dropWhile, List.reverse_reverse]
  · intro c hc
    simpa using List.mem_takeWhile_imp (List.mem_reverse.mp hc)
  · rw [cutTrailing, List.getLast?_reverse]
    intro hhead
    have hnot := List.head?_dropWhile_not (· == mark) cs.reverse
    rw [hhead] at hnot
    simp at hnot

/-- The operand of a call, without the commas behind it. -/
theorem exists_operand {next : String} (h : next.toList.head? = some '(') :
    ∃ operand commas : String, next = operand ++ commas ∧ operand.toList.head? = some '(' ∧
      operand.toList.getLast? ≠ some ',' ∧ ∀ c ∈ commas.toList, c = ',' := by
  obtain ⟨marks, heq, hmarks, hlast⟩ := Text.exists_cutTrailing ',' next.toList
  refine ⟨String.ofList (Text.cutTrailing ',' next.toList), String.ofList marks, ?_, ?_, ?_, ?_⟩
  · rw [← String.ofList_append, ← heq, String.ofList_toList]
  · rw [String.toList_ofList]
    rw [heq] at h
    cases hcut : Text.cutTrailing ',' next.toList with
    | nil =>
      rw [hcut, List.nil_append] at h
      exact absurd (hmarks '(' (List.mem_of_mem_head? h)) (by decide)
    | cons c cs =>
      rw [hcut] at h
      exact h
  · rwa [String.toList_ofList]
  · rwa [String.toList_ofList]

/-- **The reading cuts words into their pieces.**  The recursion is that of the reading, over one
word or two. -/
theorem selectPieces_selectTexts : ∀ words : List String, SelectPieces words (selectTexts words)
  | [] => .nil
  | [word] => by
    have hword : ∀ front name, EndsInFunction word front name →
        ∀ next, ([] : List String).head? = some next → next.toList.head? ≠ some '(' :=
      fun _ _ _ next hnext => absurd hnext (by simp)
    rw [selectTexts_word hword]
    exact .word hword .nil
  | word :: next :: rest => by
    have hrest := selectPieces_selectTexts rest
    have hmore := selectPieces_selectTexts (next :: rest)
    -- two words make one piece, or the first is cut by itself; the induction is on what is left
    -- then
    by_cases hcall : (∃ front name, EndsInFunction word front name) ∧ next.toList.head? = some '('
    · obtain ⟨⟨front, name, hword⟩, hopens⟩ := hcall
      obtain ⟨operand, commas, rfl, hhead, hlast, hcommas⟩ := exists_operand hopens
      have hcut : Text.cutTrailing ',' (operand ++ commas).toList = operand.toList := by
        rw [String.toList_append]
        exact Text.cutTrailing_append hlast hcommas
      rw [selectTexts_call hword hopens, hcut, String.ofList_toList]
      exact .call hword hhead hlast hcommas hrest
    · have hword : ∀ front name, EndsInFunction word front name →
          ∀ other, (next :: rest).head? = some other → other.toList.head? ≠ some '(' := by
        intro front name hends other hother hopens
        obtain rfl : next = other := by simpa using hother
        exact hcall ⟨⟨front, name, hends⟩, hopens⟩
      rw [selectTexts_word hword]
      exact .word hword hmore

/-- Words are cut in one way. -/
theorem SelectPieces.eq_selectTexts {words pieces : List String} (h : SelectPieces words pieces) :
    pieces = selectTexts words := by
  induction h with
  | nil => rfl
  | @call word front name operand commas rest pieces hword hopens hlast hcommas _ ih =>
    have hhead : (operand ++ commas).toList.head? = some '(' := by
      rw [String.toList_append, List.head?_append, hopens, Option.some_or]
    have hcut : Text.cutTrailing ',' (operand ++ commas).toList = operand.toList := by
      rw [String.toList_append]
      exact Text.cutTrailing_append hlast hcommas
    rw [selectTexts_call hword hhead, hcut, String.ofList_toList, ih]
  | word hword _ ih => rw [selectTexts_word hword, ih]

/-- Pieces of words are words.  A call in two words has its name from one of them and its operand
from the next. -/
theorem SelectPieces.isWord {words pieces : List String} (h : SelectPieces words pieces)
    (hwords : ∀ word ∈ words, Text.IsWord word.toList) :
    ∀ piece ∈ pieces, Text.IsWord piece.toList := by
  induction h with
  | nil => simp
  | @call word front name operand commas rest pieces hword hopens hlast hcommas _ ih =>
    have hpieces : ∀ piece ∈ Piece.commaPieces word, Text.IsWord piece.toList :=
      fun _ => Piece.isWord_of_mem_commaPieces (hwords word List.mem_cons_self)
    have hnext := hwords (operand ++ commas) (by simp)
    intro piece hpiece
    rcases List.mem_append.mp hpiece with hpiece | hpiece
    · refine hpieces piece ?_
      rw [hword.commaPieces]
      exact List.mem_append_left _ hpiece
    rcases List.mem_cons.mp hpiece with rfl | hpiece
    · have hname : Text.IsWord name.toList :=
        hpieces name (by rw [hword.commaPieces]; exact List.mem_append_right _ List.mem_cons_self)
      rw [String.toList_append]
      refine ⟨by simp [hname.ne_nil], fun c hc => ?_⟩
      rcases List.mem_append.mp hc with hc | hc
      · exact hname.solid c hc
      · exact hnext.solid c (by rw [String.toList_append]; exact List.mem_append_left _ hc)
    · exact ih (fun w hw => hwords w (by simp [hw])) piece hpiece
  | @word word rest pieces _ _ ih =>
    intro piece hpiece
    rcases List.mem_append.mp hpiece with hpiece | hpiece
    · exact Piece.isWord_of_mem_commaPieces (hwords word List.mem_cons_self) hpiece
    · exact ih (fun w hw => hwords w (List.mem_cons_of_mem _ hw)) piece hpiece

/-! ## 2. Pieces into items

Recognition by spelling, for a list of pieces. -/

/-- The items that pieces spell, in order; a piece that spells none is passed over. -/
inductive SelectItem.Recognised (registry : Registry) : List String → List SelectItem → Prop
  | nil : Recognised registry [] []
  /-- the piece spells an item -/
  | item {piece : String} {item : SelectItem} {pieces : List String} {items : List SelectItem}
      (hitem : Spelled registry piece item) (hrest : Recognised registry pieces items) :
      Recognised registry (piece :: pieces) (item :: items)
  /-- it spells none -/
  | other {piece : String} {pieces : List String} {items : List SelectItem}
      (hother : ∀ item, ¬ Spelled registry piece item) (hrest : Recognised registry pieces items) :
      Recognised registry (piece :: pieces) items

/-- **Reading recognises what spells an item.**  So a piece that the rules pass over is one that
reading drops, and no other. -/
theorem SelectItem.recognised_iff {registry : Registry} (hregistry : registry.Reachable) :
    ∀ {pieces : List String} {items : List SelectItem},
      (∀ piece ∈ pieces, Text.IsWord piece.toList) →
      (Recognised registry pieces items ↔ pieces.filterMap (parse? registry) = items)
  | [], items, _ => by
    constructor
    · rintro ⟨⟩
      rfl
    · rintro rfl
      exact .nil
  | piece :: pieces, items, hpieces => by
    have ih : ∀ {items}, Recognised registry pieces items ↔
        pieces.filterMap (parse? registry) = items :=
      recognised_iff hregistry fun p hp => hpieces p (List.mem_cons_of_mem _ hp)
    -- what can be read of a piece is what it spells, so the rules for the two kinds exclude each
    -- other
    have hspelled : ∀ {item}, parse? registry piece = some item ↔ Spelled registry piece item :=
      parse?_eq_some_iff hregistry (hpieces piece List.mem_cons_self)
    constructor
    · rintro (_ | ⟨hitem, hrest⟩ | ⟨hother, hrest⟩)
      · rw [List.filterMap_cons_some (hspelled.mpr hitem), ih.mp hrest]
      · have hnone : parse? registry piece = none :=
          Option.eq_none_iff_forall_ne_some.mpr fun item hitem => hother item (hspelled.mp hitem)
        rw [List.filterMap_cons_none hnone, ih.mp hrest]
    · rintro rfl
      cases hitem : parse? registry piece with
      | none =>
        rw [List.filterMap_cons_none hitem]
        refine .other (fun item h => ?_) (ih.mpr rfl)
        rw [hspelled.mpr h] at hitem
        exact absurd hitem (by simp)
      | some item =>
        rw [List.filterMap_cons_some hitem]
        exact .item (hspelled.mp hitem) (ih.mpr rfl)

/-! ## 3. Items into a list

Each modality is kept where it is mentioned first, and that is removing repetitions from the
mentions. -/

/-- What is mentioned first, beyond what has been seen: the mentions without those, each once. -/
theorem SelectItem.firstMentions_eq : ∀ (items : List SelectItem) (seen : List Selected),
    firstMentions seen items = ((items.filterMap mentioned?).removeAll seen).eraseDups
  | [], seen => rfl
  | item :: items, seen => by
    cases hentry : item.mentioned? with
    | none =>
      rw [firstMentions, hentry, List.filterMap_cons_none hentry]
      exact firstMentions_eq items seen
    | some entry =>
      rw [List.filterMap_cons_some hentry, List.cons_removeAll]
      by_cases hseen : entry ∈ seen
      · have hquiet : ∀ e, item.mentioned? = some e → e ∈ seen := by
          intro e he
          rw [hentry] at he
          exact Option.some.inj he ▸ hseen
        rw [firstMentions_cons_quiet hquiet, if_neg (by simpa using hseen)]
        exact firstMentions_eq items seen
      · -- what is removed later because it has been seen now is what erasing removes
        have hremove : (items.filterMap mentioned?).removeAll (seen ++ [entry]) =
            ((items.filterMap mentioned?).removeAll seen).filter fun other => !other == entry := by
          simp only [List.removeAll, List.filter_filter]
          refine List.filter_congr fun other _ => ?_
          by_cases h : other = entry <;> simp [h]
        rw [firstMentions_cons_new hentry hseen, if_pos (by simpa using hseen), List.eraseDups_cons,
          firstMentions_eq items, hremove]

/-- **What collecting keeps**: each modality where it is mentioned first, and all the projections
and aggregates. -/
theorem SelectList.collect_firstSeen (items : List SelectItem) :
    SelectList.collect items =
      ⟨(items.filterMap SelectItem.mentioned?).eraseDups, items.filterMap SelectItem.projection?,
        items.filterMap SelectItem.aggregate?⟩ := by
  rw [collect_eq, SelectItem.firstMentions_eq, List.removeAll_nil]

/-! ## 4. Whole queries

The words of the list are found in the text, and then the three steps are put together. -/

/-- The words between SELECT and FROM. -/
def selectWords (input : String) : List String :=
  (Text.words input).tail.takeWhile fun word => !Text.sameLetters word "FROM"

/-- The words of a SELECT list are read as these items. -/
def ReadAsItems (registry : Registry) (words : List String) (items : List SelectItem) : Prop :=
  ∃ pieces, SelectPieces words pieces ∧ SelectItem.Recognised registry pieces items

/-- Words are read as the items of their pieces, and as no others. -/
theorem readAsItems_iff {registry : Registry} (hregistry : registry.Reachable)
    {words : List String} (hwords : ∀ word ∈ words, Text.IsWord word.toList)
    {items : List SelectItem} :
    ReadAsItems registry words items ↔
      (selectTexts words).filterMap (SelectItem.parse? registry) = items := by
  have hpieces := (selectPieces_selectTexts words).isWord hwords
  constructor
  · rintro ⟨pieces, hcut, hitems⟩
    obtain rfl := hcut.eq_selectTexts
    exact (SelectItem.recognised_iff hregistry hpieces).mp hitems
  · intro h
    exact ⟨_, selectPieces_selectTexts words, (SelectItem.recognised_iff hregistry hpieces).mpr h⟩

/-- The SELECT list of a well-formed query is what stands ahead of the first FROM. -/
theorem WrittenQuery.WellFormed.selectWords_eq {config : Config} {written : WrittenQuery}
    {input : String} (h : written.WellFormed config) (hwords : written.words = Text.words input) :
    selectWords input = written.select.body := by
  obtain ⟨select, hselect, -⟩ := h.opened.eq_singleton
  obtain ⟨from_, kind, hopening, hfrom, -⟩ := h.source.opened.eq_pair
  have htail : (Text.words input).tail = written.select.body ++
      from_ :: (kind :: written.source.operand ::
        WrittenClause.optionWords written.source.drift ++ written.afterSource) := by
    rw [← hwords, WrittenQuery.words, WrittenClause.words, hselect, WrittenSource.words,
      show written.source.opening = [from_, kind] from hopening]
    rfl
  have hbody : ∀ word ∈ written.select.body, (!Text.sameLetters word "FROM") = true := by
    intro word hword
    rw [h.select_from word hword]
    rfl
  rw [selectWords, htail, List.takeWhile_append_of_pos hbody,
    List.takeWhile_cons_of_neg (by simp [hfrom]), List.append_nil]

/-- **What a query selects is what its items say, in order.**  The words between SELECT and FROM are
read as a sequence of items.  The modalities of the query are those the items mention, without later
repetitions; its projections and its aggregates are all those among the items. -/
theorem select_of_first_mentions {config : Config} (hregistry : config.registry.Reachable)
    {input : String} {q : Query} (h : (parseQuery config input).result = .ok q) :
    (∃ items, ReadAsItems config.registry (selectWords input) items) ∧
    ∀ items, ReadAsItems config.registry (selectWords input) items →
      q.select.modalities = (items.filterMap SelectItem.mentioned?).eraseDups ∧
      q.select.projections = items.filterMap SelectItem.projection? ∧
      q.select.aggregates = items.filterMap SelectItem.aggregate? := by
  rw [parseQuery, Outcome.accepted_result, Rule.query_run_eq_ok_iff] at h
  obtain ⟨written, hformed, -, hwords, rfl⟩ := h
  rw [map_text_tokenize] at hwords
  have hread : ∀ {items}, ReadAsItems config.registry (selectWords input) items ↔
      (selectTexts (selectWords input)).filterMap (SelectItem.parse? config.registry) = items := by
    refine readAsItems_iff hregistry fun word hword => ?_
    exact Text.isWord_of_mem_words
      (List.mem_of_mem_tail ((List.takeWhile_prefix _).subset hword))
  refine ⟨⟨_, hread.mpr rfl⟩, ?_⟩
  intro items hitems
  have hselect : (written.query config.registry).select = SelectList.collect items := by
    rw [← hread.mp hitems, hformed.selectWords_eq hwords]
    rfl
  rw [hselect, SelectList.collect_firstSeen]
  exact ⟨rfl, rfl, rfl⟩

/-- Two spellings of a modality, an operand in a word of its own and an item that is passed over. -/
theorem select_of_mixed_items :
    (parseQuery {} "SELECT vector, bogus, AVG (VECTOR.a), COUNT(*),* Vector.b FROM HEXAD h1").result =
      .ok { select := ⟨[.modality .vector, .all], [⟨.vector, "b"⟩],
              [.ofField .avg ⟨.vector, "a"⟩, .countAll]⟩
            source := .hexad "h1" } ∧
    [.modality .vector, .all] =
      (List.filterMap SelectItem.mentioned? [.selected (.modality .vector),
        .aggregate (.ofField .avg ⟨.vector, "a"⟩), .aggregate .countAll, .selected .all,
        .projection ⟨.vector, "b"⟩]).eraseDups := by
  have h : (parseQuery {}
      "SELECT vector, bogus, AVG (VECTOR.a), COUNT(*),* Vector.b FROM HEXAD h1").result =
      .ok { select := ⟨[.modality .vector, .all], [⟨.vector, "b"⟩],
              [.ofField .avg ⟨.vector, "a"⟩, .countAll]⟩
            source := .hexad "h1" } := by
    decide
  refine ⟨h, ((select_of_first_mentions Registry.Reachable.builtin h).2 _ ?_).1⟩
  exact (readAsItems_iff Registry.Reachable.builtin (by decide)).mpr (by decide)

end HexadQuery
