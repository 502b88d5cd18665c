/-
# Calls with a blank ahead of their operand

`COUNT (*)` is two words and should say what `COUNT(*)` says.  The two readings differ in what they
do first.  A call in one word is cut out of its word at the commas.  A call in two words goes
through `detached_operand`: it takes the second word whole, as it stands between two blanks, and
drops the commas at its end only.

So the two agree where the call is the last item of its word (`CallSite.EndsItsWord`), whatever is
ahead of it.  Where items follow in the same word, as in `COUNT (*),GRAPH`, they are glued to the
call: the strict reading refuses what comes out, the lenient one drops it, the call and the items
with it.  `parseQuery_detached` says both.

A site may lie in the operand of an earlier call, as that of COUNT in `SUM (x,COUNT(*)`.  Nothing
is recognised there in either text, so these sites need no exception.

The argument compares the pieces of the two texts and goes outwards.

* Within its own word the call is a piece among others (`CallSite.commaPieces_word`), and apart
  from its name it is one piece with what is behind it (`CallSite.selectTexts_apart`).  The two are
  the same if nothing but commas is behind it.
* The words ahead of the site either are read by themselves or end in a function that waits for an
  operand and takes the next word (`readAhead`).  In the second case the operand holds a comma, or
  starts with a parenthesis, and is no item.
* What is no item is dropped by a lenient reading and refused by a strict one, at the first such
  piece (`Rule.refuses_selectClause`).
* The clauses behind the list are the same words in both texts, so they are read as before
  (`WrittenQuery.WellFormed.reselect`).
-/
import HexadQuery.Proofs.SelectLists

namespace HexadQuery

/-! ## 1. A word within a SELECT list

`select_clause` reads a list from the left and never looks back, but it may take a word along with
the one ahead of it.  `ReadAhead` says that this is all that the words ahead can do. -/

/-- What the words ahead of a word do to it.  Either they are read by themselves, or the last of
them waits for an operand and takes the word, which opens a group.  Other words in its place fare
the same, if they open a group where it does. -/
def ReadAhead (word : String) (before : List String) : Prop :=
  (∃ pieces, ∀ (word' : String) (rest : List String),
    (word'.toList.head? = some '(' ↔ word.toList.head? = some '(') →
      selectTexts (before ++ word' :: rest) = pieces ++ selectTexts (word' :: rest)) ∨
  word.toList.head? = some '(' ∧ ∃ pieces name, ∀ (word' : String) (rest : List String),
    word'.toList.head? = some '(' → selectTexts (before ++ word' :: rest) =
      pieces ++ (name ++ String.ofList (Text.cutTrailing ',' word'.toList)) :: selectTexts rest

/-- Words further ahead that are read by themselves change nothing. -/
theorem ReadAhead.of_append {word : String} {before longer ahead : List String}
    (hread : ∀ words, selectTexts (longer ++ words) = ahead ++ selectTexts (before ++ words))
    (h : ReadAhead word before) : ReadAhead word longer := by
  rcases h with ⟨pieces, h⟩ | ⟨hword, pieces, name, h⟩
  · refine Or.inl ⟨ahead ++ pieces, fun word' rest hiff => ?_⟩
    rw [hread, h word' rest hiff, List.append_assoc]
  · refine Or.inr ⟨hword, ahead ++ pieces, name, fun word' rest hopens => ?_⟩
    rw [hread, h word' rest hopens, List.append_assoc]

/-- **Words ahead of a word do one of the two things to it.**  The recursion is that of the
reading: over the words ahead, two at a time where one of them takes its operand. -/
theorem readAhead (word : String) : ∀ before : List String, ReadAhead word before
  | [] => Or.inl ⟨[], fun _ _ _ => rfl⟩
  | [last] => by
    by_cases hcall : (∃ front name, EndsInFunction last front name) ∧ word.toList.head? = some '('
    · obtain ⟨⟨front, name, hlast⟩, hopens⟩ := hcall
      refine Or.inr ⟨hopens, Piece.commaPieces front, name, ?_⟩
      intro word' rest hword'
      exact selectTexts_call hlast hword' rest
    · refine Or.inl ⟨Piece.commaPieces last, ?_⟩
      intro word' rest hiff
      refine selectTexts_word fun front name hlast next hnext hopens => ?_
      obtain rfl : word' = next := by simpa using hnext
      exact hcall ⟨⟨front, name, hlast⟩, hiff.mp hopens⟩
  | first :: second :: before => by
    by_cases hcall : (∃ front name, EndsInFunction first front name) ∧
        second.toList.head? = some '('
    · obtain ⟨⟨front, name, hfirst⟩, hopens⟩ := hcall
      have hread : ∀ words, selectTexts (first :: second :: before ++ words) =
          Piece.commaPieces front ++ [name ++ String.ofList (Text.cutTrailing ',' second.toList)] ++
            selectTexts (before ++ words) := by
        intro words
        rw [List.append_assoc, List.singleton_append]
        exact selectTexts_call hfirst hopens (before ++ words)
      exact ReadAhead.of_append hread (readAhead word before)
    · have hread : ∀ words, selectTexts (first :: second :: before ++ words) =
          Piece.commaPieces first ++ selectTexts (second :: before ++ words) := by
        intro words
        refine selectTexts_word fun front name hfirst next hnext hopens => ?_
        obtain rfl : second = next := by simpa using hnext
        exact hcall ⟨⟨front, name, hfirst⟩, hopens⟩
      exact ReadAhead.of_append hread (readAhead word (second :: before))

/-- All pieces of a word but the last are its own.  The last may be the name of a function, and
then the next word becomes part of it. -/
theorem selectTexts_cons (word : String) (rest : List String) :
    (Piece.commaPieces word).dropLast <+: selectTexts (word :: rest) := by
  by_cases hcall : ∃ front name next more, EndsInFunction word front name ∧ rest = next :: more ∧
      next.toList.head? = some '('
  · obtain ⟨front, name, next, more, hword, rfl, hopens⟩ := hcall
    rw [selectTexts_call hword hopens, hword.commaPieces, List.dropLast_concat]
    exact List.prefix_append _ _
  · have hword : ∀ front name, EndsInFunction word front name →
        ∀ next, rest.head? = some next → next.toList.head? ≠ some '(' := by
      intro front name hends next hnext hopens
      obtain ⟨more, rfl⟩ := List.head?_eq_some_iff.mp hnext
      exact hcall ⟨front, name, next, more, hends, rfl, hopens⟩
    rw [selectTexts_word hword]
    exact (List.dropLast_prefix _).trans (List.prefix_append _ _)

/-! ## 2. The place of a call

A text with a hole for the blanks.  The conditions on `ahead` and `front` say that the word of the
call begins where `front` does and that no FROM has ended the list before. -/

/-- A call in the SELECT list of a text.  `front` and `behind` are the rest of its word: the items
ahead of it and behind it that no blank parts from it. -/
structure CallSite where
  /-- the text up to the word of the call -/
  ahead : String
  /-- the items ahead of the call in its word, with the commas behind them -/
  front : String
  /-- the name of the function -/
  name : String
  /-- what is between the parentheses -/
  operand : String
  /-- the items behind the call in its word, with the commas ahead of them -/
  behind : String
  /-- the text behind the word -/
  rest : String
  /-- the word begins here -/
  ahead_blank : ∀ c, ahead.toList.getLast? = some c → Text.isBlank c = true
  /-- so the word is in the SELECT list -/
  ahead_from : ∀ word ∈ Text.words ahead, Text.sameLetters word "FROM" = false
  /-- one word up to the call -/
  front_solid : ∀ c ∈ front.toList, Text.isBlank c = false
  front_comma : front = "" ∨ ∃ text, front = text ++ ","
  function : ∃ function, NamesFunction name function
  operand_solid : ∀ c ∈ operand.toList, Text.isBlank c = false
  /-- a comma would cut the call in two -/
  operand_comma : ',' ∉ operand.toList
  /-- one word behind the call as well -/
  behind_solid : ∀ c ∈ behind.toList, Text.isBlank c = false
  behind_comma : behind = "" ∨ ∃ text, behind = "," ++ text
  /-- and the word ends here -/
  rest_blank : ∀ c, rest.toList.head? = some c → Text.isBlank c = true

namespace CallSite

variable (site : CallSite)

/-- The call in one word. -/
def call : String := site.name ++ "(" ++ site.operand ++ ")"

/-- The word up to the name of the call. -/
def nameWord : String := site.front ++ site.name

/-- The word from the parenthesis on. -/
def operandWord : String := "(" ++ site.operand ++ ")" ++ site.behind

/-- The text with the call in one word. -/
def attached : String := site.ahead ++ (site.nameWord ++ site.operandWord) ++ site.rest

/-- The text with blanks ahead of the parenthesis. -/
def detached (blanks : String) : String :=
  site.ahead ++ site.nameWord ++ blanks ++ site.operandWord ++ site.rest

/-- No item stands behind the call in its word. -/
def EndsItsWord : Prop := ∀ c ∈ site.behind.toList, c = ','

/-- What the reading of two words makes of the call and the items behind it. -/
def glued : String :=
  site.name ++ String.ofList (Text.cutTrailing ',' site.operandWord.toList)

/-! ### Its words -/

/-- The characters of the operand with its parentheses, and what is behind it. -/
theorem toList_operandWord :
    site.operandWord.toList = '(' :: site.operand.toList ++ [')'] ++ site.behind.toList := by
  simp [operandWord, String.toList_append]

/-- The second word opens a group, which is what a waiting function looks for. -/
theorem opens_operandWord : site.operandWord.toList.head? = some '(' := by
  rw [toList_operandWord]
  rfl

/-- The first word ends in the name of a function. -/
theorem endsInFunction : EndsInFunction site.nameWord site.front site.name :=
  ⟨rfl, site.front_comma, site.function⟩

/-- The one word in its two divisions: at the parenthesis, and around the call. -/
theorem word_eq : site.nameWord ++ site.operandWord = site.front ++ (site.call ++ site.behind) := by
  simp [nameWord, operandWord, call, String.append_assoc]

/-- Neither of the two words holds a blank. -/
theorem isWord_nameWord : Text.IsWord site.nameWord.toList := by
  obtain ⟨function, hname⟩ := site.function
  rw [nameWord, String.toList_append]
  refine ⟨by simp [hname.ne_nil], fun c hc => ?_⟩
  rcases List.mem_append.mp hc with hc | hc
  · exact site.front_solid c hc
  · exact hname.solid.isWord.solid c hc

/-- The operand was read from a call in one word, so it holds no blank either. -/
theorem isWord_operandWord : Text.IsWord site.operandWord.toList := by
  rw [toList_operandWord]
  refine ⟨by simp, fun c hc => ?_⟩
  rcases List.mem_append.mp hc with hc | hc
  · rcases List.mem_append.mp hc with hc | hc
    · rcases List.mem_cons.mp hc with rfl | hc
      · decide
      · exact site.operand_solid c hc
    · obtain rfl : c = ')' := by simpa using hc
      decide
  · exact site.behind_solid c hc

/-- And so the two together are one word. -/
theorem isWord_word : Text.IsWord (site.nameWord ++ site.operandWord).toList := by
  rw [String.toList_append]
  refine ⟨by simp [site.isWord_nameWord.ne_nil], fun c hc => ?_⟩
  rcases List.mem_append.mp hc with hc | hc
  · exact site.isWord_nameWord.solid c hc
  · exact site.isWord_operandWord.solid c hc

/-- The words of the text, with the call in one. -/
theorem words_attached : Text.words site.attached =
    Text.words site.ahead ++ (site.nameWord ++ site.operandWord) :: Text.words site.rest := by
  rw [attached, Text.words_append (Or.inr site.rest_blank),
    Text.words_append (Or.inl site.ahead_blank), Text.words_of_isWord site.isWord_word,
    List.append_assoc, List.singleton_append]

/-- The words of the text, with the call in two. -/
theorem words_detached {blanks : String} (hne : blanks ≠ "")
    (hblanks : ∀ c ∈ blanks.toList, Text.isBlank c = true) :
    Text.words (site.detached blanks) =
      Text.words site.ahead ++ site.nameWord :: site.operandWord :: Text.words site.rest := by
  have hlast : ∀ c, (site.ahead ++ site.nameWord ++ blanks).toList.getLast? = some c →
      Text.isBlank c = true := by
    intro c hc
    rw [String.toList_append, List.getLast?_append_of_ne_nil _ (by simpa using hne)] at hc
    exact hblanks c (List.mem_of_mem_getLast? hc)
  have hhead : ∀ c, blanks.toList.head? = some c → Text.isBlank c = true :=
    fun c hc => hblanks c (List.mem_of_mem_head? hc)
  rw [detached, Text.words_append (Or.inr site.rest_blank), Text.words_append (Or.inl hlast),
    Text.words_append (Or.inr hhead), Text.words_append (Or.inl site.ahead_blank),
    Text.words_of_blanks hblanks, Text.words_of_isWord site.isWord_nameWord,
    Text.words_of_isWord site.isWord_operandWord]
  simp

/-! ### Its pieces -/

/-- A call is not cut at a comma, because its operand holds none. -/
theorem solid_call : Solid site.call := by
  obtain ⟨function, hname⟩ := site.function
  have hchars : ∀ c ∈ site.call.toList,
      c ∈ site.name.toList ∨ c = '(' ∨ c ∈ site.operand.toList ∨ c = ')' := by
    intro c hc
    rw [call, toList_call] at hc
    simpa using hc
  refine ⟨⟨by rw [call, toList_call]; simp, fun c hc => ?_⟩, fun hc => ?_⟩
  · rcases hchars c hc with hc | rfl | hc | rfl
    · exact hname.solid.isWord.solid c hc
    · decide
    · exact site.operand_solid c hc
    · decide
  · rcases hchars ',' hc with hc | hc | hc | hc
    · exact hname.solid.comma hc
    · exact absurd hc (by decide)
    · exact site.operand_comma hc
    · exact absurd hc (by decide)

/-- In one word, the call is a piece among others. -/
theorem commaPieces_word : Piece.commaPieces (site.nameWord ++ site.operandWord) =
    Piece.commaPieces site.front ++ site.call :: Piece.commaPieces site.behind := by
  have hcall : Piece.commaPieces (site.call ++ site.behind) =
      site.call :: Piece.commaPieces site.behind := by
    rcases site.behind_comma with hbehind | ⟨text, hbehind⟩
    · rw [hbehind, String.append_empty, site.solid_call.commaPieces]
      rfl
    · have htext := Piece.commaPieces_append_comma "" text
      rw [String.empty_append] at htext
      rw [hbehind, ← String.append_assoc, Piece.commaPieces_append_comma,
        site.solid_call.commaPieces, htext]
      rfl
  rw [word_eq, Piece.commaPieces_append site.front_comma, hcall]

/-- In two words, the call is glued to what is behind it. -/
theorem selectTexts_apart (rest : List String) :
    selectTexts (site.nameWord :: site.operandWord :: rest) =
      Piece.commaPieces site.front ++ site.glued :: selectTexts rest :=
  selectTexts_call site.endsInFunction site.opens_operandWord rest

variable {site}

/-- With nothing but commas behind it, the call is all there is to glue. -/
theorem EndsItsWord.glued_eq (h : site.EndsItsWord) : site.glued = site.call := by
  have hcut : Text.cutTrailing ',' site.operandWord.toList =
      '(' :: site.operand.toList ++ [')'] := by
    rw [toList_operandWord]
    exact Text.cutTrailing_append (by rw [List.getLast?_concat]; decide) h
  rw [glued, hcut, ← String.toList_inj, call, toList_call]
  simp [String.toList_append]

/-- No function is named at the end of the word, so no operand is awaited there. -/
theorem EndsItsWord.selectTexts_ending (h : site.EndsItsWord) (front : String)
    (rest : List String) : selectTexts ((front ++ site.operandWord) :: rest) =
      Piece.commaPieces (front ++ site.operandWord) ++ selectTexts rest := by
  refine selectTexts_word fun other name hends => ?_
  have hlast : ∀ c, (front ++ site.operandWord).toList.getLast? = some c → c = ')' ∨ c = ',' := by
    intro c hc
    rw [String.toList_append, toList_operandWord, ← List.append_assoc, ← List.append_assoc] at hc
    by_cases hbehind : site.behind.toList = []
    · rw [hbehind, List.append_nil, List.getLast?_concat, Option.some.injEq] at hc
      exact Or.inl hc.symm
    · rw [List.getLast?_append_of_ne_nil _ hbehind] at hc
      exact Or.inr (h c (List.mem_of_mem_getLast? hc))
  have hne : (front ++ site.operandWord).toList ≠ [] := by
    simp [String.toList_append, toList_operandWord]
  have halpha := hends.isAlpha_getLast? (List.getLast?_eq_some_getLast hne)
  rcases hlast _ (List.getLast?_eq_some_getLast hne) with hc | hc <;>
    exact absurd (hc ▸ halpha) (by decide)

/-- **A call that ends its word is the same piece in one word and in two.**  In one word it is cut
off behind the last comma; in two, the operand is taken whole and joined to the name.  What is
trimmed of it are commas at the end. -/
theorem EndsItsWord.selectTexts_eq (h : site.EndsItsWord) (rest : List String) :
    selectTexts ((site.nameWord ++ site.operandWord) :: rest) =
      selectTexts (site.nameWord :: site.operandWord :: rest) := by
  have hbehind : Piece.commaPieces site.behind = [] := by
    have hcommas := Piece.commaPieces_append_commas "" h
    rwa [String.empty_append] at hcommas
  rw [h.selectTexts_ending, commaPieces_word, hbehind, selectTexts_apart, h.glued_eq,
    List.append_assoc, List.singleton_append]

/-- An operand by itself is one piece. -/
theorem EndsItsWord.selectTexts_operandWord (h : site.EndsItsWord) (rest : List String) :
    ∃ piece : String, piece.toList.head? = some '(' ∧
      selectTexts (site.operandWord :: rest) = piece :: selectTexts rest := by
  have hread := h.selectTexts_ending "" rest
  have hcomma : ',' ∉ ("(" ++ site.operand ++ ")").toList := by
    simp [String.toList_append, site.operand_comma]
  have hne : "(" ++ site.operand ++ ")" ≠ "" := by
    intro hempty
    simpa [String.toList_append] using congrArg String.toList hempty
  refine ⟨"(" ++ site.operand ++ ")", by simp [String.toList_append], ?_⟩
  rw [String.empty_append, operandWord, Piece.commaPieces_append_commas _ h,
    Piece.commaPieces_of_not_mem hne hcomma] at hread
  exact hread

/-- Where items follow the call in its word, a comma comes between.  The first comma is ahead of
the item, and only commas at the end are cut. -/
theorem comma_mem_glued (h : ¬ site.EndsItsWord) : ',' ∈ site.glued.toList := by
  obtain ⟨c, hc, hne⟩ : ∃ c ∈ site.behind.toList, c ≠ ',' := by
    simpa [EndsItsWord] using h
  obtain ⟨front, back, hsplit⟩ := List.append_of_mem hc
  have hcomma : ',' ∈ front := by
    rcases site.behind_comma with hbehind | ⟨text, hbehind⟩
    · rw [hbehind] at hc
      exact absurd hc (by simp)
    · rw [hbehind, String.toList_append] at hsplit
      cases front with
      | nil => exact absurd (List.cons.inj hsplit).1.symm hne
      | cons d front =>
        obtain rfl : ',' = d := (List.cons.inj hsplit).1
        exact List.mem_cons_self
  have hword : site.operandWord.toList =
      ('(' :: site.operand.toList ++ [')'] ++ front) ++ c :: back := by
    rw [toList_operandWord, hsplit, List.append_assoc _ front]
  rw [glued, String.toList_append, String.toList_ofList, hword]
  refine List.mem_append_right _ ((Text.prefix_cutTrailing hne _ _).subset ?_)
  simp [hcomma]

/-! ### Its pieces behind other words -/

/-- A word that opens a group has a comma ahead of the call, and it is not cut off. -/
theorem comma_mem_cutTrailing (h : site.nameWord.toList.head? = some '(') (more : List Char) :
    ',' ∈ Text.cutTrailing ',' (site.nameWord.toList ++ more) := by
  obtain ⟨function, hname⟩ := site.function
  obtain ⟨c, cs, hc⟩ := List.exists_cons_of_ne_nil hname.ne_nil
  have halpha : c.isAlpha = true := hname.isAlpha c (by rw [hc]; exact List.mem_cons_self)
  rw [nameWord, String.toList_append, hc] at h ⊢
  -- a name does not open a group, so items are ahead of it in its word, and a comma
  have hcomma : ',' ∈ site.front.toList := by
    rcases site.front_comma with hfront | ⟨text, hfront⟩
    · rw [hfront] at h
      obtain rfl : c = '(' := by simpa using h
      exact absurd halpha (by decide)
    · simp [hfront, String.toList_append]
  have hne : c ≠ ',' := by
    rintro rfl
    exact absurd halpha (by decide)
  rw [List.append_assoc, List.cons_append]
  refine (Text.prefix_cutTrailing hne _ _).subset ?_
  simp [hcomma]

variable (site)

/-- **The two readings behind other words.**  Either the words ahead are read by themselves, or
the word of the call is taken for an operand, with a comma in it. -/
theorem selectTexts_cases (before rest : List String) :
    (∃ pieces,
      selectTexts (before ++ (site.nameWord ++ site.operandWord) :: rest) =
        pieces ++ selectTexts ((site.nameWord ++ site.operandWord) :: rest) ∧
      selectTexts (before ++ site.nameWord :: site.operandWord :: rest) =
        pieces ++ selectTexts (site.nameWord :: site.operandWord :: rest)) ∨
    ∃ pieces, ∃ taken taken' : String, ',' ∈ taken.toList ∧ ',' ∈ taken'.toList ∧
      selectTexts (before ++ (site.nameWord ++ site.operandWord) :: rest) =
        pieces ++ taken :: selectTexts rest ∧
      selectTexts (before ++ site.nameWord :: site.operandWord :: rest) =
        pieces ++ taken' :: selectTexts (site.operandWord :: rest) := by
  have hhead : (site.nameWord ++ site.operandWord).toList.head? = site.nameWord.toList.head? := by
    rw [String.toList_append, List.head?_append_of_ne_nil _ site.isWord_nameWord.ne_nil]
  rcases readAhead site.nameWord before with ⟨pieces, h⟩ | ⟨hopens, pieces, name, h⟩
  · exact Or.inl ⟨pieces, h _ rest (by rw [hhead]), h _ _ Iff.rfl⟩
  · refine Or.inr ⟨pieces, _, _, ?_, ?_, h _ rest (hhead.trans hopens), h _ _ hopens⟩
    · rw [String.toList_append, String.toList_ofList, String.toList_append]
      exact List.mem_append_right _ (comma_mem_cutTrailing hopens _)
    · have hcomma := comma_mem_cutTrailing hopens []
      rw [List.append_nil] at hcomma
      rw [String.toList_append, String.toList_ofList]
      exact List.mem_append_right _ hcomma

end CallSite

/-! ## 3. Its items

From pieces to items.  The registry has to be reachable here: a registered name is an identifier
then, and so a piece with a comma or a parenthesis at its front is none. -/

/-- Pieces of words are words, also where other words have been put among them. -/
theorem isWord_selectTexts (middle : List String) {before rest : List String}
    (hwords : ∀ word ∈ before ++ rest, Text.IsWord word.toList)
    (hmiddle : ∀ word ∈ middle, Text.IsWord word.toList) :
    ∀ piece ∈ selectTexts (before ++ (middle ++ rest)), Text.IsWord piece.toList := by
  refine (selectPieces_selectTexts _).isWord fun word hword => ?_
  rcases List.mem_append.mp hword with hword | hword
  · exact hwords word (List.mem_append_left _ hword)
  rcases List.mem_append.mp hword with hword | hword
  · exact hmiddle word hword
  · exact hwords word (List.mem_append_right _ hword)

/-- What has a comma or starts with a parenthesis is no item. -/
theorem SelectItem.parse?_eq_none {registry : Registry} (hregistry : registry.Reachable)
    {piece : String} (hpiece : Text.IsWord piece.toList)
    (h : ',' ∈ piece.toList ∨ piece.toList.head? = some '(') : parse? registry piece = none := by
  refine Option.eq_none_iff_forall_ne_some.mpr fun item hitem => ?_
  have hspelled := spelled_of_parse? hpiece hitem
  rcases h with h | h
  · exact hspelled.comma hregistry h
  · exact hspelled.head?_ne hregistry h

namespace CallSite

variable (site : CallSite) {registry : Registry} {before rest : List String}

/-- The pieces of the list with the call in one word are words. -/
theorem isWord_pieces_attached (hwords : ∀ word ∈ before ++ rest, Text.IsWord word.toList) :
    ∀ piece ∈ selectTexts (before ++ (site.nameWord ++ site.operandWord) :: rest),
      Text.IsWord piece.toList :=
  isWord_selectTexts [site.nameWord ++ site.operandWord] hwords
    (List.forall_mem_singleton.mpr site.isWord_word)

/-- And so are those with the call in two. -/
theorem isWord_pieces_detached (hwords : ∀ word ∈ before ++ rest, Text.IsWord word.toList) :
    ∀ piece ∈ selectTexts (before ++ site.nameWord :: site.operandWord :: rest),
      Text.IsWord piece.toList :=
  isWord_selectTexts [site.nameWord, site.operandWord] hwords
    (List.forall_mem_cons.mpr
      ⟨site.isWord_nameWord, List.forall_mem_singleton.mpr site.isWord_operandWord⟩)

variable {site}

/-- **A call that ends its word is the same item in one word and in two**, and where all is
recognised in one word, all is in two. -/
theorem EndsItsWord.items_eq (hregistry : registry.Reachable) (h : site.EndsItsWord)
    (hwords : ∀ word ∈ before ++ rest, Text.IsWord word.toList) :
    (selectTexts (before ++ site.nameWord :: site.operandWord :: rest)).filterMap
        (SelectItem.parse? registry) =
      (selectTexts (before ++ (site.nameWord ++ site.operandWord) :: rest)).filterMap
        (SelectItem.parse? registry) ∧
    ((∀ piece ∈ selectTexts (before ++ (site.nameWord ++ site.operandWord) :: rest),
        SelectItem.parse? registry piece ≠ none) →
      ∀ piece ∈ selectTexts (before ++ site.nameWord :: site.operandWord :: rest),
        SelectItem.parse? registry piece ≠ none) := by
  have hattached := site.isWord_pieces_attached hwords
  have hdetached := site.isWord_pieces_detached hwords
  rcases site.selectTexts_cases before rest with
    ⟨pieces, hone, htwo⟩ | ⟨pieces, taken, taken', htaken, htaken', hone, htwo⟩
  · rw [hone, htwo, h.selectTexts_eq]
    exact ⟨rfl, id⟩
  · -- the site is in the operand of another call: nothing is recognised there
    obtain ⟨piece, hpiece, hoperand⟩ := h.selectTexts_operandWord rest
    rw [hone] at hattached ⊢
    rw [htwo, hoperand] at hdetached ⊢
    have hnone : SelectItem.parse? registry taken = none :=
      SelectItem.parse?_eq_none hregistry (hattached taken (by simp)) (Or.inl htaken)
    have hnone' : SelectItem.parse? registry taken' = none :=
      SelectItem.parse?_eq_none hregistry (hdetached taken' (by simp)) (Or.inl htaken')
    have hlost : SelectItem.parse? registry piece = none :=
      SelectItem.parse?_eq_none hregistry (hdetached piece (by simp)) (Or.inr hpiece)
    refine ⟨?_, fun hall => absurd hnone (hall taken (by simp))⟩
    rw [List.filterMap_append, List.filterMap_append, List.filterMap_cons_none hnone,
      List.filterMap_cons_none hnone', List.filterMap_cons_none hlost]

/-- **Where items follow in the word, the first piece that is not recognised is the call with
them**, if all is recognised in one word. -/
theorem exists_glued (hregistry : registry.Reachable) (h : ¬ site.EndsItsWord)
    (hwords : ∀ word ∈ before ++ rest, Text.IsWord word.toList)
    (hall : ∀ piece ∈ selectTexts (before ++ (site.nameWord ++ site.operandWord) :: rest),
      SelectItem.parse? registry piece ≠ none) :
    ∃ known more,
      selectTexts (before ++ site.nameWord :: site.operandWord :: rest) =
        known ++ site.glued :: more ∧
      (∀ piece ∈ known, SelectItem.parse? registry piece ≠ none) ∧
      SelectItem.parse? registry site.glued = none := by
  have hattached := site.isWord_pieces_attached hwords
  have hdetached := site.isWord_pieces_detached hwords
  rcases site.selectTexts_cases before rest with
    ⟨pieces, hone, htwo⟩ | ⟨pieces, taken, taken', htaken, -, hone, -⟩
  · rw [selectTexts_apart, ← List.append_assoc] at htwo
    refine ⟨_, _, htwo, ?_, ?_⟩
    · -- the items ahead of the call in its word are pieces in either reading
      have hfront : Piece.commaPieces site.front <+:
          selectTexts ((site.nameWord ++ site.operandWord) :: rest) := by
        refine List.IsPrefix.trans ?_ (selectTexts_cons _ rest)
        rw [commaPieces_word, List.dropLast_append_of_ne_nil (by simp)]
        exact List.prefix_append _ _
      intro piece hpiece
      refine hall piece ?_
      rw [hone]
      rcases List.mem_append.mp hpiece with hpiece | hpiece
      · exact List.mem_append_left _ hpiece
      · exact List.mem_append_right _ (hfront.subset hpiece)
    · refine SelectItem.parse?_eq_none hregistry (hdetached _ ?_) (Or.inl (comma_mem_glued h))
      rw [htwo]
      simp
  · -- the word would be taken into the piece ahead of it, which is no item then
    rw [hone] at hall hattached
    exact absurd (SelectItem.parse?_eq_none hregistry (hattached taken (by simp)) (Or.inl htaken))
      (hall taken (by simp))

end CallSite

/-! ## 4. Refusals of a strict reading

`select_clause` gathers what it does not recognise and a strict configuration refuses the first of
it, behind the whole list.  So the refusal is known once the pieces ahead are known to be items. -/

/-- The first piece that is not recognised. -/
theorem SelectPiece.exists_unrecognised {registry : Registry} {pieces : List SelectPiece}
    {known more : List String} {text : String}
    (hpieces : pieces.map (·.text) = known ++ text :: more)
    (hknown : ∀ piece ∈ known, SelectItem.parse? registry piece ≠ none)
    (htext : SelectItem.parse? registry text = none) :
    ∃ piece rest, unrecognised registry pieces = piece :: rest ∧ piece.text = text := by
  obtain ⟨front, back, rfl, hfront, hback⟩ := List.map_eq_append_iff.mp hpieces
  obtain ⟨piece, rest, rfl, rfl, -⟩ := List.map_eq_cons_iff.mp hback
  have hnone : unrecognised registry front = [] := unrecognised_eq_nil.mpr (hfront ▸ hknown)
  refine ⟨piece, unrecognised registry rest, ?_, rfl⟩
  unfold unrecognised at hnone ⊢
  rw [List.filter_append, hnone, List.nil_append, List.filter_cons_of_pos]
  simp [item?, htext]

/-- **A strict reading refuses the first piece it does not recognise.**
`unrecognized_select_item` fails on the first of them, and names its text and position. -/
theorem Rule.refuses_selectClause {config : Config} (hmode : config.mode = .strict)
    {select : WrittenClause} {rest known more : List String} {text : String}
    (hopened : select.Opened ["SELECT"]) (hne : select.body ≠ [])
    (hbody : ∀ word ∈ select.body, Text.sameLetters word "FROM" = false)
    (hrest : LedBy ["FROM"] rest) (hpieces : selectTexts select.body = known ++ text :: more)
    (hknown : ∀ piece ∈ known, SelectItem.parse? config.registry piece ≠ none)
    (htext : SelectItem.parse? config.registry text = none) :
    Refuses (selectClause config) (select.words ++ rest)
      fun error => ∃ position, error = .unexpectedToken selectItemExpected text position := by
  obtain ⟨opening, body⟩ := select
  obtain ⟨word, rfl, hword⟩ := hopened.eq_singleton
  refine Reads.refuses (reads_keyword hword (body ++ rest)) fun _ _ => ?_
  refine Refuses.lookahead (not_from_of_head? hne hbody) ?_
  refine Reads.refuses (reads_takeUntil ?_ (hrest.stops (by decide))) ?_
  · intro w hw
    rw [Text.isAnyOf_singleton]
    exact hbody w hw
  · rintro tokens rfl cursor hc
    obtain ⟨piece, others, hstrange, rfl⟩ := SelectPiece.exists_unrecognised
      ((SelectPiece.map_text_ofTokens tokens).trans hpieces) hknown htext
    refine ⟨_, ?_, piece.position, rfl⟩
    simp only [selectItems, hmode, hstrange]
    rfl

/-! ## 5. Whole queries

The list is changed in a query that was read, and the rest of its division is kept.  That the site
is in the list and nowhere else follows from its having no FROM ahead of it. -/

/-- The query with other words in its SELECT list. -/
def WrittenQuery.reselect (written : WrittenQuery) (body : List String) : WrittenQuery :=
  { written with select := { written.select with body } }

/-- Another list that would be read leaves the query well-formed. -/
theorem WrittenQuery.WellFormed.reselect {config : Config} {written : WrittenQuery}
    (h : written.WellFormed config) {body : List String} (hne : body ≠ [])
    (hfrom : ∀ word ∈ body, Text.sameLetters word "FROM" = false)
    (hstrict : config.mode = .strict → ∀ piece ∈ selectTexts body,
      SelectItem.parse? config.registry piece ≠ none) : (written.reselect body).WellFormed config :=
  { h with select_ne := hne, select_from := hfrom, select_strict := hstrict }

/-- A strict reading refuses the query for a list it does not recognise, at the first piece. -/
theorem WrittenQuery.WellFormed.refuses_reselect {config : Config} {written : WrittenQuery}
    (h : written.WellFormed config) (demand : ProofDemand) (hmode : config.mode = .strict)
    {body known more : List String} {text : String} (hne : body ≠ [])
    (hfrom : ∀ word ∈ body, Text.sameLetters word "FROM" = false)
    (hpieces : selectTexts body = known ++ text :: more)
    (hknown : ∀ piece ∈ known, SelectItem.parse? config.registry piece ≠ none)
    (htext : SelectItem.parse? config.registry text = none) :
    Rule.Refuses (Rule.query config demand) (written.reselect body).words
      fun error => ∃ position, error = .unexpectedToken Rule.selectItemExpected text position := by
  have hopened : (written.reselect body).select.Opened ["SELECT"] := h.opened
  refine Rule.Refuses.bind ?_ _
  exact Rule.refuses_selectClause hmode hopened hne hfrom (h.ledBy_source _) hpieces hknown htext

/-- The words of the query with the other list. -/
theorem WrittenQuery.words_reselect (written : WrittenQuery) (body : List String) :
    (written.reselect body).words =
      written.select.opening ++ body ++ (written.source.words ++ written.afterSource) := rfl

namespace CallSite

variable {site : CallSite}

/-- A word with a parenthesis is no keyword. -/
theorem sameLetters_operandWord {keyword : String} (hk : keyword.toList.all Char.isAlpha = true)
    (front : String) : Text.sameLetters (front ++ site.operandWord) keyword = false := by
  refine Text.sameLetters_of_not_alpha (c := '(') ?_ (by decide) hk
  rw [String.toList_append, toList_operandWord]
  simp

/-- The word of a function is no FROM. -/
theorem sameLetters_nameWord : Text.sameLetters site.nameWord "FROM" = false := by
  rcases site.front_comma with hfront | ⟨text, hfront⟩
  · obtain ⟨function, hname⟩ := site.function
    rw [nameWord, hfront, String.empty_append, Text.sameLetters_congr hname]
    cases function <;> decide
  · refine Text.sameLetters_of_not_alpha (c := ',') ?_ (by decide) (by decide)
    simp [nameWord, hfront, String.toList_append]

/-- A list that holds no FROM holds none with the call in two words. -/
theorem select_from_detached {before rest : List String}
    (h : ∀ word ∈ before ++ (site.nameWord ++ site.operandWord) :: rest,
      Text.sameLetters word "FROM" = false) :
    ∀ word ∈ before ++ site.nameWord :: site.operandWord :: rest,
      Text.sameLetters word "FROM" = false := by
  intro word hword
  rcases List.mem_append.mp hword with hword | hword
  · exact h word (List.mem_append_left _ hword)
  rcases List.mem_cons.mp hword with rfl | hword
  · exact sameLetters_nameWord
  rcases List.mem_cons.mp hword with rfl | hword
  · rw [← String.empty_append (s := site.operandWord)]
    exact sameLetters_operandWord (by decide) ""
  · exact h word (List.mem_append_right _ (List.mem_cons_of_mem _ hword))

/-- **Where the site is in a query**: within its SELECT list, and putting the call into two words
changes nothing else.  No word up to the site is FROM, so the site is in the list. -/
theorem exists_select_words {config : Config} {written : WrittenQuery}
    (h : written.WellFormed config) (hwords : written.words = Text.words site.attached) :
    ∃ before rest, written.select.body = before ++ (site.nameWord ++ site.operandWord) :: rest ∧
      (∀ word ∈ before ++ rest, Text.IsWord word.toList) ∧
      ∀ {blanks : String}, blanks ≠ "" → (∀ c ∈ blanks.toList, Text.isBlank c = true) →
        (written.reselect (before ++ site.nameWord :: site.operandWord :: rest)).words =
          Text.words (site.detached blanks) := by
  obtain ⟨select, hselect, hkeyword⟩ := h.opened.eq_singleton
  have hall : written.select.words ++ (written.source.words ++ written.afterSource) =
      Text.words site.ahead ++ (site.nameWord ++ site.operandWord) :: Text.words site.rest :=
    hwords.trans site.words_attached
  rw [WrittenClause.words, hselect] at hall
  obtain ⟨before, hahead⟩ : ∃ before, Text.words site.ahead = select :: before := by
    cases hahead : Text.words site.ahead with
    | nil =>
      rw [hahead] at hall
      obtain rfl : select = site.nameWord ++ site.operandWord := (List.cons.inj hall).1
      rw [sameLetters_operandWord (by decide)] at hkeyword
      exact absurd hkeyword (by simp)
    | cons first before =>
      rw [hahead] at hall
      obtain rfl : select = first := (List.cons.inj hall).1
      exact ⟨before, rfl⟩
  have hbefore : ∀ word ∈ before, (!Text.sameLetters word "FROM") = true := by
    intro word hword
    rw [site.ahead_from word (by rw [hahead]; exact List.mem_cons_of_mem _ hword)]
    rfl
  have hbody := h.selectWords_eq hwords
  rw [selectWords, words_attached, hahead, List.cons_append, List.tail_cons,
    List.takeWhile_append_of_pos hbefore,
    List.takeWhile_cons_of_pos (by rw [sameLetters_operandWord (by decide)]; rfl)] at hbody
  refine ⟨before, _, hbody.symm, ?_, ?_⟩
  · intro word hword
    rcases List.mem_append.mp hword with hword | hword
    · exact Text.isWord_of_mem_words (by rw [hahead]; exact List.mem_cons_of_mem _ hword)
    · exact Text.isWord_of_mem_words ((List.takeWhile_prefix _).subset hword)
  · intro blanks hne hblanks
    rw [← hbody, hahead] at hall
    rw [words_detached site hne hblanks, hahead, WrittenQuery.words_reselect, hselect]
    simpa using hall

end CallSite

/-- **A call in two words says what it says in one, where it ends its word.**  Where items follow it
without a blank, the strict reading refuses the call with them; the lenient one accepts, and only
the SELECT list can have changed. -/
theorem parseQuery_detached {config : Config} (hregistry : config.registry.Reachable)
    (site : CallSite) (blanks : String) (hne : blanks ≠ "")
    (hblanks : ∀ c ∈ blanks.toList, Text.isBlank c = true) {q : Query}
    (h : (parseQuery config site.attached).result = .ok q) :
    (site.EndsItsWord → (parseQuery config (site.detached blanks)).result = .ok q) ∧
    (¬ site.EndsItsWord →
      (config.mode = .strict → ∃ position, (parseQuery config (site.detached blanks)).result =
        .error (.unexpectedToken Rule.selectItemExpected site.glued position)) ∧
      (config.mode = .lenient → ∃ list, (parseQuery config (site.detached blanks)).result =
        .ok { q with select := list })) := by
  rw [parseQuery, Outcome.accepted_result] at h ⊢
  obtain ⟨written, hformed, hdemand, hwords, rfl⟩ := Rule.query_run_eq_ok_iff.mp h
  rw [map_text_tokenize] at hwords
  obtain ⟨before, rest, hbody, hisWord, hdetached⟩ := CallSite.exists_select_words hformed hwords
  have hlist : before ++ site.nameWord :: site.operandWord :: rest ≠ [] := by simp
  have hfrom := CallSite.select_from_detached (hbody ▸ hformed.select_from)
  have hread : (config.mode = .strict →
        ∀ piece ∈ selectTexts (before ++ site.nameWord :: site.operandWord :: rest),
          SelectItem.parse? config.registry piece ≠ none) →
      ((Rule.query config .optional).run (site.detached blanks)).result =
        .ok { written.query config.registry with
          select := SelectList.collect
            ((selectTexts (before ++ site.nameWord :: site.operandWord :: rest)).filterMap
              (SelectItem.parse? config.registry)) } := by
    intro hstrict
    refine Rule.query_run_eq_ok_iff.mpr ⟨_, hformed.reselect hlist hfrom hstrict, hdemand, ?_, rfl⟩
    rw [map_text_tokenize]
    exact hdetached hne hblanks
  refine ⟨fun hends => ?_, fun hends => ⟨fun hmode => ?_, fun hmode => ?_⟩⟩
  · obtain ⟨hitems, hknown⟩ := hends.items_eq hregistry hisWord
    rw [hread fun hmode => hknown (hbody ▸ hformed.select_strict hmode), hitems, ← hbody]
    rfl
  · obtain ⟨known, more, hpieces, hknown, hglued⟩ :=
      CallSite.exists_glued hregistry hends hisWord (hbody ▸ hformed.select_strict hmode)
    have hrefuses := hformed.refuses_reselect .optional hmode hlist hfrom hpieces hknown hglued
    rw [hdetached hne hblanks] at hrefuses
    obtain ⟨error, herror, position, rfl⟩ := hrefuses.run
    exact ⟨position, herror⟩
  · exact ⟨_, hread fun hstrict => absurd (hmode.symm.trans hstrict) (by decide)⟩

/-- The call in `SELECT GRAPH,COUNT(*), VECTOR.a FROM HEXAD h1`. -/
def CallSite.countBehindGraph : CallSite where
  ahead := "SELECT "
  front := "GRAPH,"
  name := "COUNT"
  operand := "*"
  behind := ","
  rest := " VECTOR.a FROM HEXAD h1"
  ahead_blank := by rintro c ⟨⟩; decide
  ahead_from := by decide
  front_solid := by simp [Text.isBlank]
  front_comma := Or.inr ⟨"GRAPH", rfl⟩
  function := ⟨.count, by unfold NamesFunction; decide⟩
  operand_solid := by simp [Text.isBlank]
  operand_comma := by decide
  behind_solid := by simp [Text.isBlank]
  behind_comma := Or.inr ⟨"", rfl⟩
  rest_blank := by rintro c ⟨⟩; decide

/-- A tab between COUNT and its operand, and other items around it. -/
theorem parseQuery_detached_count :
    (parseQuery {} "SELECT GRAPH,COUNT \t(*), VECTOR.a FROM HEXAD h1").result =
      .ok { select := ⟨[.modality .graph, .modality .vector], [⟨.vector, "a"⟩], [.countAll]⟩
            source := .hexad "h1" } := by
  have h : (parseQuery {} CallSite.countBehindGraph.attached).result =
      .ok { select := ⟨[.modality .graph, .modality .vector], [⟨.vector, "a"⟩], [.countAll]⟩
            source := .hexad "h1" } := by
    decide
  have hends : CallSite.countBehindGraph.EndsItsWord := by
    simp [CallSite.EndsItsWord, CallSite.countBehindGraph]
  exact (parseQuery_detached Registry.Reachable.builtin CallSite.countBehindGraph " \t"
    (by decide) (by simp [Text.isBlank]) h).1 hends

/-- Items behind the call are lost with it, and a strict reading refuses what it accepts without the
blank. -/
theorem parseQuery_detached_ahead_of_graph :
    (parseQuery {} "SELECT COUNT(*),GRAPH FROM HEXAD h1").result =
      .ok { select := ⟨[.modality .graph], [], [.countAll]⟩, source := .hexad "h1" } ∧
    (parseQuery {} "SELECT COUNT (*),GRAPH FROM HEXAD h1").result =
      .ok { select := ⟨[], [], []⟩, source := .hexad "h1" } ∧
    (parseQuery { mode := .strict } "SELECT COUNT(*),GRAPH FROM HEXAD h1").result =
      .ok { select := ⟨[.modality .graph], [], [.countAll]⟩, source := .hexad "h1" } ∧
    (parseQuery { mode := .strict } "SELECT COUNT (*),GRAPH FROM HEXAD h1").result =
      .error (.unexpectedToken Rule.selectItemExpected "COUNT(*),GRAPH" 2) := by
  decide

end HexadQuery
