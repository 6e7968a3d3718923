import QuizCompiler.Proofs.Compilation
import QuizCompiler.Proofs.Nesting
import QuizCompiler.Proofs.PlainLines

/-! # The markdown convention

A quiz is written with a level 1 heading for its title and, for each question, a level 2
heading, a quote and a list of task items. If all texts are plain, reading such a quiz gives
its parts back, and it compiles exactly if its questions are complete.
-/

namespace QuizCompiler.Quiz

open QuizCompiler.Markdown QuizCompiler.Random QuizCompiler.Text

/-- A question as the convention writes it. -/
structure WrittenQuestion where
  title : String
  description : Option String
  choices : List Choice

def Choice.lineText (choice : Choice) : String :=
  (if choice.checked then "- [x] " else "- [ ] ") ++ choice.label ++ "\n"

namespace WrittenQuestion

/-- All texts of a question are plain. -/
structure AllPlain (question : WrittenQuestion) : Prop where
  title : IsPlain question.title
  description : ∀ text ∈ question.description, IsPlain text
  choices : ∀ choice ∈ question.choices, IsPlain choice.label

/-- The question as markdown. -/
def text (question : WrittenQuestion) : String :=
  "\n## " ++ question.title ++ "\n" ++
    (question.description.elim "" fun text => "> " ++ text ++ "\n") ++
    String.join (question.choices.map Choice.lineText)

/-- What stands below the heading: a quote if there is a description, then a list if there are
choices. -/
def content (question : WrittenQuestion) : List Block :=
  question.description.toList.map Block.quote ++
    if question.choices = [] then [] else [.list question.choices]

/-- A question with all its parts: a description, and distinct choices of which one is checked. -/
structure Complete (question : WrittenQuestion) : Prop where
  described : question.description.isSome
  distinct : (labels question.choices).Nodup
  one_checked : (question.choices.filter Choice.checked).length = 1

/-- The question that a compiled quiz shows. -/
def compiled (question : WrittenQuestion) : Question where
  title := question.title
  description := question.description.getD ""
  choices := labels question.choices
  correctAnswers := checkedLabels question.choices
  supplement := none

end WrittenQuestion

/-- A quiz as markdown. -/
def quizText (title : String) (questions : List WrittenQuestion) : String :=
  "# " ++ title ++ "\n" ++ String.join (questions.map WrittenQuestion.text)

/-! ## Lines -/

def Choice.itemText (choice : Choice) : List Char :=
  Markdown.itemText choice.checked choice.label.toList

theorem Choice.toList_lineText (choice : Choice) :
    choice.lineText.toList = choice.itemText ++ ['\n'] := by
  obtain ⟨label, checked⟩ := choice
  cases checked <;> simp [lineText, itemText, Markdown.itemText]

namespace WrittenQuestion

/-- The lines of a question, a blank one first. -/
def lines (question : WrittenQuestion) : List (List Char) :=
  [] :: ('#' :: '#' :: ' ' :: question.title.toList) ::
    (question.description.toList.map (fun text => '>' :: ' ' :: text.toList) ++
      question.choices.map Choice.itemText)

theorem toList_text (question : WrittenQuestion) :
    question.text.toList = question.lines.flatMap (· ++ ['\n']) := by
  obtain ⟨title, description, choices⟩ := question
  have hchoices : (String.join (choices.map Choice.lineText)).toList =
      (choices.map Choice.itemText).flatMap (· ++ ['\n']) := by
    simp [String.toList_join, List.flatMap_map, Choice.toList_lineText]
  cases description with
  | none => simp [text, lines, hchoices]
  | some text => simp [WrittenQuestion.text, lines, hchoices]

end WrittenQuestion

def quizLines (title : String) (questions : List WrittenQuestion) : List (List Char) :=
  ('#' :: ' ' :: title.toList) :: questions.flatMap WrittenQuestion.lines

/-- A quiz is written line by line. -/
theorem toList_quizText (title : String) (questions : List WrittenQuestion) :
    (quizText title questions).toList = (quizLines title questions).flatMap (· ++ ['\n']) := by
  have hquestions : (String.join (questions.map WrittenQuestion.text)).toList =
      (questions.flatMap WrittenQuestion.lines).flatMap (· ++ ['\n']) := by
    simp [String.toList_join, List.flatMap_map, List.flatMap_assoc, WrittenQuestion.toList_text]
  simp [quizText, quizLines, hquestions]

theorem not_mem_of_isPlain {text : String} (hplain : IsPlain text) :
    '\n' ∉ text.toList ∧ '\r' ∉ text.toList :=
  ⟨hplain.spaced.not_mem rfl (by decide), hplain.spaced.not_mem rfl (by decide)⟩

/-- No line of a plain question has a line end in it. -/
theorem WrittenQuestion.AllPlain.not_mem_line {question : WrittenQuestion}
    (hplain : question.AllPlain) :
    ∀ line ∈ question.lines, '\n' ∉ line ∧ '\r' ∉ line := by
  intro line hline
  simp only [lines, List.mem_cons, List.mem_append, List.mem_map, Option.mem_toList] at hline
  rcases hline with rfl | rfl | ⟨text, htext, rfl⟩ | ⟨choice, hchoice, rfl⟩
  · simp
  · simpa using not_mem_of_isPlain hplain.title
  · simpa using not_mem_of_isPlain (hplain.description text htext)
  · have hlabel := not_mem_of_isPlain (hplain.choices choice hchoice)
    cases hchecked : choice.checked <;> simpa [Choice.itemText, itemText, hchecked] using hlabel

/-- Cutting a plain quiz into lines gives back the lines that it was written as. -/
theorem split_quizText {title : String} {questions : List WrittenQuestion}
    (htitle : IsPlain title) (hquestions : ∀ question ∈ questions, question.AllPlain) :
    Line.split (quizText title questions).toList =
      (quizLines title questions).map (⟨·, true⟩) := by
  rw [toList_quizText, Line.split_flatMap]
  intro line hline
  rcases List.mem_cons.mp hline with rfl | hline
  · simpa using not_mem_of_isPlain htitle
  · obtain ⟨question, hquestion, hline⟩ := List.mem_flatMap.mp hline
    exact (hquestions question hquestion).not_mem_line line hline

/-! ## Blocks -/

def Choice.itemBlocks (choice : Choice) : List Markdown.Block :=
  [.paragraph (some choice.checked) (.ofLine choice.label.toList)]

namespace WrittenQuestion

def quoteNodes (question : WrittenQuestion) : List Markdown.Block :=
  question.description.toList.map fun text => .quote [.paragraph none (.ofLine text.toList)]

def listNodes (question : WrittenQuestion) : List Markdown.Block :=
  if question.choices = [] then []
  else [.list none true (question.choices.map Choice.itemBlocks)]

/-- The blocks of a question. -/
def nodes (question : WrittenQuestion) : List Markdown.Block :=
  .heading 2 none (.ofLine question.title.toList) :: (question.quoteNodes ++ question.listNodes)

theorem reverse_nodes (question : WrittenQuestion) :
    question.nodes.reverse =
      question.listNodes ++ question.quoteNodes ++
        [.heading 2 none (.ofLine question.title.toList)] := by
  obtain ⟨title, description, choices⟩ := question
  cases description <;> cases choices <;> simp [nodes, quoteNodes, listNodes]

end WrittenQuestion

section Reading

variable {before : List Markdown.Block} {o : Outline} {rest : List Line}

theorem endsAbove_items (choices : List Choice) (hrest : EndsAbove rest) :
    EndsAbove ((choices.map Choice.itemText).map (⟨·, true⟩) ++ rest) := by
  cases choices with
  | nil => exact hrest
  | cons choice choices =>
      rintro line ⟨⟩
      exact Or.inr ⟨_, rfl⟩

/-- A question begins with an empty line, which ends every paragraph. -/
theorem endsAbove_questions (questions : List WrittenQuestion) :
    EndsAbove ((questions.flatMap WrittenQuestion.lines).map (⟨·, true⟩)) := by
  cases questions with
  | nil => rintro line ⟨⟩
  | cons question questions =>
      rintro line ⟨⟩
      exact Or.inl rfl

/-- Items after an item go to its list. -/
theorem readLines_moreItems {choices : List Choice}
    (hplain : ∀ choice ∈ choices, IsPlain choice.label) (hrest : EndsAbove rest)
    (inner : List Markdown.Block) (items : List (List Markdown.Block)) :
    ∃ next, Resting (.list none true
        (items.reverse ++ inner.reverse :: choices.map Choice.itemBlocks) :: before) next ∧
      readLines 0 ((choices.map Choice.itemText).map (⟨·, true⟩) ++ rest)
          ⟨[.item 2 inner, .list ⟨'-', none⟩ true items], before, [], false, false⟩ =
        readLines 0 rest next := by
  induction choices generalizing inner items with
  | nil => exact ⟨_, .item inner items before, rfl⟩
  | cons choice choices ih =>
      obtain ⟨hlabel, hmore⟩ := List.forall_mem_cons.mp hplain
      obtain ⟨next, hresting, hread⟩ := ih hmore choice.itemBlocks (inner.reverse :: items)
      refine ⟨next, by simpa [Choice.itemBlocks] using hresting, ?_⟩
      exact (readLines_nextItem hlabel.spaced (endsAbove_items choices hrest) choice.checked inner
        items).trans hread

/-- The lines of the choices become one tight list, or nothing if there are none. -/
theorem readLines_items {question : WrittenQuestion}
    (hplain : ∀ choice ∈ question.choices, IsPlain choice.label) (hrest : EndsAbove rest)
    (houtside : Outside before o) :
    ∃ next, Resting (question.listNodes ++ before) next ∧
      readLines 0 ((question.choices.map Choice.itemText).map (⟨·, true⟩) ++ rest) o =
        readLines 0 rest next := by
  obtain ⟨title, description, choices⟩ := question
  cases choices with
  | nil => exact ⟨o, .outside houtside, rfl⟩
  | cons choice choices =>
      obtain ⟨hlabel, hmore⟩ := List.forall_mem_cons.mp hplain
      obtain ⟨next, hresting, hread⟩ := readLines_moreItems hmore hrest choice.itemBlocks []
      exact ⟨next, hresting, (readLines_firstItem hlabel.spaced (endsAbove_items choices hrest)
        choice.checked houtside).trans hread⟩

/-- The line of the description becomes one quote, or nothing if there is none. -/
theorem readLines_description {question : WrittenQuestion}
    (hplain : ∀ text ∈ question.description, IsPlain text) (hrest : EndsAbove rest)
    (before : List Markdown.Block) :
    ∃ next, Outside (question.quoteNodes ++ before) next ∧
      readLines 0 ((question.description.toList.map fun text => '>' :: ' ' :: text.toList).map
          (⟨·, true⟩) ++ rest) ⟨[], before, [], false, false⟩ =
        readLines 0 rest next := by
  obtain ⟨title, description, choices⟩ := question
  cases description with
  | none => exact ⟨_, .top before, rfl⟩
  | some text =>
      have htext := hplain text rfl
      have hspaced := htext.spaced
      obtain ⟨c, more, hhead, hc⟩ := htext.head
      rw [hhead] at hspaced
      refine ⟨_, .quote [.paragraph none (.ofLine text.toList)] before, ?_⟩
      simp only [Option.toList_some, List.map_cons, List.map_nil, hhead]
      exact readLines_quote hc hspaced hrest

/-- The lines of a question become its blocks, whatever was read before. -/
theorem readLines_question {question : WrittenQuestion} (hplain : question.AllPlain)
    (hresting : Resting before o) (hrest : EndsAbove rest) :
    ∃ next, Resting (question.nodes.reverse ++ before) next ∧
      readLines 0 (question.lines.map (⟨·, true⟩) ++ rest) o = readLines 0 rest next := by
  obtain ⟨quoted, hquoted, hquote⟩ := readLines_description hplain.description
    (endsAbove_items question.choices hrest)
    (.heading 2 none (.ofLine question.title.toList) :: before)
  obtain ⟨next, hnext, hitems⟩ := readLines_items hplain.choices hrest hquoted
  -- the heading, the quote and the items, each with what stands below it
  refine ⟨next, by simpa [WrittenQuestion.reverse_nodes] using hnext, ?_⟩
  simp only [WrittenQuestion.lines, List.map_cons, List.map_append, List.cons_append,
    List.append_assoc]
  rw [readLines_heading hplain.title.spaced hresting, hquote, hitems]

/-- The lines of all questions become their blocks, in order. -/
theorem readLines_questions {questions : List WrittenQuestion}
    (hplain : ∀ question ∈ questions, question.AllPlain) (hresting : Resting before o) :
    Resting ((questions.flatMap WrittenQuestion.nodes).reverse ++ before)
      (readLines 0 ((questions.flatMap WrittenQuestion.lines).map (⟨·, true⟩)) o) := by
  induction questions generalizing before o with
  | nil => exact hresting
  | cons question questions ih =>
      obtain ⟨hquestion, hmore⟩ := List.forall_mem_cons.mp hplain
      obtain ⟨next, hnext, hread⟩ :=
        readLines_question hquestion hresting (endsAbove_questions questions)
      rw [List.flatMap_cons, List.flatMap_cons, List.map_append, hread]
      simpa using ih hmore hnext

/-- The document of a plain quiz has the blocks of its parts, and defines no links. -/
theorem readDocument_quizText {title : String} {questions : List WrittenQuestion}
    (htitle : IsPlain title) (hquestions : ∀ question ∈ questions, question.AllPlain) :
    readDocument (quizText title questions).toList =
      (.heading 1 none (.ofLine title.toList) :: questions.flatMap WrittenQuestion.nodes, []) := by
  have hresting := readLines_questions hquestions
    (.outside (.top [.heading 1 none (.ofLine title.toList)]))
  obtain ⟨hfinish, hdefinitions⟩ := hresting.finish
  simp only [readDocument, split_quizText htitle hquestions, quizLines, List.map_cons,
    readLines_title htitle.spaced, hfinish, hdefinitions]
  simp

end Reading

/-! ## The blocks as a quiz reads them -/

section Nodes

variable {definitions : Definitions} {text : String}

theorem events_of_isPlain (hplain : IsPlain text) :
    (Prose.ofLine text.toList).events definitions = [.text text] := by
  rw [Prose.events, Prose.content_of_spaced hplain.spaced]
  simp [Inline.eventsOfList, Inline.events]

theorem ofNode_heading (hplain : IsPlain text) {level : Nat} (hlevel : level ≤ 2) :
    Block.ofNode definitions (.heading level none (.ofLine text.toList)) =
      .heading level text := by
  have hevents : (Markdown.Block.heading level none (.ofLine text.toList)).events definitions
      false = [.start (.heading level), .text text, .stop (.heading level)] := by
    simp [Markdown.Block.events, events_of_isPlain hplain, taskEvents, Event.enclose]
  have htext : textContent [.start (.heading level), .text text, .stop (.heading level)] =
      trim (text ++ "\n") := by
    simp [textContent, TextContent.push, TextContent.finish, TextContent.empty,
      TextContent.addition]
  rw [Block.ofNode, hevents, Block.ofGroup, if_pos hlevel, htext,
    hplain.trimmed.trim_append_newline]

theorem ofNode_quote (hplain : IsPlain text) :
    Block.ofNode definitions (.quote [.paragraph none (.ofLine text.toList)]) = .quote text := by
  have hevents : (Markdown.Block.quote [.paragraph none (.ofLine text.toList)]).events definitions
      false = [.start .quote, .start .paragraph, .text text, .stop .paragraph, .stop .quote] := by
    simp [Markdown.Block.events, Markdown.Block.eventsOfList, events_of_isPlain hplain,
      taskEvents, Event.enclose]
  have htext : textContent [.start .quote, .start .paragraph, .text text, .stop .paragraph,
      .stop .quote] = trim (text ++ "\n") := by
    simp [textContent, TextContent.push, TextContent.finish, TextContent.empty,
      TextContent.addition]
  rw [Block.ofNode, hevents, Block.ofGroup, htext, hplain.trimmed.trim_append_newline]

/-- The items of a plain list become its choices, with their labels and flags. -/
theorem foldl_push_items {choices : List Choice}
    (hplain : ∀ choice ∈ choices, IsPlain choice.label) (collected : List Choice) :
    (Markdown.Block.eventsOfItems definitions true (choices.map Choice.itemBlocks)).foldl
        ChoiceScan.push ⟨collected, 1, none⟩ =
      ⟨choices.reverse ++ collected, 1, none⟩ := by
  induction choices generalizing collected with
  | nil => rfl
  | cons choice choices ih =>
      obtain ⟨hlabel, hmore⟩ := List.forall_mem_cons.mp hplain
      have hevents : Event.enclose .item
          (Markdown.Block.eventsOfList definitions true choice.itemBlocks) =
            [.start .item, .task choice.checked, .text choice.label, .stop .item] := by
        simp [Markdown.Block.events, Markdown.Block.eventsOfList, events_of_isPlain hlabel,
          taskEvents, Event.enclose, Choice.itemBlocks]
      have hpush : [.start .item, .task choice.checked, .text choice.label, .stop .item].foldl
          ChoiceScan.push ⟨collected, 1, none⟩ = ⟨choice :: collected, 1, none⟩ := by
        simp [ChoiceScan.push, ChoiceScan.gather, TextContent.push, TextContent.empty,
          TextContent.addition, TextContent.finish, Choice.ofText, hlabel.trimmed.trim_eq]
      rw [List.map_cons, Markdown.Block.eventsOfItems, List.foldl_append, hevents, hpush,
        ih hmore]
      simp

/-- A tight list of plain items is read as its choices. -/
theorem ofNode_list {choices : List Choice}
    (hplain : ∀ choice ∈ choices, IsPlain choice.label) :
    Block.ofNode definitions (.list none true (choices.map Choice.itemBlocks)) =
      .list choices := by
  have hcollect : collectChoices (Event.enclose (.list none)
      (Markdown.Block.eventsOfItems definitions true (choices.map Choice.itemBlocks))) =
        choices := by
    have hstart : ChoiceScan.push .empty (.start (.list none)) = ⟨[], 1, none⟩ := rfl
    rw [collectChoices, Event.enclose, List.cons_append, List.foldl_cons, List.foldl_append,
      hstart, foldl_push_items hplain]
    simp [ChoiceScan.push, ChoiceScan.gather]
  exact congrArg Block.list hcollect

end Nodes

/-- A question is read as a level 2 heading with its content below. -/
theorem WrittenQuestion.AllPlain.map_ofNode {question : WrittenQuestion}
    (hplain : question.AllPlain) (definitions : Definitions) :
    question.nodes.map (Block.ofNode definitions) =
      .heading 2 question.title :: question.content := by
  obtain ⟨htitle, hdescription, hchoices⟩ := hplain
  obtain ⟨title, description, choices⟩ := question
  rw [nodes, List.map_cons, ofNode_heading htitle (by decide), content, List.map_append]
  congr 2
  · cases description with
    | none => rfl
    | some text => exact congrArg (fun block => [block]) (ofNode_quote (hdescription text rfl))
  · cases choices with
    | nil => rfl
    | cons choice choices => exact congrArg (fun block => [block]) (ofNode_list hchoices)

/-- A plain quiz is read as the blocks that it was written from. -/
theorem ofMarkdown_quizText {title : String} {questions : List WrittenQuestion}
    (htitle : IsPlain title) (hquestions : ∀ question ∈ questions, question.AllPlain) :
    Block.ofMarkdown (quizText title questions) =
      .heading 1 title :: questions.flatMap fun question =>
        .heading 2 question.title :: question.content := by
  have hnodes : (questions.flatMap fun question => question.nodes.map (Block.ofNode [])) =
      questions.flatMap fun question => .heading 2 question.title :: question.content :=
    List.flatMap_congr fun question hquestion => (hquestions question hquestion).map_ofNode []
  rw [Block.ofMarkdown_eq, readDocument_quizText htitle hquestions]
  simp only [List.map_cons, ofNode_heading htitle (by decide : 1 ≤ 2), List.map_flatMap, hnodes]

/-! ## Sections -/

namespace WrittenQuestion

theorem isBody_content (question : WrittenQuestion) :
    ∀ block ∈ question.content, block.isBody = true := by
  intro block hblock
  rcases List.mem_append.mp hblock with hquote | hlist
  · obtain ⟨text, -, rfl⟩ := List.mem_map.mp hquote
    rfl
  · split at hlist
    next => cases hlist
    next =>
      obtain rfl := List.mem_singleton.mp hlist
      rfl

def toSection (question : WrittenQuestion) (position : Nat) : Section :=
  ⟨question.title, position, question.content⟩

theorem lastQuote?_toSection (question : WrittenQuestion) (position : Nat) :
    (question.toSection position).lastQuote? = question.description := by
  obtain ⟨title, description, choices⟩ := question
  cases description <;> cases choices <;> rfl

theorem lastList?_toSection (question : WrittenQuestion) (position : Nat) :
    (question.toSection position).lastList? =
      if question.choices = [] then none else some question.choices := by
  obtain ⟨title, description, choices⟩ := question
  cases description <;> cases choices <;> rfl

/-- The section of a plain question is good exactly if the question is complete. -/
theorem AllPlain.good_toSection_iff {question : WrittenQuestion} (hplain : question.AllPlain)
    (position : Nat) : (question.toSection position).Good ↔ question.Complete := by
  constructor
  · rintro ⟨-, ⟨text, hquote, -⟩, choices, hlist, -, hone, -, hnodup⟩
    rw [lastQuote?_toSection] at hquote
    rw [lastList?_toSection] at hlist
    split at hlist
    next => cases hlist
    next =>
      obtain rfl := Option.some.inj hlist
      exact ⟨by simp [hquote], hnodup, hone⟩
  · rintro ⟨hdescribed, hnodup, hone⟩
    obtain ⟨text, htext⟩ := Option.isSome_iff_exists.mp hdescribed
    have hdescription := hplain.description text htext
    -- a checked choice is a choice
    have hchoices : question.choices ≠ [] := by
      intro hnil
      simp [hnil] at hone
    refine ⟨?_, ⟨text, by rw [lastQuote?_toSection, htext], ?_⟩, question.choices, ?_, hchoices,
      hone, fun choice hchoice => (hplain.choices choice hchoice).ne_empty, hnodup⟩
    · have htitle := hplain.title.trimmed.trim_eq
      rw [toSection, htitle]
      exact hplain.title.ne_empty
    · rw [hdescription.trimmed.trim_eq]
      exact hdescription.ne_empty
    · rw [lastList?_toSection, if_neg hchoices]

/-- The section of a plain question describes the question, without a supplement. -/
theorem AllPlain.question_describedBy {question : WrittenQuestion} (hplain : question.AllPlain)
    (position : Nat) :
    (Draft.describedBy (question.toSection position)).question = question.compiled := by
  have hchoices : (question.toSection position).lastList?.getD [] = question.choices := by
    rw [lastList?_toSection]
    split <;> simp_all
  have hdescription : (question.description.map trim).getD "" = question.description.getD "" := by
    cases htext : question.description with
    | none => rfl
    | some text => exact (hplain.description text htext).trimmed.trim_eq
  have hsupplement : String.join (question.content.map Block.supplement) = "" := by
    obtain ⟨title, description, choices⟩ := question
    cases description <;> cases choices <;> rfl
  have htitle : trim (question.toSection position).heading = question.title :=
    hplain.title.trimmed.trim_eq
  simp only [Draft.describedBy, Draft.question, compiled, lastQuote?_toSection, hchoices, htitle,
    hdescription]
  rw [show (question.toSection position).content = question.content from rfl, hsupplement]
  rfl

end WrittenQuestion

theorem sectionsFrom_questions (questions : List WrittenQuestion) (n : Nat) :
    sectionsFrom n (questions.flatMap fun question =>
        .heading 2 question.title :: question.content) =
      questions.mapIdx fun i question => question.toSection (n + i + 1) := by
  induction questions generalizing n with
  | nil => rfl
  | cons question questions ih =>
      have hbody := question.isBody_content
      have hrest : (questions.flatMap fun question : WrittenQuestion =>
          .heading 2 question.title :: question.content).takeWhile Block.isBody = [] := by
        cases questions <;> rfl
      have hplaces : (fun i (question : WrittenQuestion) => question.toSection (n + 1 + i + 1)) =
          fun i question => question.toSection (n + (i + 1) + 1) := by
        funext i question
        congr 1
        omega
      rw [List.flatMap_cons, List.cons_append, sectionsFrom_section,
        sectionsFrom_append_of_isBody hbody, List.takeWhile_append_of_pos hbody, hrest, ih,
        List.mapIdx_cons, List.append_nil, hplaces]
      rfl

theorem droppedFrom_questions (questions : List WrittenQuestion) (inside : Bool) :
    droppedFrom inside (questions.flatMap fun question =>
      .heading 2 question.title :: question.content) = [] := by
  induction questions generalizing inside with
  | nil => rfl
  | cons question questions ih =>
      rw [List.flatMap_cons, List.cons_append, droppedFrom_section,
        droppedFrom_append_of_isBody question.isBody_content, ih]

/-- Reading a plain quiz gives its parts back: the title, the questions in order, and nothing
else. -/
theorem value_ofMarkdown_quizText {title : String} {questions : List WrittenQuestion}
    (htitle : IsPlain title) (hquestions : ∀ question ∈ questions, question.AllPlain) :
    (Source.ofMarkdown (quizText title questions)).value =
      ⟨title, questions.mapIdx fun i question => question.toSection (i + 1), []⟩ := by
  rw [Source.ofMarkdown, Source.value_ofBlocks, ofMarkdown_quizText htitle hquestions,
    sectionsFrom_title, sectionsFrom_questions, droppedFrom_title, droppedFrom_questions]
  simp [Block.title?]

/-! ## Compiling a plain quiz -/

section Compiling

variable {title : String} {questions : List WrittenQuestion}

theorem sectionsOf_quizText (htitle : IsPlain title)
    (hquestions : ∀ question ∈ questions, question.AllPlain) :
    sectionsOf (quizText title questions) =
      questions.mapIdx fun i question => question.toSection (i + 1) := by
  rw [sectionsOf, value_ofMarkdown_quizText htitle hquestions]

/-- All sections are good just if all questions are complete. -/
theorem good_sectionsOf_quizText_iff (htitle : IsPlain title)
    (hquestions : ∀ question ∈ questions, question.AllPlain) :
    (∀ part ∈ sectionsOf (quizText title questions), part.Good) ↔
      ∀ question ∈ questions, question.Complete := by
  rw [sectionsOf_quizText htitle hquestions]
  simp only [List.forall_mem_iff_forall_getElem, List.getElem_mapIdx, List.length_mapIdx]
  constructor
  · intro hgood i hi
    exact ((hquestions _ (List.getElem_mem hi)).good_toSection_iff (i + 1)).mp (hgood i hi)
  · intro hcomplete i hi
    exact ((hquestions _ (List.getElem_mem hi)).good_toSection_iff (i + 1)).mpr (hcomplete i hi)

theorem questionsIn_quizText (htitle : IsPlain title)
    (hquestions : ∀ question ∈ questions, question.AllPlain) :
    questionsIn (quizText title questions) = questions.map WrittenQuestion.compiled := by
  rw [questionsIn, sectionsOf_quizText htitle hquestions]
  apply List.ext_getElem
  · simp
  · intro i hi hi'
    simp only [List.getElem_map, List.getElem_mapIdx]
    exact (hquestions _ (List.getElem_mem _)).question_describedBy (i + 1)

/-- A document comes of complete questions only, and shows each of them once. -/
theorem document_of_quizText (htitle : IsPlain title)
    (hquestions : ∀ question ∈ questions, question.AllPlain) {words : Words} {config : Config}
    {patience start stop : Nat} {document : Document} {log : List Notice}
    (hrun : compile words patience (quizText title questions) config start =
      some (⟨.ok document, log⟩, stop)) :
    (∀ question ∈ questions, question.Complete) ∧ document.title = title ∧
      document.ShowsOnce (questions.map WrittenQuestion.compiled) := by
  obtain ⟨hgood, hdocument, -, swaps, hshows⟩ := compile_eq_ok hrun
  rw [ofMarkdown_quizText htitle hquestions] at hdocument
  rw [questionsIn_quizText htitle hquestions] at hshows
  exact ⟨(good_sectionsOf_quizText_iff htitle hquestions).mp hgood, hdocument,
    Document.showsOnce_of_reordered hshows⟩

/-- A quiz with an incomplete question is refused on every stream. -/
theorem refused_of_quizText (htitle : IsPlain title)
    (hquestions : ∀ question ∈ questions, question.AllPlain)
    (hincomplete : ∃ question ∈ questions, ¬ question.Complete) :
    ∃ error log, ∀ (words : Words) (patience : Nat) (config : Config) (start : Nat),
      compile words patience (quizText title questions) config start =
        some (⟨.error error, log⟩, start) := by
  apply compile_of_exists_bad
  by_contra hnone
  have hgood : ∀ part ∈ sectionsOf (quizText title questions), part.Good := by
    simpa using hnone
  obtain ⟨question, hquestion, hnot⟩ := hincomplete
  exact hnot ((good_sectionsOf_quizText_iff htitle hquestions).mp hgood question hquestion)

/-- A plain quiz of complete questions compiles as soon as the stream supplies a name for each
question. -/
theorem ends_of_quizText (htitle : IsPlain title)
    (hquestions : ∀ question ∈ questions, question.AllPlain)
    (hcomplete : ∀ question ∈ questions, question.Complete) {words : Words}
    (hsupply : words.Supply questions.length questions.length) (config : Config) (start : Nat) :
    ∃ document log stop,
      Draw.Ends (fun patience => compile words patience (quizText title questions) config)
        start (⟨.ok document, log⟩, stop) := by
  have hnames : nameCount (questions.map WrittenQuestion.compiled) = questions.length := by
    simp [nameCount, WrittenQuestion.compiled, List.countP_map, Function.comp_def]
  apply compile_ends hsupply ((good_sectionsOf_quizText_iff htitle hquestions).mpr hcomplete)
  · rw [questionsIn_quizText htitle hquestions, List.length_map]
  · rw [questionsIn_quizText htitle hquestions, hnames]

end Compiling

/-- A quiz written in plain text is read with exactly its parts, in order. It compiles exactly if
every question is complete, and then each question is shown with its own fields and no
supplement; else it is refused whatever is drawn. -/
theorem compile_quizText (title : String) (questions : List WrittenQuestion)
    (htitle : IsPlain title) (hquestions : ∀ question ∈ questions, question.AllPlain) :
    (Source.ofMarkdown (quizText title questions)).value =
        ⟨title, questions.mapIdx fun i question => ⟨question.title, i + 1, question.content⟩, []⟩ ∧
      (∀ (words : Words) (patience : Nat) (config : Config) (start stop : Nat)
        (result : Logged (Except QuestionError Document)),
        compile words patience (quizText title questions) config start = some (result, stop) →
        ((∃ document, result.value = .ok document) ↔
          ∀ question ∈ questions, question.Complete) ∧
        ∀ document, result.value = .ok document → document.title = title ∧
          document.ShowsOnce (questions.map WrittenQuestion.compiled)) ∧
      ((∃ question ∈ questions, ¬ question.Complete) →
        ∃ error log, ∀ (words : Words) (patience : Nat) (config : Config) (start : Nat),
          compile words patience (quizText title questions) config start =
            some (⟨.error error, log⟩, start)) ∧
      ((∀ question ∈ questions, question.Complete) →
        ∀ (words : Words) (config : Config) (start : Nat),
          words.Supply questions.length questions.length →
          ∃ document log stop,
            Draw.Ends (fun patience => compile words patience (quizText title questions) config)
              start (⟨.ok document, log⟩, stop)) := by
  refine ⟨value_ofMarkdown_quizText htitle hquestions, ?_,
    refused_of_quizText htitle hquestions, fun hcomplete words config start hsupply =>
      ends_of_quizText htitle hquestions hcomplete hsupply config start⟩
  rintro words patience config start stop ⟨value, log⟩ hrun
  refine ⟨⟨?_, fun hcomplete => ?_⟩, ?_⟩
  · rintro ⟨document, rfl⟩
    exact (document_of_quizText htitle hquestions hrun).1
  · have hgood := (good_sectionsOf_quizText_iff htitle hquestions).mpr hcomplete
    obtain ⟨document, -, hresult⟩ := (compile_of_good hgood).mp hrun
    exact ⟨document, congrArg Logged.value hresult⟩
  · rintro document rfl
    exact (document_of_quizText htitle hquestions hrun).2

/-- The rising words supply indices, and two names. -/
theorem risingWords_supply (places : Nat) : risingWords.Supply places 2 := by
  refine ⟨fun n start _ _ => ⟨4294967296 * (start + 1) - start, ?_⟩, fun seen start hseen => ?_⟩
  · -- counting up goes through zero again, from wherever it starts
    have hzero : risingWords (start + (4294967296 * (start + 1) - start)) = 0 := by
      rw [← UInt32.toNat_inj]
      simp only [risingWords, UInt32.toNat_ofNat', UInt32.toNat_zero]
      omega
    rw [hzero, index?_zero]
    rfl
  · -- two identifiers in a row differ in their first digit
    have hne : (Uuid.ofWords risingWords (start + 0 * 16)).text ≠
        (Uuid.ofWords risingWords (start + 1 * 16)).text := by
      intro heq
      have hhead := congrArg (fun text => text.toList.head?) heq
      simp only [Uuid.head?_text, Option.some.injEq] at hhead
      have hlt (i : Nat) : (risingWords i).toUInt8.toNat / 16 < 16 := by
        have hbyte := (risingWords i).toUInt8.toNat_lt
        omega
      have hdigit := lowerHexDigit_inj (hlt _) (hlt _) hhead
      simp only [risingWords, UInt32.toNat_toUInt8, UInt32.toNat_ofNat'] at hdigit
      omega
    by_contra hall
    simp only [not_exists, not_not] at hall
    cases seen with
    | nil => exact absurd (hall 0) List.not_mem_nil
    | cons text rest =>
        rw [List.length_cons] at hseen
        obtain rfl : rest = [] := List.length_eq_zero_iff.mp (by omega)
        exact hne ((List.mem_singleton.mp (hall 0)).trans (List.mem_singleton.mp (hall 1)).symm)

def sampleQuestions : List WrittenQuestion :=
  [⟨"First part", some "What is it", [⟨"This one", true⟩, ⟨"That one", false⟩]⟩,
    ⟨"Second", some "And now", [⟨"a1", true⟩]⟩]

/-- Two questions that are written, read and compiled come back. -/
theorem compile_sampleQuestions :
    IsPlain "Sample quiz" ∧ (∀ question ∈ sampleQuestions, question.AllPlain) ∧
      (Source.ofMarkdown (quizText "Sample quiz" sampleQuestions)).value.sections.length = 2 ∧
      ∃ patience document log stop,
        compile risingWords patience (quizText "Sample quiz" sampleQuestions) Config.default 0 =
          some (⟨.ok document, log⟩, stop) ∧
        document.title = "Sample quiz" ∧
        document.ShowsOnce (sampleQuestions.map WrittenQuestion.compiled) := by
  have htitle : IsPlain "Sample quiz" := ⟨["Sample", "quiz"], by decide, by decide, rfl⟩
  have hquestions : ∀ question ∈ sampleQuestions, question.AllPlain := by
    simp only [sampleQuestions, List.forall_mem_cons, List.not_mem_nil, false_implies,
      implies_true, and_true]
    refine ⟨⟨⟨["First", "part"], by decide, by decide, rfl⟩, ?_, ?_⟩,
      ⟨⟨["Second"], by decide, by decide, rfl⟩, ?_, ?_⟩⟩
    · rintro text ⟨⟩
      exact ⟨["What", "is", "it"], by decide, by decide, rfl⟩
    · simp only [List.forall_mem_cons, List.not_mem_nil, false_implies, implies_true, and_true]
      exact ⟨⟨["This", "one"], by decide, by decide, rfl⟩,
        ⟨["That", "one"], by decide, by decide, rfl⟩⟩
    · rintro text ⟨⟩
      exact ⟨["And", "now"], by decide, by decide, rfl⟩
    · simp only [List.forall_mem_cons, List.not_mem_nil, false_implies, implies_true, and_true]
      exact ⟨["a1"], by decide, by decide, rfl⟩
  have hcomplete : ∀ question ∈ sampleQuestions, question.Complete := by
    simp only [sampleQuestions, List.forall_mem_cons, List.not_mem_nil, false_implies,
      implies_true, and_true]
    exact ⟨⟨rfl, by decide, rfl⟩, ⟨rfl, by decide, rfl⟩⟩
  obtain ⟨hsource, hruns, -, hends⟩ :=
    compile_quizText "Sample quiz" sampleQuestions htitle hquestions
  obtain ⟨document, log, stop, patience, hrun⟩ :=
    hends hcomplete risingWords Config.default 0 (risingWords_supply 2)
  obtain ⟨-, hdocument⟩ := hruns risingWords patience Config.default 0 stop _ (hrun _ le_rfl)
  obtain ⟨hdocument, hshows⟩ := hdocument document rfl
  refine ⟨htitle, hquestions, by rw [hsource]; rfl, patience, document, log, stop, hrun _ le_rfl,
    hdocument, hshows⟩

end QuizCompiler.Quiz
