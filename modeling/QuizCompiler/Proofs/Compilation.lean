import QuizCompiler.Proofs.Drawing
import QuizCompiler.Proofs.Sections
import QuizCompiler.Proofs.Validation
import QuizCompiler.Quiz.Compilation
import QuizCompiler.Quiz.Error

/-! # What a compilation returns

The sections of a markdown text alone decide whether it compiles and, if it does not, with
which error. A document that is compiled shows each question once and well posed.
-/

namespace QuizCompiler.Quiz

open QuizCompiler.Random QuizCompiler.Text

/-- The sections of a markdown text. -/
def sectionsOf (markdown : String) : List Section := (Source.ofMarkdown markdown).value.sections

theorem sectionsOf_eq (markdown : String) :
    sectionsOf markdown = sectionsFrom 0 (Block.ofMarkdown markdown) := by
  rw [sectionsOf, Source.ofMarkdown, Source.value_ofBlocks]

theorem title_ofMarkdown (markdown : String) :
    (Source.ofMarkdown markdown).value.title =
      ((Block.ofMarkdown markdown).findSome? Block.title?).getD "" := by
  rw [Source.ofMarkdown, Source.value_ofBlocks]

theorem position_of_sectionsOf {markdown : String} {before after : List Section} {part : Section}
    (hsections : sectionsOf markdown = before ++ part :: after) :
    part.position = before.length + 1 := by
  have hpart : (sectionsFrom 0 (Block.ofMarkdown markdown))[before.length]? = some part := by
    rw [← sectionsOf_eq, hsections]
    simp
  simpa using position_of_getElem?_sectionsFrom hpart

theorem trimmed_of_mem_sectionsOf {markdown : String} {part : Section}
    (hpart : part ∈ sectionsOf markdown) :
    ∀ block ∈ part.content, ∀ choice ∈ block.choices, Trimmed choice.label := by
  intro block hblock
  rw [sectionsOf_eq] at hpart
  exact Block.ofMarkdown_trimmed markdown block (mem_content_of_mem_sectionsFrom hpart hblock).1

/-- The questions that the sections of a markdown text describe. -/
def questionsIn (markdown : String) : List Question :=
  (sectionsOf markdown).map fun part => (Draft.describedBy part).question

/-- Where some section is bad, one of the bad ones comes first. -/
theorem exists_first_bad {parts : List Section} (hbad : ∃ part ∈ parts, ¬ part.Good) :
    ∃ before part after, parts = before ++ part :: after ∧
      (∀ other ∈ before, other.Good) ∧ ¬ part.Good := by
  classical
  cases hfind : parts.find? (fun part => decide (¬ part.Good)) with
  | none =>
      obtain ⟨part, hmem, hpart⟩ := hbad
      have hgood := List.find?_eq_none.mp hfind part hmem
      exact absurd (by simpa using hpart) hgood
  | some part =>
      obtain ⟨hpart, before, after, hparts, hbefore⟩ := List.find?_eq_some_iff_append.mp hfind
      refine ⟨before, part, after, hparts, ?_, by simpa using hpart⟩
      intro other hother
      simpa using hbefore other hother

/-! ## From sections to the result -/

/-- What is found in a document are its title and its questions, or the first error. -/
theorem value_examine (markdown : String) :
    (examine markdown).value =
      (Source.questionsOf (sectionsOf markdown)).value.map
        ((Source.ofMarkdown markdown).value.title, ·) := by
  simp only [examine, sectionsOf, Logged.bind_eq, Source.questions]
  cases (Source.questionsOf (Source.ofMarkdown markdown).value.sections).value <;> rfl

section Runs

variable {words : Words} {patience start stop : Nat} {markdown : String} {config : Config}

/-- If a section is bad, the first such section is named in the error, and nothing is drawn. -/
theorem compile_of_bad {before after : List Section} {part : Section}
    (hsections : sectionsOf markdown = before ++ part :: after)
    (hgood : ∀ other ∈ before, other.Good) (hbad : ¬ part.Good) :
    ∃ flaw, ∀ (words : Words) (patience : Nat) (config : Config) (start : Nat),
      compile words patience markdown config start =
        some (⟨.error ⟨flaw, (Draft.describedBy part).displayTitle, part.position⟩,
          (examine markdown).log⟩, start) := by
  obtain ⟨flaw, hflaw⟩ := Source.value_questionsOf_of_bad after hgood hbad
  refine ⟨flaw, fun words patience config start => ?_⟩
  unfold compile
  rw [value_examine, hsections, hflaw]
  rfl

/-- A bad section is refused no matter what would be drawn. -/
theorem compile_of_exists_bad (hbad : ∃ part ∈ sectionsOf markdown, ¬ part.Good) :
    ∃ error log, ∀ (words : Words) (patience : Nat) (config : Config) (start : Nat),
      compile words patience markdown config start = some (⟨.error error, log⟩, start) := by
  obtain ⟨before, part, after, hsections, hbefore, hpart⟩ := exists_first_bad hbad
  obtain ⟨flaw, hrun⟩ := compile_of_bad hsections hbefore hpart
  exact ⟨_, _, hrun⟩

/-- A document is assembled of the questions if all sections are good, and only then. -/
theorem compile_of_good {result : Logged (Except QuestionError Document)}
    (hgood : ∀ part ∈ sectionsOf markdown, part.Good) :
    compile words patience markdown config start = some (result, stop) ↔
      ∃ document,
        assemble words patience (Source.ofMarkdown markdown).value.title (questionsIn markdown)
          config start = some (document, stop) ∧
        result = ⟨.ok document,
          (examine markdown).log ++ [.pagesAssembled document.pages.length]⟩ := by
  unfold compile
  rw [value_examine, Source.value_questionsOf_of_good hgood]
  simp only [Except.map, Draw.bind_eq_some, Draw.pure_eq_some, questionsIn]
  constructor
  · rintro ⟨document, _, hdocument, rfl, rfl⟩
    exact ⟨document, hdocument, rfl⟩
  · rintro ⟨document, hdocument, rfl⟩
    exact ⟨document, stop, hdocument, rfl, rfl⟩

/-- If all sections are good, the compilation ends on a stream that supplies what the questions
need. -/
theorem compile_ends {places names : Nat} (hsupply : words.Supply places names)
    (hgood : ∀ part ∈ sectionsOf markdown, part.Good)
    (hplaces : (questionsIn markdown).length ≤ places)
    (hnames : nameCount (questionsIn markdown) ≤ names) :
    ∃ document log stop,
      Draw.Ends (fun patience => compile words patience markdown config) start
        (⟨.ok document, log⟩, stop) := by
  obtain ⟨document, stop, patience, hassemble⟩ := assemble_ends hsupply
    (Source.ofMarkdown markdown).value.title (questionsIn markdown) config hplaces hnames start
  refine ⟨document, (examine markdown).log ++ [.pagesAssembled document.pages.length], stop,
    patience, fun more hmore => ?_⟩
  exact (compile_of_good hgood).mpr ⟨document, hassemble more hmore, rfl⟩

/-- A document comes of good sections only. It has the first level 1 heading as its title and the
options of the configuration, and shows the questions of the sections in the order of a
shuffle. -/
theorem compile_eq_ok {document : Document} {log : List Notice}
    (hrun : compile words patience markdown config start = some (⟨.ok document, log⟩, stop)) :
    (∀ part ∈ sectionsOf markdown, part.Good) ∧
      document.title = ((Block.ofMarkdown markdown).findSome? Block.title?).getD "" ∧
      (document.progressBar = config.progressBar ∧ document.backButton = config.backButton ∧
        document.completedHtml = config.completedHtml ∧
        document.completionMessages = config.completionMessages) ∧
      ∃ swaps, List.Forall₂ Page.Shows document.pages
        (reordered swaps (questionsIn markdown)) := by
  by_cases hgood : ∀ part ∈ sectionsOf markdown, part.Good
  · obtain ⟨assembled, hassemble, hresult⟩ := (compile_of_good hgood).mp hrun
    obtain ⟨rfl, -⟩ := by simpa using hresult
    rw [title_ofMarkdown] at hassemble
    generalize ((Block.ofMarkdown markdown).findSome? Block.title?).getD "" = title at hassemble ⊢
    obtain ⟨swaps, middle, pages, -, hpages, rfl⟩ := assemble_eq_some.mp hassemble
    exact ⟨hgood, rfl, ⟨rfl, rfl, rfl, rfl⟩, swaps, drawPages_shows hpages⟩
  · -- otherwise the run would have ended in an error
    obtain ⟨error, _, herror⟩ := compile_of_exists_bad (by simpa using hgood)
    rw [herror] at hrun
    simp at hrun

end Runs

/-! ## Documents -/

theorem exists_shown_of_mem {pages : List Page} {questions : List Question} {page : Page}
    (hshows : List.Forall₂ Page.Shows pages questions) (hpage : page ∈ pages) :
    ∃ question ∈ questions, page.Shows question := by
  induction hshows with
  | nil => cases hpage
  | cons hfirst _ ih =>
      rcases List.mem_cons.mp hpage with rfl | hpage
      · exact ⟨_, List.mem_cons_self, hfirst⟩
      · obtain ⟨question, hquestion, hshows⟩ := ih hpage
        exact ⟨question, List.mem_cons_of_mem _ hquestion, hshows⟩

theorem good_of_validate_eq_ok {part : Section} {question : Question}
    (hvalid : (Draft.ofSection part).value.validate = .ok question) :
    part.Good ∧ question = (Draft.describedBy part).question := by
  rw [Draft.value_ofSection] at hvalid
  obtain ⟨hpasses, hquestion⟩ := Draft.passes_of_validate hvalid
  exact ⟨Section.good_iff_passes.mpr hpasses, hquestion⟩

/-- If the drafts of all sections become questions, these are the questions of the document. -/
theorem questionsIn_of_validate {markdown : String} {questions : List Question}
    (hvalid : (sectionsOf markdown).map (fun part => (Draft.ofSection part).value.validate) =
      questions.map .ok) :
    (∀ part ∈ sectionsOf markdown, part.Good) ∧ questionsIn markdown = questions := by
  unfold questionsIn
  generalize sectionsOf markdown = parts at hvalid ⊢
  induction parts generalizing questions with
  | nil => exact ⟨by simp, (List.map_eq_nil_iff.mp hvalid.symm).symm⟩
  | cons part rest ih =>
      cases questions with
      | nil => cases hvalid
      | cons question questions =>
          obtain ⟨hfirst, hrest⟩ := List.cons.inj hvalid
          obtain ⟨hpart, hquestion⟩ := good_of_validate_eq_ok hfirst
          obtain ⟨hgood, hquestions⟩ := ih hrest
          refine ⟨List.forall_mem_cons.mpr ⟨hpart, hgood⟩, ?_⟩
          rw [List.map_cons, hquestions, hquestion]

/-- A text whose sections all validate compiles, whenever the drawing ends, to a document with
the first level 1 heading as its title and the options of the configuration, in which each
question has a page of its own. -/
theorem compile_shows_each_question_once (words : Words) (patience start stop : Nat)
    (markdown : String) (config : Config) (questions : List Question)
    (result : Logged (Except QuestionError Document))
    (hvalid : (sectionsOf markdown).map (fun part => (Draft.ofSection part).value.validate) =
      questions.map .ok)
    (hrun : compile words patience markdown config start = some (result, stop)) :
    ∃ document, result.value = .ok document ∧
      document.title = ((Block.ofMarkdown markdown).findSome? Block.title?).getD "" ∧
      document.ShowsOnce questions ∧
      document.questionCount = questions.length ∧
      questions.length = (sectionsOf markdown).length ∧
      document.progressBar = config.progressBar ∧
      document.backButton = config.backButton ∧
      document.completedHtml = config.completedHtml ∧
      document.completionMessages = config.completionMessages := by
  obtain ⟨hgood, hquestions⟩ := questionsIn_of_validate hvalid
  obtain ⟨document, -, rfl⟩ := (compile_of_good hgood).mp hrun
  obtain ⟨-, htitle, ⟨hbar, hbutton, hhtml, hmessages⟩, swaps, hshows⟩ := compile_eq_ok hrun
  rw [hquestions] at hshows
  have hcount : questions.length = (sectionsOf markdown).length := by
    rw [← List.length_map (f := Except.ok (ε := QuestionError)), ← hvalid, List.length_map]
  refine ⟨document, rfl, htitle, Document.showsOnce_of_reordered hshows, ?_, hcount,
    hbar, hbutton, hhtml, hmessages⟩
  rw [Document.questionCount_of_shows hshows, reordered, List.length_ofFn]

/-- A text with two questions, the second of which has a supplement. -/
def twoQuestionsText : String :=
  "# T\n\n## A\n> a\n- [x] 1\n- [ ] 2\n\n## B\n> b\n- [x] 1\n\nmore\n"

def twoQuestions : List Question :=
  [⟨"A", "a", ["1", "2"], ["1"], none⟩, ⟨"B", "b", ["1"], ["1"], some "<p>more</p>\n"⟩]

/-- A stream in which no name repeats early. -/
def risingWords : Words := fun i => UInt32.ofNat (i * 7919)

/-- Two questions, one of them with a supplement, are shown once each. -/
theorem compile_shows_two_questions :
    (sectionsOf twoQuestionsText).map (fun part => (Draft.ofSection part).value.validate) =
        twoQuestions.map .ok ∧
      ∃ result stop document,
        compile risingWords 1 twoQuestionsText Config.default 0 = some (result, stop) ∧
        result.value = .ok document ∧ document.ShowsOnce twoQuestions ∧
        document.questionCount = 2 := by
  have hvalid : (sectionsOf twoQuestionsText).map
      (fun part => (Draft.ofSection part).value.validate) = twoQuestions.map .ok := by
    decide +kernel
  have hreturns : (compile risingWords 1 twoQuestionsText Config.default 0).isSome = true := by
    decide +kernel
  obtain ⟨⟨result, stop⟩, hrun⟩ := Option.isSome_iff_exists.mp hreturns
  obtain ⟨document, hdocument, -, hshows, hcount, -⟩ := compile_shows_each_question_once
    risingWords 1 0 stop twoQuestionsText Config.default twoQuestions result hvalid hrun
  exact ⟨hvalid, result, stop, document, hrun, hdocument, hshows, hcount⟩

/-- Every prompt of a compiled document is well posed. -/
theorem compile_prompts_well_posed (words : Words) (patience start stop : Nat)
    (markdown : String) (config : Config) (document : Document) (log : List Notice)
    (hrun : compile words patience markdown config start = some (⟨.ok document, log⟩, stop)) :
    ∀ page ∈ document.pages, ∀ prompt, Element.prompt prompt ∈ page.elements →
      WellPosed prompt.title prompt.description prompt.choices prompt.correctAnswers := by
  obtain ⟨hgood, -, -, swaps, hshows⟩ := compile_eq_ok hrun
  intro page hpage prompt hprompt
  obtain ⟨question, hquestion, hpageShows⟩ := exists_shown_of_mem hshows hpage
  obtain ⟨part, hpart, rfl⟩ := List.mem_map.mp (mem_of_mem_reordered hquestion)
  have hposed := (hgood part hpart).isWellPosed (trimmed_of_mem_sectionsOf hpart)
  obtain ⟨htitle, hdescription, hchoices, hanswers⟩ := hpageShows.of_mem hprompt
  rw [htitle, hdescription, hchoices, hanswers]
  exact hposed

/-- The prompts of both questions are well posed. -/
theorem compile_two_prompts_well_posed :
    ∃ document log stop,
      compile risingWords 1 twoQuestionsText Config.default 0 =
        some (⟨.ok document, log⟩, stop) ∧
      document.prompts.length = 2 ∧
      ∀ page ∈ document.pages, ∀ prompt, Element.prompt prompt ∈ page.elements →
        WellPosed prompt.title prompt.description prompt.choices prompt.correctAnswers := by
  have hrun : ((compile risingWords 1 twoQuestionsText Config.default 0).map fun run =>
      (run.1.value.toOption.map fun document => document.prompts.length)) = some (some 2) := by
    decide +kernel
  obtain ⟨⟨⟨value, log⟩, stop⟩, hrun, hvalue⟩ := Option.map_eq_some_iff.mp hrun
  cases value with
  | error error => cases hvalue
  | ok document =>
      exact ⟨document, log, stop, hrun, Option.some.inj hvalue, compile_prompts_well_posed
        risingWords 1 0 stop twoQuestionsText Config.default document log hrun⟩

/-! ## Refusals -/

/-- A text occurs in another if it stands somewhere in it. -/
def OccursIn (part text : String) : Prop := ∃ before after, text = before ++ part ++ after

/-- Every message begins with the position and the title of the question. -/
theorem QuestionError.message_eq (error : QuestionError) :
    ∃ rest, error.message =
      "Question " ++ toString error.position ++ " '" ++ error.title ++ rest := by
  obtain ⟨flaw, title, position⟩ := error
  cases flaw with
  | missing part =>
      refine ⟨"': " ++ part.message, ?_⟩
      simp [message, String.append_assoc, toString]
  | unsupported shape =>
      refine ⟨"' is not a single-choice question: " ++ shape.message, ?_⟩
      simp [message, String.append_assoc, toString]

theorem QuestionError.position_occursIn (error : QuestionError) :
    OccursIn (toString error.position) error.message := by
  obtain ⟨rest, hmessage⟩ := error.message_eq
  refine ⟨"Question ", " '" ++ error.title ++ rest, ?_⟩
  rw [hmessage]
  simp [String.append_assoc]

theorem QuestionError.title_occursIn (error : QuestionError) :
    OccursIn error.title error.message := by
  obtain ⟨rest, hmessage⟩ := error.message_eq
  exact ⟨"Question " ++ toString error.position ++ " '", rest, hmessage⟩

theorem CompileError.message_occursIn (error : QuestionError) :
    OccursIn error.message (CompileError.invalid error).message := by
  have hmessage : (CompileError.invalid error).message =
      "Invalid quiz source: " ++ error.message := rfl
  refine ⟨"Invalid quiz source: ", "", ?_⟩
  rw [hmessage, String.append_empty]

/-- A text is refused exactly if one of its sections is bad. The error is that of the first bad
section, whatever is drawn or configured, and nothing has been drawn: it has the position of
the section and its heading, and its message shows both. -/
theorem compile_refuses_first_bad_section (markdown : String) :
    (∀ (words : Words) (patience : Nat) (config : Config) (start : Nat),
      (∃ error log stop,
        compile words patience markdown config start = some (⟨.error error, log⟩, stop)) ↔
      ∃ part ∈ sectionsOf markdown, ¬ part.Good) ∧
    ∀ (before after : List Section) (part : Section),
      sectionsOf markdown = before ++ part :: after → (∀ other ∈ before, other.Good) →
      ¬ part.Good →
      ∃ error log,
        (∀ (words : Words) (patience : Nat) (config : Config) (start : Nat),
          compile words patience markdown config start = some (⟨.error error, log⟩, start)) ∧
        part.position = before.length + 1 ∧ error.position = before.length + 1 ∧
        error.title = (if trim part.heading = "" then "(untitled)" else trim part.heading) ∧
        OccursIn (toString error.position) error.message ∧ OccursIn error.title error.message ∧
        OccursIn error.message (CompileError.invalid error).message := by
  refine ⟨?_, ?_⟩
  · intro words patience config start
    constructor
    · rintro ⟨error, log, stop, hrun⟩
      by_contra hnone
      have hgood : ∀ part ∈ sectionsOf markdown, part.Good := by simpa using hnone
      obtain ⟨document, -, hresult⟩ := (compile_of_good hgood).mp hrun
      simp at hresult
    · intro hbad
      obtain ⟨error, log, hrun⟩ := compile_of_exists_bad hbad
      exact ⟨error, log, start, hrun words patience config start⟩
  · intro before after part hsections hbefore hpart
    have hposition := position_of_sectionsOf hsections
    obtain ⟨flaw, hrun⟩ := compile_of_bad hsections hbefore hpart
    refine ⟨_, _, hrun, hposition, hposition, ?_, QuestionError.position_occursIn _,
      QuestionError.title_occursIn _, CompileError.message_occursIn _⟩
    simp only [Draft.displayTitle, Draft.describedBy, String.isEmpty_iff, untitled]

/-- A text whose second section has two quotes, the later of them empty. -/
def blankQuoteText : String := "## A\n> a\n- [x] 1\n\n## B\n> b\n\n- [x] 1\n\n>\n\n## C\n"

/-- The second section is refused for its last quote, which is blank, and not for its first. -/
theorem compile_refuses_blank_quote :
    ∃ before part after, sectionsOf blankQuoteText = before ++ part :: after ∧
      (∀ other ∈ before, other.Good) ∧ ¬ part.Good ∧
      ∃ error log,
        (∀ (words : Words) (patience : Nat) (config : Config) (start : Nat),
          compile words patience blankQuoteText config start =
            some (⟨.error error, log⟩, start)) ∧
        error.position = 2 ∧ OccursIn (toString error.position) error.message := by
  have hsections : sectionsOf blankQuoteText =
      [⟨"A", 1, [.quote "a", .list [⟨"1", true⟩]]⟩] ++
        ⟨"B", 2, [.quote "b", .list [⟨"1", true⟩], .quote ""]⟩ :: [⟨"C", 3, []⟩] := by
    decide +kernel
  have hgood : ∀ other ∈ [(⟨"A", 1, [.quote "a", .list [⟨"1", true⟩]]⟩ : Section)],
      other.Good := by
    rintro other hother
    obtain rfl := List.mem_singleton.mp hother
    exact ⟨by decide +kernel, ⟨"a", rfl, by decide +kernel⟩, [⟨"1", true⟩], rfl, by simp, rfl,
      by simp, by simp⟩
  have hbad : ¬ (⟨"B", 2, [.quote "b", .list [⟨"1", true⟩], .quote ""]⟩ : Section).Good := by
    rintro ⟨-, ⟨text, htext, hne⟩, -⟩
    obtain rfl : "" = text := Option.some.inj htext
    exact hne rfl
  obtain ⟨error, log, hrun, -, hposition, -, hshown, -⟩ :=
    (compile_refuses_first_bad_section blankQuoteText).2 _ _ _ hsections hgood hbad
  exact ⟨_, _, _, hsections, hgood, hbad, error, log, hrun, hposition, hshown⟩

end QuizCompiler.Quiz
