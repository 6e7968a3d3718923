import Mathlib.Data.List.Forall2
import QuizCompiler.Proofs.Shuffling
import QuizCompiler.Quiz.Assembly

/-! # What pages show

Each page of an assembled document shows one question, and the pages together show
every question once, in the order that the drawn indices fix.
-/

namespace QuizCompiler.Quiz

open QuizCompiler.Random

/-- A page shows a question if it consists of the question's supplement, should there be
one, and a single prompt with the question's own parts after it. -/
def Page.Shows (page : Page) (question : Question) : Prop :=
  ∃ (markups : List Markup) (prompt : ChoicePrompt),
    page.elements = markups.map .markup ++ [.prompt prompt] ∧
      markups.map Markup.html = question.supplement.toList ∧
      prompt.title = question.title ∧ prompt.description = question.description ∧
      prompt.choices = question.choices ∧ prompt.correctAnswers = question.correctAnswers ∧
      prompt.order = .random ∧ prompt.isRequired = true

theorem Page.Shows.prompts {page : Page} {question : Question} (hshows : page.Shows question) :
    (page.elements.filterMap Element.prompt?).length = 1 := by
  obtain ⟨markups, prompt, helements, -⟩ := hshows
  have hmarkups : (markups.map Element.markup).filterMap Element.prompt? = [] := by
    simp [List.filterMap_eq_nil_iff, Element.prompt?]
  rw [helements, List.filterMap_append, hmarkups]
  rfl

/-- Any prompt on a page is that of its question. -/
theorem Page.Shows.of_mem {page : Page} {question : Question} {prompt : ChoicePrompt}
    (hshows : page.Shows question) (hprompt : .prompt prompt ∈ page.elements) :
    prompt.title = question.title ∧ prompt.description = question.description ∧
      prompt.choices = question.choices ∧ prompt.correctAnswers = question.correctAnswers := by
  obtain ⟨markups, shown, helements, -, htitle, hdescription, hchoices, hanswers, -⟩ := hshows
  have hsame : prompt = shown := by simpa [helements] using hprompt
  subst hsame
  exact ⟨htitle, hdescription, hchoices, hanswers⟩

/-! ## Drawing pages -/

section Drawing

variable {words : Words} {patience start stop : Nat}

/-- Whatever names are drawn, the page shows its question. -/
theorem drawPage_shows {issued names : List String} {question : Question} {page : Page}
    (hpage : drawPage words patience issued question start = some ((page, names), stop)) :
    page.Shows question := by
  unfold drawPage at hpage
  cases hsupplement : question.supplement with
  | none =>
      simp only [hsupplement, Draw.bind_eq_some, Draw.pure_eq_some, Prod.mk.injEq] at hpage
      obtain ⟨name, _, -, ⟨rfl, -⟩, -⟩ := hpage
      exact ⟨[], question.prompt name, rfl, by simp [hsupplement], rfl, rfl, rfl, rfl, rfl, rfl⟩
  | some html =>
      simp only [hsupplement, Draw.bind_eq_some, Draw.pure_eq_some, Prod.mk.injEq] at hpage
      obtain ⟨mark, _, -, name, _, -, ⟨rfl, -⟩, -⟩ := hpage
      exact ⟨[⟨mark, html⟩], question.prompt name, rfl, by simp [hsupplement],
        rfl, rfl, rfl, rfl, rfl, rfl⟩

theorem drawPages_shows {issued : List String} {questions : List Question} {pages : List Page}
    (hpages : drawPages words patience issued questions start = some (pages, stop)) :
    List.Forall₂ Page.Shows pages questions := by
  induction questions generalizing issued pages start stop with
  | nil =>
      obtain ⟨rfl, -⟩ := Draw.pure_eq_some.mp hpages
      exact .nil
  | cons question questions ih =>
      simp only [drawPages, Draw.bind_eq_some, Draw.pure_eq_some] at hpages
      obtain ⟨⟨page, names⟩, _, hpage, others, _, hothers, rfl, -⟩ := hpages
      exact .cons (drawPage_shows hpage) (ih hothers)

/-- A document is assembled of questions in a shuffled order, with the rest as it is configured. -/
theorem assemble_eq_some_of_shuffle {title : String} {questions : List Question}
    {config : Config} {document : Document} :
    assemble words patience title questions config start = some (document, stop) ↔
      ∃ ordered middle pages, shuffle words patience questions start = some (ordered, middle) ∧
        drawPages words patience [] ordered middle = some (pages, stop) ∧
        document = ⟨title, config.progressBar, config.backButton, pages, config.completedHtml,
          config.completionMessages⟩ := by
  simp only [assemble, Draw.bind_eq_some, Draw.pure_eq_some]
  constructor
  · rintro ⟨ordered, middle, hordered, pages, _, hpages, rfl, rfl⟩
    exact ⟨ordered, middle, pages, hordered, hpages, rfl⟩
  · rintro ⟨ordered, middle, pages, hordered, hpages, rfl⟩
    exact ⟨ordered, middle, hordered, pages, stop, hpages, rfl, rfl⟩

/-- An assembled document has the given title and the options of the configuration, and its
pages show the questions in the order of a shuffle. -/
theorem assemble_eq_some {title : String} {questions : List Question} {config : Config}
    {document : Document} :
    assemble words patience title questions config start = some (document, stop) ↔
      ∃ swaps middle pages,
        drawSwaps words patience (questions.length - 1) start = some (swaps, middle) ∧
          drawPages words patience [] (reordered swaps questions) middle = some (pages, stop) ∧
          document = ⟨title, config.progressBar, config.backButton, pages, config.completedHtml,
            config.completionMessages⟩ := by
  simp only [assemble_eq_some_of_shuffle, shuffle_eq_some]
  constructor
  · rintro ⟨_, middle, pages, ⟨swaps, hswaps, rfl⟩, hpages, rfl⟩
    exact ⟨swaps, middle, pages, hswaps, hpages, rfl⟩
  · rintro ⟨swaps, middle, pages, hswaps, hpages, rfl⟩
    exact ⟨_, middle, pages, ⟨swaps, hswaps, rfl⟩, hpages, rfl⟩

end Drawing

/-! ## Documents -/

theorem mem_of_mem_reordered {α : Type} {swaps : List Nat} {items : List α} {item : α}
    (hitem : item ∈ reordered swaps items) : item ∈ items := by
  obtain ⟨place, rfl⟩ := List.mem_ofFn.mp hitem
  exact List.get_mem _ _

/-- The pages of a document show questions, each once, in some order. -/
def Document.ShowsOnce (document : Document) (questions : List Question) : Prop :=
  document.pages.length = questions.length ∧
    ∃ order : Equiv.Perm (Fin questions.length), ∀ place : Fin questions.length,
      ∃ page, document.pages[place.val]? = some page ∧
        page.Shows (questions.get (order place))

/-- Pages in any order show each question once. -/
theorem Document.showsOnce_of_reordered {document : Document} {questions : List Question}
    {swaps : List Nat}
    (hshows : List.Forall₂ Page.Shows document.pages (reordered swaps questions)) :
    document.ShowsOnce questions := by
  have hlength : document.pages.length = questions.length := by
    simpa [reordered] using hshows.length_eq
  refine ⟨hlength, reorder questions.length swaps, fun place => ?_⟩
  have hplace : place.val < document.pages.length := by
    rw [hlength]
    exact place.isLt
  refine ⟨document.pages[place.val], List.getElem?_eq_getElem hplace, ?_⟩
  have hpage := (List.forall₂_iff_get.mp hshows).2 place.val hplace
    (by simp [reordered])
  simpa [reordered] using hpage

/-- A page that shows a question counts as one prompt. -/
theorem Document.questionCount_of_shows {document : Document} {questions : List Question}
    (hshows : List.Forall₂ Page.Shows document.pages questions) :
    document.questionCount = questions.length := by
  obtain ⟨title, bar, button, pages, html, messages⟩ := document
  simp only [Document.questionCount, Document.prompts, Document.elements] at hshows ⊢
  induction hshows with
  | nil => rfl
  | cons hpage _ ih =>
      rw [List.flatMap_cons, List.filterMap_append, List.length_append, hpage.prompts, ih,
        List.length_cons, Nat.add_comm]

end QuizCompiler.Quiz
