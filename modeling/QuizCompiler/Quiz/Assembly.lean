import QuizCompiler.Quiz.Config
import QuizCompiler.Quiz.Name
import QuizCompiler.Quiz.Question

/-! # Assembly

Questions are put in a random order, one on each page. A question with a supplement
has it before it on its page. All elements get random names.
-/

namespace QuizCompiler.Quiz

open QuizCompiler.Random

def Question.prompt (question : Question) (name : String) : ChoicePrompt where
  name := name
  title := question.title
  description := question.description
  choices := question.choices
  correctAnswers := question.correctAnswers
  order := .random
  enabledIf := unansweredExpression name
  isRequired := true

/-- Draw the names for the page of a question. The names that were issued before are given and
returned, the latest first. -/
def drawPage (words : Words) (patience : Nat) (issued : List String) (question : Question) :
    Draw (Page × List String) :=
  match question.supplement with
  | some html => do
    let mark ← drawName words patience issued supplementMark
    let name ← drawName words patience (mark :: issued) ""
    return (⟨[.markup ⟨mark, html⟩, .prompt (question.prompt name)]⟩, name :: mark :: issued)
  | none => do
    let name ← drawName words patience issued ""
    return (⟨[.prompt (question.prompt name)]⟩, name :: issued)

/-- Draw the pages of questions, in order. -/
def drawPages (words : Words) (patience : Nat) : List String → List Question → Draw (List Page)
  | _, [] => return []
  | issued, question :: questions => do
    let (page, issued) ← drawPage words patience issued question
    let pages ← drawPages words patience issued questions
    return page :: pages

/-- A document with a page for each question. -/
def assemble (words : Words) (patience : Nat) (title : String) (questions : List Question)
    (config : Config) : Draw Document := do
  let ordered ← shuffle words patience questions
  let pages ← drawPages words patience [] ordered
  return {
    title
    progressBar := config.progressBar
    backButton := config.backButton
    pages
    completedHtml := config.completedHtml
    completionMessages := config.completionMessages }

end QuizCompiler.Quiz
