import QuizCompiler.Quiz.Assembly
import QuizCompiler.Quiz.Draft

/-! # Compilation

A document is made from markdown: the source is cut into sections, every section is
checked, and the questions are assembled. Nothing is drawn unless all sections pass.
-/

namespace QuizCompiler.Quiz

open QuizCompiler.Random

/-- The title and the questions of a markdown text. -/
def examine (markdown : String) : Logged (Except QuestionError (String × List Question)) := do
  let source ← Source.ofMarkdown markdown
  Logged.note (.sectionsFound source.sections.length source.title)
  match ← source.questions with
  | .error error => return .error error
  | .ok questions =>
    Logged.noteIf questions.isEmpty .noSections
    return .ok (source.title, questions)

/-- Compile a markdown text. -/
def compile (words : Words) (patience : Nat) (markdown : String) (config : Config) :
    Draw (Logged (Except QuestionError Document)) :=
  let examined := examine markdown
  match examined.value with
  | .error error => return ⟨.error error, examined.log⟩
  | .ok (title, questions) => do
    let document ← assemble words patience title questions config
    return ⟨.ok document, examined.log ++ [.pagesAssembled document.pages.length]⟩

end QuizCompiler.Quiz
