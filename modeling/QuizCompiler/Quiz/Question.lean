/-! # Questions

A single-choice question, and the reasons why a draft is none.
-/

namespace QuizCompiler.Quiz

/-- A question that passed all checks. -/
structure Question where
  title : String
  description : String
  /-- The labels in document order. -/
  choices : List String
  /-- The labels of the correct choices. -/
  correctAnswers : List String
  /-- HTML to be shown with the question. -/
  supplement : Option String
deriving DecidableEq, Repr

/-- The title that a question without one is called by. -/
def untitled : String := "(untitled)"

/-- A part that every question needs. -/
inductive MissingPart
  | title
  | description
  | choices
  | correctAnswer
deriving DecidableEq, Repr

def MissingPart.message : MissingPart → String
  | title => "question has no title"
  | description => "question has no description (add a \x60>\x60 blockquote below the heading)"
  | choices => "question has no choices (add a \x60- [ ]\x60 list)"
  | correctAnswer => "question has no correct answer (mark one choice with \x60- [x]\x60)"

/-- A shape that a single-choice question cannot have. -/
inductive Unsupported
  /-- An item without text. -/
  | blankChoice
  /-- Answers are matched by label, so labels must differ. -/
  | duplicateChoice (label : String)
  | multipleCorrectAnswers (count : Nat)
deriving DecidableEq, Repr

/-- The wording for an unsupported shape. -/
def Unsupported.message : Unsupported → String
  | blankChoice => "a choice has an empty label"
  | duplicateChoice label => s!"choice '{label}' appears more than once"
  | multipleCorrectAnswers count =>
    s!"{count} choices are marked correct, but only one is supported"

/-- Why a question cannot be made. -/
inductive Flaw
  | missing (part : MissingPart)
  | unsupported (shape : Unsupported)
deriving DecidableEq, Repr

/-- A flaw, with the question that has it. -/
structure QuestionError where
  flaw : Flaw
  title : String
  position : Nat
deriving DecidableEq, Repr

def QuestionError.message (error : QuestionError) : String :=
  match error.flaw with
  | .missing part => s!"Question {error.position} '{error.title}': {part.message}"
  | .unsupported shape =>
    s!"Question {error.position} '{error.title}' is not a single-choice question: {shape.message}"

end QuizCompiler.Quiz
