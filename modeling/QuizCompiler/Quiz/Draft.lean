import QuizCompiler.Quiz.Source
import QuizCompiler.Quiz.Question
import QuizCompiler.Text.Escape

/-! # Drafts of questions

A draft is filled from the blocks of a section, each later quote or list taking the place
of the earlier one, and is then checked. The checks go in a fixed order and the first
that fails is reported.
-/

namespace QuizCompiler.Quiz

open Text

/-- A question that is being made. -/
structure Draft where
  position : Nat
  title : String
  description : String
  choices : List String
  correctAnswers : List String
  /-- The HTML of all blocks that are no other part of the question. -/
  supplement : String
  /-- Whether a quote was read. -/
  described : Bool
  /-- Whether a list was read. -/
  offered : Bool
deriving DecidableEq, Repr

namespace Draft

def blank : Draft := ⟨0, "", "", [], [], "", false, false⟩

def start (heading : String) (position : Nat) : Draft :=
  { blank with position, title := trim heading }

/-- The title to call the question by. -/
def displayTitle (draft : Draft) : String :=
  if draft.title.isEmpty then untitled else draft.title

/-- Take a quote as the description. -/
def setDescription (text : String) (draft : Draft) : Logged Draft := do
  Logged.noteIf draft.described (.descriptionReplaced draft.position draft.displayTitle)
  return { draft with described := true, description := trim text }

/-- Take a list as the choices. -/
def setChoices (choices : List Choice) (draft : Draft) : Logged Draft := do
  Logged.noteIf draft.offered (.choicesReplaced draft.position draft.displayTitle)
  return { draft with
    offered := true
    choices := choices.map Choice.label
    correctAnswers := (choices.filter Choice.checked).map Choice.label }

/-- Add HTML to be shown with the question. -/
def addSupplement (html : String) (draft : Draft) : Draft :=
  { draft with supplement := draft.supplement ++ html }

/-! ## Sections -/

/-- Read one block of a section. -/
def read (draft : Draft) : Block → Logged Draft
  | .heading _ text => return draft.addSupplement ("<p>" ++ escapeInTurn text ++ "</p>\n")
  | .quote text => draft.setDescription text
  | .list choices => draft.setChoices choices
  | .other html => return draft.addSupplement html

/-- The draft that a section makes. -/
def ofSection (part : Section) : Logged Draft :=
  part.content.foldlM read (start part.heading part.position)

/-! ## Edits -/

/-- A change that can be made to a draft. -/
inductive Edit
  | describe (text : String)
  | offer (choices : List Choice)
  | supplement (html : String)
  | assignPosition (position : Nat)
  | assignTitle (title : String)
  | assignDescription (description : String)
  | assignChoices (labels : List String)
  | assignCorrectAnswers (labels : List String)
  | assignSupplement (html : String)
  /-- Put the blank draft in its place. -/
  | clear
deriving DecidableEq, Repr

/-- Make a change. An assignment takes its value as it is. -/
def edit (draft : Draft) : Edit → Logged Draft
  | .describe text => draft.setDescription text
  | .offer choices => draft.setChoices choices
  | .supplement html => return draft.addSupplement html
  | .assignPosition position => return { draft with position }
  | .assignTitle title => return { draft with title }
  | .assignDescription description => return { draft with description }
  | .assignChoices labels => return { draft with choices := labels }
  | .assignCorrectAnswers labels => return { draft with correctAnswers := labels }
  | .assignSupplement html => return { draft with supplement := html }
  | .clear => return blank

/-! ## Checks -/

/-- The first part that is missing. -/
def missingPart? (draft : Draft) : Option MissingPart :=
  if draft.title.isEmpty then some .title
  else if draft.description.isEmpty then some .description
  else if draft.choices.isEmpty then some .choices
  else if draft.correctAnswers.isEmpty then some .correctAnswer
  else none

/-- The first label that also stands before it; `seen` holds the labels before the list. -/
def repeatAfter? (seen : List String) : List String → Option String
  | [] => none
  | label :: rest => if seen.contains label then some label else repeatAfter? (label :: seen) rest

/-- The label at the first place that repeats one before it. -/
def firstRepeat? (labels : List String) : Option String := repeatAfter? [] labels

/-- The first unsupported shape that the draft has. -/
def unsupported? (draft : Draft) : Option Unsupported :=
  if draft.choices.any String.isEmpty then some .blankChoice
  else
    match firstRepeat? draft.choices with
    | some label => some (.duplicateChoice label)
    | none =>
      if draft.correctAnswers.length > 1 then
        some (.multipleCorrectAnswers draft.correctAnswers.length)
      else none

/-- Check a draft. -/
def validate (draft : Draft) : Except QuestionError Question :=
  match draft.missingPart? with
  | some part => .error ⟨.missing part, draft.displayTitle, draft.position⟩
  | none =>
    match draft.unsupported? with
    | some shape => .error ⟨.unsupported shape, draft.title, draft.position⟩
    | none =>
      .ok
        { title := draft.title
          description := draft.description
          choices := draft.choices
          correctAnswers := draft.correctAnswers
          supplement := if draft.supplement.isEmpty then none else some draft.supplement }

end Draft

namespace Source

/-- The questions of sections, up to the first that fails. -/
def questionsOf : List Section → Logged (Except QuestionError (List Question))
  | [] => return .ok []
  | part :: rest => do
    let draft ← Draft.ofSection part
    match draft.validate with
    | .error error => return .error error
    | .ok question =>
      let others ← questionsOf rest
      return others.map (question :: ·)

/-- The questions of a source, one for each section. -/
def questions (source : Source) : Logged (Except QuestionError (List Question)) :=
  questionsOf source.sections

end Source

end QuizCompiler.Quiz
