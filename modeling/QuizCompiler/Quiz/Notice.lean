/-! # Notices

What the compiler says while it works. Every notice is a value, so a run returns its
notices beside its result and whoever runs it decides which of them are shown.
-/

namespace QuizCompiler.Quiz

/-- How much a notice matters. -/
inductive Level
  | error
  | warn
  | info
  | debug
  | trace
deriving DecidableEq, Repr

namespace Level

def name : Level → String
  | error => "ERROR"
  | warn => "WARN"
  | info => "INFO"
  | debug => "DEBUG"
  | trace => "TRACE"

/-- How many levels are shown when this one is the last that is. -/
def rank : Level → Nat
  | error => 1
  | warn => 2
  | info => 3
  | debug => 4
  | trace => 5

end Level

/-- Something that happened on the way from a source to a document. -/
inductive Notice
  /-- A level 1 heading after the first. -/
  | extraTitle (text : String)
  /-- Blocks that belong to no section. -/
  | droppedBlocks (count : Nat)
  /-- A second quote in a section. -/
  | descriptionReplaced (position : Nat) (title : String)
  /-- A second list in a section. -/
  | choicesReplaced (position : Nat) (title : String)
  | sectionsFound (count : Nat) (title : String)
  | noSections
  | pagesAssembled (count : Nat)
  | readingSource (path : String)
  | writingDocument (path : String)
  | seedUsed (seed : Nat)
deriving DecidableEq, Repr

namespace Notice

/-- Notices of lost content are warnings; all others only inform. -/
def level : Notice → Level
  | extraTitle _ | droppedBlocks _ | descriptionReplaced _ _ | choicesReplaced _ _ | noSections =>
    .warn
  | _ => .info

/-- The part of the program that gives the notice. -/
def target : Notice → String
  | extraTitle _ | droppedBlocks _ => "mdquiz::source_model::quiz_source"
  | descriptionReplaced _ _ | choicesReplaced _ _ => "mdquiz::source_model::question"
  | sectionsFound _ _ | noSections | pagesAssembled _ | readingSource _ => "mdquiz::pipeline"
  | writingDocument _ => "mdquiz::pipeline::export"
  | seedUsed _ => "mdquiz"

def message : Notice → String
  | extraTitle text => s!"Ignoring extra level 1 heading '{text}'"
  | droppedBlocks count => s!"Dropped {count} block(s) outside of any question section"
  | descriptionReplaced position title =>
    s!"Question {position} '{title}': later blockquote replaces the earlier description"
  | choicesReplaced position title =>
    s!"Question {position} '{title}': later list replaces the earlier choices"
  | sectionsFound count title => s!"Parsed {count} question section(s) for quiz '{title}'"
  | noSections => "Quiz source contains no question sections"
  | pagesAssembled count => s!"Assembled {count} page(s)"
  | readingSource path => s!"Reading quiz source: {path}"
  | writingDocument path => s!"Writing quiz JSON to: {path}"
  | seedUsed seed => s!"Using seed {seed}"

end Notice

/-- A value and the notices that were given on the way to it. -/
structure Logged (α : Type) where
  value : α
  log : List Notice
deriving DecidableEq, Repr

namespace Logged

def note (notice : Notice) : Logged Unit := ⟨(), [notice]⟩

/-- Give a notice if there is reason to. -/
def noteIf (reason : Bool) (notice : Notice) : Logged Unit := ⟨(), if reason then [notice] else []⟩

instance : Monad Logged where
  pure value := ⟨value, []⟩
  bind first next := ⟨(next first.value).value, first.log ++ (next first.value).log⟩

@[simp]
theorem pure_eq {α : Type} (value : α) : (pure value : Logged α) = ⟨value, []⟩ := rfl

@[simp]
theorem bind_eq {α β : Type} (first : Logged α) (next : α → Logged β) :
    first >>= next = ⟨(next first.value).value, first.log ++ (next first.value).log⟩ := rfl

end Logged

end QuizCompiler.Quiz
