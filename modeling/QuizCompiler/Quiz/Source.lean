import QuizCompiler.Quiz.Block
import QuizCompiler.Quiz.Notice

/-! # Sections of a source

The blocks of a document are cut into sections, one for each level 2 heading. A section
goes up to the next heading of level 1 or 2. The first level 1 heading is the title, and
a block that belongs to no section is dropped.
-/

namespace QuizCompiler.Quiz

/-- A level 2 heading and the blocks below it. -/
structure Section where
  heading : String
  /-- The rank of the heading among those of level 2, counted from one. -/
  position : Nat
  content : List Block
deriving DecidableEq, Repr

/-- A document as a quiz reads it. -/
structure Source where
  /-- The text of the first level 1 heading, or nothing. -/
  title : String
  sections : List Section
  /-- The blocks outside of any section. -/
  dropped : List Block
deriving DecidableEq, Repr

/-- A document that is being cut. All lists are kept backwards. -/
structure Sectioning where
  title : Option String
  sections : List Section
  /-- The open section. -/
  current : Option Section
  dropped : List Block
  log : List Notice
deriving DecidableEq, Repr

namespace Sectioning

/-- Nothing is read so far. -/
def empty : Sectioning := ⟨none, [], none, [], []⟩

/-- The finished sections, the open one included. -/
def finished (s : Sectioning) : List Section :=
  match s.current with
  | some current => { current with content := current.content.reverse } :: s.sections
  | none => s.sections

/-- Read one block. -/
def push (s : Sectioning) : Block → Sectioning
  | .heading 1 text =>
    let s := { s with sections := s.finished, current := none }
    match s.title with
    | none => { s with title := some text }
    | some _ => { s with log := .extraTitle text :: s.log }
  | .heading 2 text =>
    let sections := s.finished
    { s with sections, current := some ⟨text, sections.length + 1, []⟩ }
  | block =>
    match s.current with
    | some current =>
      { s with current := some { current with content := block :: current.content } }
    | none => { s with dropped := block :: s.dropped }

/-- The source as it stands when all blocks are read. -/
def finish (s : Sectioning) : Logged Source :=
  let source : Source := ⟨s.title.getD "", s.finished.reverse, s.dropped.reverse⟩
  let loss := if source.dropped.isEmpty then [] else [.droppedBlocks source.dropped.length]
  ⟨source, s.log.reverse ++ loss⟩

end Sectioning

namespace Source

/-- Cut a sequence of blocks into sections. -/
def ofBlocks (blocks : List Block) : Logged Source :=
  (blocks.foldl Sectioning.push .empty).finish

/-- Cut a document into sections. -/
def ofMarkdown (text : String) : Logged Source := ofBlocks (Block.ofMarkdown text)

end Source

end QuizCompiler.Quiz
