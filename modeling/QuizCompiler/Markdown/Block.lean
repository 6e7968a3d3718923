import QuizCompiler.Markdown.Content

/-! # Blocks

A document is a sequence of blocks. Quotes and list items hold blocks in turn; the
other blocks are leaves. Leaves still hold the text their inline content is read from,
since links may be defined further down.
-/

namespace QuizCompiler.Markdown

/-- How a table column is aligned. -/
inductive Alignment
  | none
  | left
  | center
  | right
deriving DecidableEq, Repr

/-- A block of a document. -/
inductive Block
  /-- A paragraph; in a list item a task marker may stand before its text. -/
  | paragraph (task : Option Bool) (prose : Prose)
  | heading (level : Nat) (task : Option Bool) (prose : Prose)
  | rule
  /-- A code block; one with fences has an information string. -/
  | code (info : Option (List Char)) (text : List Char)
  /-- The lines of a block of HTML, each with the number of spaces that indent it. -/
  | html (lines : List (Nat × List Char))
  | table (columns : List Alignment) (head : List Prose) (rows : List (List Prose))
  | quote (blocks : List Block)
  /-- A list; an ordered one has a first number. -/
  | list (start : Option Nat) (tight : Bool) (items : List (List Block))
  /-- A task marker with nothing after it on its line. -/
  | task (checked : Bool)

end QuizCompiler.Markdown
