import QuizCompiler.Markdown.Structure

/-! # Events

A document as a flat sequence of events, in reading order. Blocks and spans open and
close with a pair of events; everything else is one event. The paragraphs of a tight
list open and close nothing.

Of the extensions of CommonMark only tables, strikethrough and task markers are switched on.
Formulas, footnotes, definition lists, blocks of metadata and raised or lowered text belong to
others, which stay off: no document has them, so they have neither tags nor events here.
-/

namespace QuizCompiler.Markdown

/-- What a pair of events encloses, in CommonMark with tables and strikethrough. -/
inductive Tag
  | paragraph
  | heading (level : Nat)
  | quote
  | codeBlock (info : Option String)
  | htmlBlock
  | list (start : Option Nat)
  | item
  | table (columns : List Alignment)
  | tableHead
  | tableRow
  | tableCell
  | span (kind : Emphasis)
  | link (destination title : String)
  | mail (address : String)
  | image (destination title : String)
deriving DecidableEq, Repr

/-- One step in reading a document, in CommonMark with tables, strikethrough and task markers. -/
inductive Event
  | start (tag : Tag)
  | stop (tag : Tag)
  | text (content : String)
  | code (content : String)
  /-- HTML that makes up a block. -/
  | html (content : String)
  /-- HTML inside a paragraph. -/
  | inlineHtml (content : String)
  | softBreak
  | hardBreak
  | rule
  | task (checked : Bool)
deriving DecidableEq, Repr

namespace Event

/-- The events between the two that a tag encloses. -/
def enclose (tag : Tag) (events : List Event) : List Event := .start tag :: events ++ [.stop tag]

end Event

mutual

/-- The events of inline content. -/
def Inline.events : Inline → List Event
  | .text content => [.text (String.ofList content)]
  | .code content => [.code (String.ofList content)]
  | .html content => [.inlineHtml (String.ofList content)]
  | .softBreak => [.softBreak]
  | .hardBreak => [.hardBreak]
  | .span kind content => Event.enclose (.span kind) (Inline.eventsOfList content)
  | .link destination title content =>
    Event.enclose (.link (String.ofList destination) (String.ofList title))
      (Inline.eventsOfList content)
  | .mail address =>
    Event.enclose (.mail (String.ofList address)) [.text (String.ofList address)]
  | .image destination title content =>
    Event.enclose (.image (String.ofList destination) (String.ofList title))
      (Inline.eventsOfList content)

/-- The events of inline contents in sequence. -/
def Inline.eventsOfList : List Inline → List Event
  | [] => []
  | node :: rest => node.events ++ Inline.eventsOfList rest

end

/-- The events of a text that inline content is read from. -/
def Prose.events (definitions : Definitions) (prose : Prose) : List Event :=
  Inline.eventsOfList (prose.content definitions)

def taskEvents (task : Option Bool) : List Event := (task.map Event.task).toList

/-- The events of one row of a table. -/
def cellEvents (definitions : Definitions) (cells : List Prose) : List Event :=
  cells.flatMap fun cell => Event.enclose .tableCell (cell.events definitions)

mutual

/-- The events of a block; `tight` says that it stands directly in an item of a tight list. -/
def Block.events (definitions : Definitions) (tight : Bool) : Block → List Event
  | .paragraph marker prose =>
    let content := taskEvents marker ++ prose.events definitions
    if tight then content else Event.enclose .paragraph content
  | .heading level marker prose =>
    Event.enclose (.heading level) (taskEvents marker ++ prose.events definitions)
  | .rule => [.rule]
  | .code info text =>
    Event.enclose (.codeBlock (info.map String.ofList))
      (if text.isEmpty then [] else [.text (String.ofList text)])
  | .html lines =>
    Event.enclose .htmlBlock (lines.flatMap fun (indent, text) =>
      (if indent = 0 then [] else [.text (String.ofList (List.replicate indent ' '))]) ++
        [.html (String.ofList text)])
  | .table columns head rows =>
    Event.enclose (.table columns)
      (Event.enclose .tableHead (cellEvents definitions head) ++
        rows.flatMap fun row => Event.enclose .tableRow (cellEvents definitions row))
  | .quote blocks => Event.enclose .quote (Block.eventsOfList definitions false blocks)
  | .list start tight items =>
    Event.enclose (.list start) (Block.eventsOfItems definitions tight items)
  | .task checked => [.task checked]

/-- The events of blocks in sequence. -/
def Block.eventsOfList (definitions : Definitions) (tight : Bool) : List Block → List Event
  | [] => []
  | block :: rest => block.events definitions tight ++ Block.eventsOfList definitions tight rest

/-- The events of the items of a list. -/
def Block.eventsOfItems (definitions : Definitions) (tight : Bool) : List (List Block) → List Event
  | [] => []
  | blocks :: rest =>
    Event.enclose .item (Block.eventsOfList definitions tight blocks) ++
      Block.eventsOfItems definitions tight rest

end

/-- The events of a document. -/
def events (text : String) : List Event :=
  let (blocks, definitions) := readDocument text.toList
  Block.eventsOfList definitions false blocks

end QuizCompiler.Markdown
