import QuizCompiler.Markdown.Render

/-! # Quiz blocks

What a quiz makes of the top-level blocks of a document: headings of the first two
levels, quotes and unordered lists have a meaning; any other block is kept as HTML.
-/

namespace QuizCompiler.Quiz

open Markdown Text

/-- A choice of a question. Made from text, the label is trimmed. -/
structure Choice where
  label : String
  checked : Bool
deriving DecidableEq, Repr

/-- The choice that an item with the given text stands for. -/
def Choice.ofText (text : String) (checked : Bool) : Choice := ⟨trim text, checked⟩

/-- A block as a quiz reads it. -/
inductive Block
  | heading (level : Nat) (text : String)
  | quote (text : String)
  | list (choices : List Choice)
  | other (html : String)
deriving DecidableEq, Repr

def Block.headingLevel? : Block → Option Nat
  | .heading level _ => some level
  | _ => none

/-! ## The text of events -/

/-- Text that is being gathered. Nothing inside an image counts: its alternative text
is no content. -/
structure TextContent where
  text : String
  /-- How many images are open. -/
  imageDepth : Nat
deriving DecidableEq, Repr

namespace TextContent

def empty : TextContent := ⟨"", 0⟩

/-- What an event outside of images adds to the text. Formulas would add their own text as code
does, but documents have none. -/
def addition : Event → String
  | .text content => content
  | .code content => content
  | .softBreak => "\n"
  | .hardBreak => "\n"
  | .start (.list _) => "\n"
  | .stop .paragraph => "\n"
  | .stop (.heading _) => "\n"
  | .stop .item => "\n"
  | .stop (.codeBlock _) => "\n"
  | _ => ""

/-- Gather one event. -/
def push (content : TextContent) (event : Event) : TextContent :=
  match event with
  | .start (.image _ _) => { content with imageDepth := content.imageDepth + 1 }
  | .stop (.image _ _) => { content with imageDepth := content.imageDepth - 1 }
  | _ =>
    if content.imageDepth = 0 then { content with text := content.text ++ addition event }
    else content

def finish (content : TextContent) : String := trim content.text

end TextContent

/-- The trimmed text of a sequence of events. -/
def textContent (events : List Event) : String :=
  (events.foldl TextContent.push .empty).finish

/-! ## The choices of a list -/

/-- Choices that are being collected. -/
structure ChoiceScan where
  /-- The finished choices, backwards. -/
  choices : List Choice
  /-- How many lists are open. -/
  depth : Nat
  /-- The open item of the outmost list, and whether it is checked. -/
  current : Option (TextContent × Bool)

namespace ChoiceScan

def empty : ChoiceScan := ⟨[], 0, none⟩

/-- Let an event count for the text of the open item. -/
def gather (scan : ChoiceScan) (event : Event) : ChoiceScan :=
  { scan with current := scan.current.map fun (label, checked) => (label.push event, checked) }

/-- Read one event. Items and task markers count only in the outmost list. -/
def push (scan : ChoiceScan) (event : Event) : ChoiceScan :=
  match event with
  | .start (.list _) => { scan with depth := scan.depth + 1 }.gather event
  | .stop (.list _) => { scan with depth := scan.depth - 1 }.gather event
  | .start .item =>
    if scan.depth = 1 then { scan with current := some (.empty, false) } else scan.gather event
  | .stop .item =>
    if scan.depth = 1 then
      match scan.current with
      | some (label, checked) =>
        ⟨.ofText label.finish checked :: scan.choices, scan.depth, none⟩
      | none => scan
    else scan.gather event
  | .task checked =>
    if scan.depth = 1 then
      { scan with current := scan.current.map fun (label, _) => (label, checked) }
    else scan.gather event
  | _ => scan.gather event

end ChoiceScan

/-- The items of a list as choices. The text of nested lists belongs to the item that
holds them. -/
def collectChoices (events : List Event) : List Choice :=
  (events.foldl ChoiceScan.push .empty).choices.reverse

/-! ## Blocks from events -/

/-- The block that a group of events stands for; its first event decides. -/
def Block.ofGroup (group : List Event) : Block :=
  match group with
  | .start (.heading level) :: _ =>
    if level ≤ 2 then .heading level (textContent group) else .other (renderHtml group)
  | .start .quote :: _ => .quote (textContent group)
  | .start (.list none) :: _ => .list (collectChoices group)
  | _ => .other (renderHtml group)

/-- Events that are being cut into groups. -/
structure Grouping where
  /-- The finished groups, backwards. -/
  groups : List (List Event)
  /-- The events of the group at hand, backwards. -/
  pending : List Event
  /-- How many pairs are open. -/
  depth : Nat

namespace Grouping

def empty : Grouping := ⟨[], [], 0⟩

/-- Close the group at hand unless it is empty. -/
def close (g : Grouping) : Grouping :=
  if g.pending.isEmpty then g else ⟨g.pending.reverse :: g.groups, [], g.depth⟩

/-- Take one event; a group is over when all its pairs are closed. -/
def push (g : Grouping) (event : Event) : Grouping :=
  let depth := match event with
    | .start _ => g.depth + 1
    | .stop _ => g.depth - 1
    | _ => g.depth
  let g : Grouping := ⟨g.groups, event :: g.pending, depth⟩
  if depth = 0 then g.close else g

end Grouping

/-- Cut events into groups, one for each top-level block. -/
def groupEvents (events : List Event) : List (List Event) :=
  (events.foldl Grouping.push .empty).close.groups.reverse

/-- The blocks of a sequence of events. -/
def Block.ofEvents (events : List Event) : List Block := (groupEvents events).map Block.ofGroup

/-- The blocks of a document. -/
def Block.ofMarkdown (text : String) : List Block := Block.ofEvents (events text)

end QuizCompiler.Quiz
