import QuizCompiler.Markdown.Marker
import QuizCompiler.Markdown.Table

/-! # Block structure

A document is read line by line. Open quotes and lists form a path; each line first
shows how much of the path it continues, then what it opens, and last what leaf it
begins. A leaf takes the further lines that belong to it; how many is known at once, so
reading goes on after them.

A list is loose if a blank line parts two of its items, or two blocks of an item.
-/

namespace QuizCompiler.Markdown

open Text

/-- A quote, list or item that is still open, with what is finished of it, backwards. -/
inductive Frame
  | quote (blocks : List Block)
  | list (marker : ListMarker) (tight : Bool) (items : List (List Block))
  | item (indent : Nat) (blocks : List Block)

/-- A document that is being read. -/
structure Outline where
  /-- The open frames, the inmost first. -/
  path : List Frame
  /-- The finished blocks outside of all frames, backwards. -/
  blocks : List Block
  definitions : Definitions
  /-- The line before was blank. -/
  afterBlank : Bool
  /-- The first line of the latest item was empty. -/
  emptyItem : Bool

namespace Frame

/-- Whether a line continues a frame, and the cursor inside of it. A blank line
continues every item. -/
def continued? (cursor : Cursor) : Frame → Option Cursor
  | .quote _ => (cursor.takeUpTo 3).2.quote?
  | .list _ _ _ => some cursor
  | .item indent _ =>
    match cursor.take indent with
    | (0, inside) => some inside
    | (_, after) => if after.atEnd then some after else none

end Frame

/-- How many frames, the outmost first, a line continues, and the cursor inside them. -/
def continuedFrames : List Frame → Cursor → Nat × Cursor
  | [], cursor => (0, cursor)
  | frame :: inner, cursor =>
    match frame.continued? cursor with
    | some inside =>
      let (n, last) := continuedFrames inner inside
      (n + 1, last)
    | none => (0, cursor)

/-- Whether a line stays inside all frames of a path, and the cursor after the margin
of those it stays in. -/
def enter (path : List Frame) (line : Line) : Bool × Cursor :=
  let (n, cursor) := continuedFrames path.reverse (.start line.text)
  (n = path.length, cursor)

namespace Outline

def empty : Outline := ⟨[], [], [], false, false⟩

/-- Add a finished block to the inmost frame. -/
def add (block : Block) (o : Outline) : Outline :=
  match o.path with
  | [] => { o with blocks := block :: o.blocks }
  | .quote blocks :: outer => { o with path := .quote (block :: blocks) :: outer }
  | .item indent blocks :: outer => { o with path := .item indent (block :: blocks) :: outer }
  | .list marker tight items :: outer =>
    { o with path := .list marker tight ([block] :: items) :: outer }

/-- Close the inmost frame. -/
def close (o : Outline) : Outline :=
  match o.path with
  | [] => o
  | .quote blocks :: outer => add (.quote blocks.reverse) { o with path := outer }
  | .list marker tight items :: outer =>
    add (.list marker.number tight items.reverse)
      { o with path := outer, emptyItem := o.emptyItem && !tight }
  | .item _ blocks :: .list marker tight items :: outer =>
    { o with path := .list marker tight (blocks.reverse :: items) :: outer }
  | .item _ blocks :: outer =>
    blocks.reverse.foldl (fun o block => o.add block) { o with path := outer }

/-- Close the inmost `n` frames. -/
def closeMany : Nat → Outline → Outline
  | 0, o => o
  | n + 1, o => closeMany n o.close

/-- Close all frames but the outmost `n`. -/
def closeTo (n : Nat) (o : Outline) : Outline := o.closeMany (o.path.length - n)

/-- An item whose first line was empty ends with the blank line after it. -/
def endEmptyItem (o : Outline) : Outline :=
  let o := match o.emptyItem && o.afterBlank, o.path with
    | true, .item _ _ :: _ => o.close
    | _, _ => o
  { o with emptyItem := false }

/-- Make the list loose whose item is the inmost frame, if a blank line stands before. -/
def loosen (o : Outline) : Outline :=
  if o.afterBlank then
    let path := match o.path with
      | frame :: .list marker _ items :: outer => frame :: .list marker false items :: outer
      | path => path
    { o with path := path, afterBlank := false }
  else o

/-- Get ready for a block that is no item of the inmost list. -/
def leaveList (o : Outline) : Outline :=
  let o := o.endEmptyItem
  let o := match o.path with
    | .list _ _ _ :: _ => o.close
    | _ => o
  o.loosen

/-- Open an item, in the inmost list if the marker fits it, else in a new list. -/
def openItem (marker : ListMarker) (indent : Nat) (o : Outline) : Outline :=
  let o := o.endEmptyItem
  match o.path with
  | .list existing tight items :: outer =>
    if existing.sign = marker.sign then
      { o with path := .item indent [] :: .list existing (tight && !o.afterBlank) items :: outer,
               afterBlank := false }
    else
      let o := o.leaveList
      { o with path := .item indent [] :: .list marker true [] :: o.path, afterBlank := false }
  | [] => { o with path := [.item indent [], .list marker true []], afterBlank := false }
  | _ :: _ =>
    let o := o.leaveList
    { o with path := .item indent [] :: .list marker true [] :: o.path, afterBlank := false }

def openQuote (o : Outline) : Outline :=
  let o := o.leaveList
  { o with path := .quote [] :: o.path }

/-- Pass over a blank line. In an item that is still empty no content may follow. -/
def passBlank (o : Outline) : Outline :=
  match o.path with
  | .quote _ :: _ => o
  | .item indent blocks :: outer =>
    { o with path := .item (if o.emptyItem then 0 else indent) blocks :: outer, afterBlank := true }
  | _ => { o with afterBlank := true }

/-- All blocks, once every frame is closed. -/
def finish (o : Outline) : List Block := (o.closeMany o.path.length).blocks.reverse

end Outline

/-! ## Paragraphs -/

/-- Whether the text of a line cuts short a paragraph of the line before, given the
lines below it. -/
def interruptsParagraph (inContainer : Bool) (text : List Char) (below : List Line) : Bool :=
  text.isEmpty || isRule text || (atxLevel? text).isSome || (fence? text).isSome ||
    text.head? = some '>' || listInterrupts inContainer text below ||
    (interruptingHtml? text).isSome

/-- Whether the line, whose text is given, and the line after it begin a table. -/
def startsTable? (path : List Frame) (text : List Char) : List Line → Option (List Alignment)
  | [] => none
  | second :: _ =>
    let (inContainer, cursor) := enter path second
    if inContainer then tableStart? text cursor else none

/-- Whether a paragraph ends before a line, given the cursor inside of the frames and the
lines below. An indented line always goes on with the paragraph, unless it is blank. A
table ends the paragraph if a bar opens its first line. -/
def endsParagraph (path : List Frame) (inContainer : Bool) (cursor : Cursor) (below : List Line) :
    Bool :=
  let (indent, inner) := cursor.takeUpTo 4
  cursor.rest.all isSpaceOrTab ||
    (indent < 4 && (interruptsParagraph inContainer inner.rest below ||
      (inner.rest.head? = some '|' && (startsTable? path inner.rest below).isSome)))

/-- What the next line is to a paragraph. -/
inductive Continuation
  /-- A line of it: the margin, and the rest of the line. -/
  | line (margin body : List Char)
  /-- The underline that makes it a heading. -/
  | underline (level : Nat)
  | ends

/-- What a line is to a paragraph that stands in the frames of the path, given the lines
below. -/
def continuation (path : List Frame) (line : Line) (below : List Line) : Continuation :=
  let (inContainer, cursor) := enter path line
  let (indent, inner) := cursor.takeUpTo 4
  match if inContainer && indent < 4 then setextLevel? inner.rest else none with
  | some level => .underline level
  | none =>
    if endsParagraph path inContainer cursor below then .ends
    else .line (upTo line.text cursor.rest) cursor.rest

/-- The further lines of a paragraph, with their margins, and the level of the underline
that follows them. -/
def paragraphLines (path : List Frame) : List Line → List (List Char × List Char) × Option Nat
  | [] => ([], none)
  | line :: rest =>
    match continuation path line rest with
    | .line margin body =>
      let (lines, level) := paragraphLines path rest
      ((margin, body) :: lines, level)
    | .underline level => ([], some level)
    | .ends => ([], none)

/-- The text of a paragraph. Blanks at its end do not count. -/
def joinLines (first : List Char) (lines : List (List Char × List Char)) : Prose :=
  let text := lines.foldl (fun text (_, body) => text ++ '\n' :: body) first
  ⟨dropTrailing isInlineBlank text, lines.map (·.1)⟩

/-- The rows of a table in the lines after its head. Any list item ends the table, and
so does a line without a cell. -/
def tableRows (path : List Frame) (columns : Nat) : List Line → List (List Prose)
  | [] => []
  | line :: rest =>
    let (inContainer, cursor) := enter path line
    let text := cursor.rest.dropWhile isInlineBlank
    let cells := tableCells text
    if !inContainer || interruptsParagraph false text rest || cells.isEmpty then []
    else fitCells columns cells :: tableRows path columns rest

/-- Whether a backslash ends the text that no other backslash escapes. -/
def endsInBackslash (text : List Char) : Bool := runLength '\\' text.reverse % 2 == 1

/-- The paragraph that begins with the given text, and how many further lines it takes.
With the line below it may be a heading or a table. -/
def paragraph (path : List Frame) (task : Option Bool) (first : List Char) (rest : List Line) :
    Block × Nat :=
  match if endsInBackslash first then none else startsTable? path first rest with
  | some columns =>
    let rows := tableRows path columns.length (rest.drop 1)
    (.table columns (fitCells columns.length (tableCells first)) rows, rows.length + 1)
  | none =>
    let (lines, level) := paragraphLines path rest
    let prose := joinLines first lines
    match level with
    | some level => (.heading level task prose, lines.length + 1)
    | none => (.paragraph task prose, lines.length)

/-! ## Code and HTML -/

/-- What is left of the line after the cursor, spaces of a tab included. -/
def Cursor.shown (cursor : Cursor) : List Char := List.replicate cursor.owed ' ' ++ cursor.rest

/-- The text between fences, and how many lines it takes, the closing fence included. -/
def fencedLines (path : List Frame) (indent : Nat) (fence : Fence) : List Line → List Char × Nat
  | [] => ([], 0)
  | line :: rest =>
    let (inContainer, cursor) := enter path line
    if !inContainer then ([], 0)
    else
      let inner := (cursor.take indent).2
      let (extra, last) := inner.takeUpTo 4
      if extra < 4 && fence.closedBy last.rest then ([], 1)
      else
        let (text, n) := fencedLines path indent fence rest
        (line.written inner.shown ++ text, n + 1)

/-- The further lines of indented code: each text, and whether it is blank. -/
def indentedLines (path : List Frame) : List Line → List (List Char × Bool)
  | [] => []
  | line :: rest =>
    let (inContainer, cursor) := enter path line
    let (missing, inner) := cursor.take 4
    if inContainer && (missing = 0 || inner.atEnd) &&
        !(rest.isEmpty && inner.atEnd && !line.ended) then
      (line.written inner.shown, isBlankRest inner.rest) :: indentedLines path rest
    else []

/-- The further lines of a block of HTML. -/
def htmlLines (path : List Frame) (ending : HtmlBlockEnd) (current : List Char) :
    List Line → List (Nat × List Char)
  | [] => []
  | line :: rest =>
    let (inContainer, cursor) := enter path line
    let ended := match ending with
      | .text mark => occursIn mark current
      | .blankLine => isBlankRest cursor.rest
    if !inContainer || ended then []
    else (cursor.owed, line.written cursor.rest) :: htmlLines path ending cursor.rest rest

/-! ## One line -/

/-- Take the lines of definitions that begin with the given text: the text of the line
and of the lines that could go on with it. -/
def definitionText (path : List Frame) (first : List Char) (rest : List Line) : List Char :=
  let (lines, _) := paragraphLines path rest
  lines.foldl (fun text (_, body) => text ++ '\n' :: body.dropWhile isInlineBlank) first

/-- Read a paragraph that begins with the given text; the number is how many further
lines it takes. Definitions that lead it are set apart; the lines after them are still
lines of a paragraph, so that they need not show the frames. Each definition takes a
line, so `fuel` may be the number of lines. -/
def readParagraph (path : List Frame) :
    (fuel : Nat) → (text : List Char) → List Line → Outline → Outline × Nat
  | 0, _, _, o => (o, 0)
  | fuel + 1, text, rest, o =>
    let source := definitionText path text rest
    match definition? source with
    | none =>
      let (block, n) := paragraph path none text rest
      (o.add block, n)
    | some (definition, after) =>
      let o := { o with definitions := o.definitions ++ [definition] }
      let n := (upTo source after).count '\n'
      match rest.drop n with
      | [] => (o, n)
      | line :: below =>
        let (inContainer, cursor) := enter path line
        if endsParagraph path inContainer cursor below then (o, n)
        else
          let (o, m) := readParagraph path fuel (skipLineStart cursor.rest) below o
          (o, n + 1 + m)

/-- Read the leaf that begins where the cursor stands; the number is how many further
lines it takes. -/
def readLeaf (line : Line) (cursor : Cursor) (rest : List Line) (o : Outline) : Outline × Nat :=
  let o := o.leaveList
  let (indent, inner) := cursor.takeUpTo 4
  if indent = 4 then
    let further := indentedLines o.path rest
    let kept := dropTrailing (·.2) further
    let text := kept.foldl (fun text (more, _) => text ++ more) (line.written inner.shown)
    ({ o with afterBlank := kept.length < further.length }.add (.code none text), further.length)
  else
    let text := inner.rest
    match htmlBlock? text with
    | some ending =>
      let lines := (max cursor.owed indent, line.written text) :: htmlLines o.path ending text rest
      (o.add (.html lines), lines.length - 1)
    | none =>
      if isRule text then (o.add .rule, 0)
      else
        match atxLevel? text with
        | some level =>
          (o.add (.heading level none (.ofLine (atxContent (text.drop level)))), 0)
        | none =>
          match fence? text with
          | some fence =>
            let info := dropTrailing isAsciiBlank ((text.drop fence.length).dropWhile isInlineBlank)
            let (code, n) := fencedLines o.path indent fence rest
            (o.add (.code (some (unescape info)) code), n)
          | none => readParagraph o.path (rest.length + 1) text rest o

/-- Open the quotes and items that the line begins where the cursor stands, then read
the leaf; `fuel` bounds how many are opened. -/
def readOpened (line : Line) (rest : List Line) : (fuel : Nat) → Cursor → Outline → Outline × Nat
  | 0, cursor, o => readLeaf line cursor rest o
  | fuel + 1, cursor, o =>
    let (indent, inner) := cursor.takeUpTo 4
    let item? := if indent < 4 then inner.listItem? indent else none
    match item? with
    | some (marker, width, after) =>
      let o := o.openItem marker width
      if isBlankRest after.rest then ({ o with emptyItem := true }, 0)
      else
        match after.taskMarker? line.ended with
        | some (checked, text) =>
          if isBlankRest text.rest then ({ o.add (.task checked) with emptyItem := true }, 0)
          else
            let first := text.rest.dropWhile isInlineBlank
            let (block, n) := paragraph o.path (some checked) first rest
            (o.add block, n)
        | none => readOpened line rest fuel after o
    | none =>
      match if indent < 4 then inner.quote? else none with
      | some inside => readOpened line rest fuel inside o.openQuote
      | none =>
        if isBlankRest cursor.rest then (o.passBlank, 0) else readLeaf line cursor rest o

/-- Read a line and those its leaf takes with it. -/
def readLine (line : Line) (rest : List Line) (o : Outline) : Outline × Nat :=
  let (n, cursor) := continuedFrames o.path.reverse (.start line.text)
  readOpened line rest (line.text.length + 1) cursor (o.closeTo n)

/-- Read lines; the number counts lines that were taken by an earlier leaf. -/
def readLines : (taken : Nat) → List Line → Outline → Outline
  | _, [], o => o
  | taken + 1, _ :: rest, o => readLines taken rest o
  | 0, line :: rest, o =>
    let (o, taken) := readLine line rest o
    readLines taken rest o

/-- The blocks of a document, and the links it defines. -/
def readDocument (text : List Char) : List Block × Definitions :=
  let o := readLines 0 (Line.split text) .empty
  (o.finish, o.definitions)

end QuizCompiler.Markdown
