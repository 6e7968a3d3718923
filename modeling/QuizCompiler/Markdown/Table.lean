import QuizCompiler.Markdown.Block
import QuizCompiler.Markdown.Line

/-! # Tables

A table begins with a line of cells and a line of hyphens that agree in the number of
columns. Cells are parted by vertical bars; a bar after a backslash is text.
-/

namespace QuizCompiler.Markdown

open Text

/-- Columns of a table that are being read from the line of hyphens. -/
structure ColumnScan where
  columns : List Alignment
  current : Alignment
  /-- Nothing of the current column has been read. -/
  fresh : Bool
  hyphen : Bool
  bar : Bool

namespace ColumnScan

/-- Before the first column; `bar` says whether the row began with a bar. -/
def start (bar : Bool) : ColumnScan := ⟨[], .none, true, false, bar⟩

/-- Read one character; a column without a hyphen, or any other sign, is refused. -/
def step? (scan : ColumnScan) (c : Char) : Option ColumnScan :=
  if c = ' ' then some scan
  else if c = '-' then some { scan with fresh := false, hyphen := true }
  else if c = ':' then
    let current := match scan.fresh, scan.current with
      | true, .none => .left
      | false, .left => .center
      | false, .none => .right
      | _, other => other
    some { scan with current := current, fresh := false }
  else if c = '|' then
    if scan.hyphen then some ⟨scan.columns ++ [scan.current], .none, true, false, true⟩ else none
  else none

/-- The columns once the line is over. -/
def finish? (scan : ColumnScan) : Option (List Alignment) :=
  if !scan.bar then none
  else if scan.fresh then some scan.columns
  else if scan.hyphen then some (scan.columns ++ [scan.current])
  else none

end ColumnScan

/-- The columns that a line of hyphens describes. The cursor stands in its margin. -/
def tableColumns? (cursor : Cursor) : Option (List Alignment) :=
  let (indent, cursor) := cursor.takeUpTo 4
  if 4 ≤ indent then none
  else
    match cursor.rest with
    | [] => none
    | '|' :: rest => (rest.foldlM ColumnScan.step? (.start true)).bind ColumnScan.finish?
    | rest => (rest.foldlM ColumnScan.step? (.start false)).bind ColumnScan.finish?

/-- Cut a line at its bars. The current cell is held backwards; a bar that a backslash
precedes is text, and loses the backslash. -/
def cutAtBars (cell : List Char) : List Char → List (List Char)
  | [] => [cell.reverse]
  | c :: rest =>
    if c = '|' then
      match cell with
      | '\\' :: before => cutAtBars ('|' :: before) rest
      | _ => cell.reverse :: cutAtBars [] rest
    else cutAtBars (c :: cell) rest

/-- The cells of a line, without the blanks around them. A bar may open the line, and
what follows the last bar is a cell only if it is not blank. -/
def tableCells (text : List Char) : List (List Char) :=
  let inner := match text with
    | '|' :: rest => rest
    | rest => rest
  let cells := cutAtBars [] inner
  let cells := if cells.getLast?.any isBlankRest then cells.dropLast else cells
  cells.map fun cell => dropTrailing isInlineBlank (cell.dropWhile isInlineBlank)

/-- Cells in the given number, with empty ones added or the last ones left out. -/
def fitCells (n : Nat) (cells : List (List Char)) : List Prose :=
  (cells.take n ++ List.replicate (n - cells.length) []).map Prose.ofLine

/-- The columns of the table that two lines begin, the first given from its first
character that is not blank. -/
def tableStart? (first : List Char) (second : Cursor) : Option (List Alignment) :=
  if first.contains '|' then
    match tableColumns? second with
    | some columns =>
      if !columns.isEmpty && (tableCells first).length = columns.length then some columns else none
    | none => none
  else none

end QuizCompiler.Markdown
