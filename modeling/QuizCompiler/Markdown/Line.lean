import QuizCompiler.Text.Blank

/-! # Lines and the margin of a line

A document is read line by line. A cursor stands in the margin of a line: it takes
spaces, and a tab counts for as many spaces as lead to the next tab stop. A tab can
be taken in part; the spaces still owed are then taken first.
-/

namespace QuizCompiler.Markdown

open Text

/-- One line, without the characters that end it. -/
structure Line where
  text : List Char
  /-- Whether a line end was written; only the last line can lack one. -/
  ended : Bool
deriving DecidableEq, Repr

namespace Line

/-- The line as it reads in a block of raw text. -/
def written (line : Line) (text : List Char) : List Char :=
  if line.ended then text ++ ['\n'] else text

/-- Cut a text into lines at line feeds, carriage returns, and pairs of both;
`cur` holds the current line backwards. -/
def splitFrom (cur : List Char) : List Char → List Line
  | [] => if cur.isEmpty then [] else [⟨cur.reverse, false⟩]
  | '\r' :: '\n' :: rest => ⟨cur.reverse, true⟩ :: splitFrom [] rest
  | c :: rest =>
    if c = '\n' || c = '\r' then ⟨cur.reverse, true⟩ :: splitFrom [] rest
    else splitFrom (c :: cur) rest

def split (text : List Char) : List Line := splitFrom [] text

end Line

/-- A place in the margin of a line. -/
structure Cursor where
  /-- How far the last tab stop lies behind. -/
  column : Nat
  /-- Spaces of a tab that was taken in part. -/
  owed : Nat
  rest : List Char
deriving DecidableEq, Repr

namespace Cursor

def start (line : List Char) : Cursor := ⟨0, 0, line⟩

/-- Take `n` spaces where nothing is owed; the number is how many were missing. -/
def takeWritten (n column : Nat) : List Char → Nat × Cursor
  | ' ' :: rest =>
    if n = 0 then (0, ⟨column, 0, ' ' :: rest⟩) else takeWritten (n - 1) (column + 1) rest
  | '\t' :: rest =>
    if n = 0 then (0, ⟨column, 0, '\t' :: rest⟩)
    else
      let width := 4 - column % 4
      if width ≤ n then takeWritten (n - width) 0 rest else (0, ⟨0, width - n, rest⟩)
  | rest => (n, ⟨column, 0, rest⟩)

/-- Take up to `n` spaces; the number is how many were missing. -/
def take (n : Nat) (cursor : Cursor) : Nat × Cursor :=
  if n ≤ cursor.owed then (0, { cursor with owed := cursor.owed - n })
  else takeWritten (n - cursor.owed) cursor.column cursor.rest

/-- Take up to `n` spaces and say how many were there. -/
def takeUpTo (n : Nat) (cursor : Cursor) : Nat × Cursor :=
  let (missing, after) := cursor.take n
  (n - missing, after)

def takeChar? (c : Char) (cursor : Cursor) : Option Cursor :=
  match cursor.rest with
  | d :: rest => if d = c then some ⟨cursor.column + 1, cursor.owed, rest⟩ else none
  | [] => none

/-- Whether the line ends here. -/
def atEnd (cursor : Cursor) : Bool := cursor.rest.isEmpty

end Cursor

/-- Whether nothing but blanks is left of a line. -/
def isBlankRest (text : List Char) : Bool := text.all isInlineBlank

end QuizCompiler.Markdown
