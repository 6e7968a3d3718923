import QuizCompiler.Markdown.Line

/-! # Markers that begin a block

What the rest of a line says about the block it begins: a rule, a heading, a code
fence, a list item, a quote or a block of HTML.
-/

namespace QuizCompiler.Markdown

open Text

/-- A thematic break: three or more of one of `*`, `-`, `_`, with blanks between. -/
def isRule : List Char → Bool
  | [] => false
  | c :: rest =>
    (c == '*' || c == '-' || c == '_') &&
      rest.all (fun d => d == c || d == ' ' || d == '\t') &&
      3 ≤ (c :: rest).count c

/-- The level of a heading that begins with number signs. -/
def atxLevel? (text : List Char) : Option Nat :=
  let level := runLength '#' text
  if 1 ≤ level && level ≤ 6 &&
      (match text.drop level with | [] => true | c :: _ => isAsciiBlank c) then
    some level
  else none

/-- The text of a heading that begins with number signs: without the blanks that lead
it, without trailing spaces, and without a closing run of number signs that a space
sets off. -/
def atxContent (afterMarker : List Char) : List Char :=
  let text := dropTrailing (· == ' ') (afterMarker.dropWhile isInlineBlank)
  let stem := dropTrailing (· == '#') text
  if stem.isEmpty then []
  else if stem.getLast? = some ' ' then dropTrailing (· == ' ') stem
  else text

/-- The level that an underline gives to the paragraph above it. -/
def setextLevel? : List Char → Option Nat
  | [] => none
  | c :: rest =>
    if (c == '=' || c == '-') && isBlankRest (rest.drop (runLength c rest)) then
      some (if c == '=' then 1 else 2)
    else none

/-- A code fence: its character, and how often it stands there. -/
structure Fence where
  char : Char
  length : Nat
deriving DecidableEq, Repr

/-- An opening code fence; after backticks the line holds no further backtick. -/
def fence? : List Char → Option Fence
  | [] => none
  | c :: rest =>
    let n := runLength c rest + 1
    if (c == '\x60' || c == '~') && 3 ≤ n &&
        !(c == '\x60' && ((c :: rest).drop n).contains '\x60') then
      some ⟨c, n⟩
    else none

/-- Whether a line closes the fence: at least as many of its characters, then spaces. -/
def Fence.closedBy (fence : Fence) (text : List Char) : Bool :=
  let n := runLength fence.char text
  fence.length ≤ n && (text.drop n).all (· == ' ')

/-- What tells one list from the next: the bullet, or the sign after the number. -/
structure ListMarker where
  sign : Char
  /-- The number of an ordered item. -/
  number : Option Nat
deriving DecidableEq, Repr

/-- A list marker at the head of a text, and what follows it; digits are at most nine. -/
def listMarker? : List Char → Option (ListMarker × List Char)
  | [] => none
  | c :: rest =>
    if c == '-' || c == '+' || c == '*' then some (⟨c, none⟩, rest)
    else
      let digits := (c :: rest).takeWhile Char.isDigit
      match (c :: rest).drop digits.length with
      | d :: after =>
        if 1 ≤ digits.length && digits.length ≤ 9 && (d == '.' || d == ')') then
          some (⟨d, some (digits.foldl (fun n x => 10 * n + (x.toNat - '0'.toNat)) 0)⟩, after)
        else none
      | [] => none

/-- The marker of a list item where one may begin, the columns that the item's content
is indented by, and the cursor after the marker. A blank must follow the marker. -/
def Cursor.listItem? (indent : Nat) (cursor : Cursor) : Option (ListMarker × Nat × Cursor) :=
  if isRule cursor.rest then none
  else
    match listMarker? cursor.rest with
    | none => none
    | some (marker, after) =>
      let width := cursor.rest.length - after.length
      let bare : Cursor := ⟨cursor.column + width, cursor.owed, after⟩
      let (missing, spaced) := bare.take 1
      if missing = 0 || spaced.atEnd then
        let indent := indent + width + 1
        if isBlankRest spaced.rest then some (marker, indent, spaced)
        else
          let (extra, past) := spaced.takeUpTo 4
          if extra < 4 then some (marker, indent + extra, past) else some (marker, indent, spaced)
      else none

/-- A task marker at the head of a list item, and the cursor after it. A blank follows
the closing bracket; `ended` says whether the end of the line counts as one. -/
def Cursor.taskMarker? (ended : Bool) (cursor : Cursor) : Option (Bool × Cursor) :=
  let (_, cursor) := cursor.takeUpTo 3
  match cursor.rest with
  | '[' :: c :: ']' :: rest =>
    let checked := c == 'x' || c == 'X'
    if checked || isInlineBlank c then
      match rest with
      | [] => if ended then some (checked, ⟨cursor.column + 3, cursor.owed, []⟩) else none
      | d :: _ =>
        if isInlineBlank d then some (checked, ⟨cursor.column + 3, cursor.owed, rest⟩) else none
    else none
  | _ => none

/-- The marker of a quote, with the space that belongs to it. -/
def Cursor.quote? (cursor : Cursor) : Option Cursor :=
  (cursor.takeChar? '>').map fun cursor => (cursor.take 1).2

/-- Whether the rest of a line is a list item that may cut a paragraph short. Within
the paragraph's own containers its number is one, and it holds something: text after
the marker, or a line below that is not blank. -/
def listInterrupts (inContainer : Bool) (text : List Char) (below : List Line) : Bool :=
  match listMarker? text with
  | none => false
  | some (marker, after) =>
    let spaced := match after with
      | [] => true
      | c :: _ => c == ' ' || c == '\t'
    let isEmpty := isBlankRest after && below.head?.all fun line => isBlankRest line.text
    spaced &&
      (!inContainer || ((marker.number = none || marker.number = some 1) && !isEmpty))

end QuizCompiler.Markdown
