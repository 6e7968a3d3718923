import QuizCompiler.Markdown.Inline
import QuizCompiler.Markdown.RawHtml
import QuizCompiler.Markdown.Reference

/-! # From text to inline content

The text of a paragraph is read from left to right. Code spans, HTML, links in angle
brackets, escapes and references are settled as soon as they are met; a closing bracket
settles its link or image; delimiters are paired last, within each link and then in the
whole. A reading step may look ahead, and says how many characters it took.
-/

namespace QuizCompiler.Markdown

open Text

/-- The text that inline content is read from. -/
structure Prose where
  /-- The lines, joined by line ends; blanks that begin a line are kept. -/
  text : List Char
  /-- What the containers took of each line after the first. -/
  margins : List (List Char)
deriving DecidableEq, Repr

def Prose.ofLine (text : List Char) : Prose := ⟨text, []⟩

/-- An opening bracket that has no partner yet. -/
structure Bracket where
  image : Bool
  /-- A bracket is spent once a link has been made inside it: no link may hold another. -/
  spent : Bool
  /-- The pieces before the bracket, backwards. -/
  before : List Piece
  /-- The text after the bracket. -/
  source : List Char

namespace Bracket

def literal (bracket : Bracket) : Piece :=
  .done (.text (if bracket.image then ['!', '['] else ['[']))

end Bracket

/-- Content that is being read. -/
structure Reading where
  /-- The pieces since the last open bracket, backwards. -/
  pieces : List Piece
  /-- The open brackets, the inmost first. -/
  brackets : List Bracket
  /-- The margins of the lines still to come. -/
  margins : List (List Char)

namespace Reading

def add (piece : Inline) (r : Reading) : Reading := { r with pieces := .done piece :: r.pieces }

/-- Add text; it joins text before it. -/
def addText (content : List Char) (r : Reading) : Reading :=
  match r.pieces with
  | .done (.text before) :: others =>
    { r with pieces := .done (.text (before ++ content)) :: others }
  | _ => r.add (.text content)

/-- Pass over the line ends in a text. -/
def pass (consumed : List Char) (r : Reading) : Reading :=
  { r with margins := r.margins.drop (consumed.count '\n') }

/-- Close the inmost bracket around a link or an image. -/
def closeBracket (bracket : Bracket) (others : List Bracket) (target : Target) (r : Reading) :
    Reading :=
  let content := pairDelimiters r.pieces.reverse
  let node : Inline :=
    if bracket.image then .image target.destination target.title content
    else .link target.destination target.title content
  let others :=
    if bracket.image then others
    else others.map fun other => if other.image then other else { other with spent := true }
  ⟨.done node :: bracket.before, others, r.margins⟩

/-- Turn the inmost bracket back into text, and a closing bracket after it. -/
def abandonBracket (bracket : Bracket) (others : List Bracket) (r : Reading) : Reading :=
  addText [']'] ⟨r.pieces ++ bracket.literal :: bracket.before, others, r.margins⟩

/-- All pieces, with open brackets as text. -/
def finish (r : Reading) : List Inline :=
  let pieces := r.brackets.foldl (fun pieces bracket => pieces ++ bracket.literal :: bracket.before)
    r.pieces
  pairDelimiters pieces.reverse

end Reading

/-- The text of a code span that a run of `n` backticks opened, and what follows it. -/
def codeSpan? (n : Nat) : (skip : Nat) → (raw : List Char) → List Char →
    Option (List Char × List Char)
  | _, _, [] => none
  | skip + 1, raw, c :: rest => codeSpan? n skip (c :: raw) rest
  | 0, raw, c :: rest =>
    if c = '\x60' then
      let length := runLength '\x60' rest + 1
      if length = n then some (raw.reverse, rest.drop (length - 1))
      else codeSpan? n (length - 1) (c :: raw) rest
    else codeSpan? n 0 (c :: raw) rest

/-- What a code span shows: line ends as spaces, less one space at each end if both
are there and not all is spaces. -/
def codeContent (raw : List Char) : List Char :=
  let flat := raw.map fun c => if c = '\n' then ' ' else c
  if flat.head? = some ' ' && flat.getLast? = some ' ' && !flat.all (· == ' ') then
    (flat.drop 1).dropLast
  else flat

/-- A web address between angle brackets of which the first has been read, and what
follows the second. -/
def uriLink? (text : List Char) : Option (List Char × List Char) :=
  let isSchemeChar : Char → Bool := fun c => isAsciiAlnum c || c == '.' || c == '-' || c == '+'
  let scheme := text.takeWhile isSchemeChar
  let rest := text.drop scheme.length
  if (scheme.head?).any Char.isAlpha && 2 ≤ scheme.length && scheme.length ≤ 32 &&
      rest.head? = some ':' then
    let path := rest.takeWhile fun c => !(c.toNat ≤ 0x20 || c == '<' || c == '>')
    match rest.drop path.length with
    | '>' :: after => some (scheme ++ path, after)
    | _ => none
  else none

/-- What may stand before the at sign of a mail address. -/
def isMailboxChar (c : Char) : Bool :=
  isAsciiAlnum c || ['.', '!', '#', '$', '%', '&', '\x27', '*', '+', '/', '=', '?', '^', '_',
    '\x60', '\x7b', '|', '\x7d', '~', '-'].contains c

/-- Whether a text is a host name: labels parted by full stops. -/
def isHostName (text : List Char) : Bool :=
  ((String.ofList text).splitOn ".").all fun label =>
    let label := label.toList
    1 ≤ label.length && label.length ≤ 63 && label.head? != some '-' &&
      label.getLast? != some '-' && label.all fun c => isAsciiAlnum c || c == '-'

/-- A mail address between angle brackets of which the first has been read, and what
follows the second. -/
def mailLink? (text : List Char) : Option (List Char × List Char) :=
  let mailbox := text.takeWhile isMailboxChar
  match text.drop mailbox.length with
  | '@' :: rest =>
    let host := rest.takeWhile fun c => isAsciiAlnum c || c == '-' || c == '.'
    match rest.drop host.length with
    | '>' :: after =>
      if !mailbox.isEmpty && isHostName host then some (mailbox ++ '@' :: host, after) else none
    | _ => none
  | _ => none

/-- Put its margin before each line of a text but the first. -/
def withMargins : List (List Char) → List Char → List Char
  | _, [] => []
  | margins, c :: rest =>
    if c = '\n' then '\n' :: (margins.head?.getD [] ++ withMargins margins.tail rest)
    else c :: withMargins margins rest

/-- What `text` holds before `after`, which is its end. -/
def upTo (text after : List Char) : List Char := text.take (text.length - after.length)

/-- A reading step: what has been read, and how many of the characters that follow the
first were taken with it. -/
abbrev Step := Reading × Nat

/-- Read what an opening angle bracket begins. -/
def stepAngle (rest : List Char) (r : Reading) : Step :=
  match uriLink? rest with
  | some (uri, after) => (r.add (.link uri [] [.text uri]), rest.length - after.length)
  | none =>
    match mailLink? rest with
    | some (address, after) => (r.add (.mail address), rest.length - after.length)
    | none =>
      match inlineHtml? rest with
      | some (isTag, after) =>
        let source := upTo rest after
        let shown := if isTag then source else withMargins r.margins source
        ((r.add (.html ('<' :: shown))).pass source, source.length)
      | none => (r.addText ['<'], 0)

/-- Read a run of backticks: `n` of them open a code span, `before` are text. -/
def stepCode (before n : Nat) (rest : List Char) (r : Reading) : Step :=
  match if n = 0 then none else codeSpan? n 0 [] rest with
  | some (raw, after) =>
    let r := if before = 0 then r else r.addText (List.replicate before '\x60')
    ((r.add (.code (codeContent raw))).pass raw, rest.length - after.length)
  | none => (r.addText (List.replicate (before + n) '\x60'), 0)

/-- The target of a reference: the label after the closing bracket if there is one,
else the text between the brackets. Gives back what follows the reference as well. -/
def referenceTarget? (definitions : Definitions) (source rest : List Char) :
    Option (Target × List Char) :=
  let own? : Option Target :=
    match label? source with
    | some (label, after) =>
      if after.length = rest.length then definitions.find? label else none
    | none => none
  match rest with
  | '[' :: ']' :: after => own?.map (·, after)
  | '[' :: more =>
    match label? more with
    | some (label, after) => (definitions.find? label).map (·, after)
    | none => own?.map (·, rest)
  | _ => own?.map (·, rest)

def stepClose (definitions : Definitions) (rest : List Char) (r : Reading) : Step :=
  match r.brackets with
  | [] => (r.addText [']'], 0)
  | bracket :: others =>
    if bracket.spent then (r.abandonBracket bracket others, 0)
    else
      let target := match inlineTarget? rest with
        | some found => some found
        | none => referenceTarget? definitions bracket.source rest
      match target with
      | some (target, after) =>
        let taken := upTo rest after
        ((r.closeBracket bracket others target).pass taken, taken.length)
      | none => (r.abandonBracket bracket others, 0)

def stepBackslash (rest : List Char) (r : Reading) : Step :=
  match rest with
  | '\n' :: more =>
    ((r.add .hardBreak).pass ['\n'], more.length - (skipLineStart more).length + 1)
  | '\x60' :: more =>
    let n := runLength '\x60' more
    let (r, taken) := stepCode 1 n (more.drop n) r
    (r, n + 1 + taken)
  | c :: _ => if isAsciiPunct c then (r.addText [c], 1) else (r.addText ['\\'], 0)
  | [] => (r.addText ['\\'], 0)

/-- Read blanks that may end a line. Two or more make the line end a hard one. -/
def stepBlank (c : Char) (rest : List Char) (r : Reading) : Step :=
  let more := rest.takeWhile isInlineBlank
  match rest.drop more.length with
  | '\n' :: after =>
    let taken := more.length + 1 + (after.length - (skipLineStart after).length)
    ((r.add (if more.isEmpty then .softBreak else .hardBreak)).pass ['\n'], taken)
  | _ => (r.addText (c :: more), more.length)

def stepRun (before : Option Char) (c : Char) (rest : List Char) (r : Reading) : Step :=
  let n := runLength c rest
  let run := Run.ofNeighbours c (n + 1) before (rest.drop n).head?
  if run.active then ({ r with pieces := .run run :: r.pieces }, n)
  else (r.addText (List.replicate (n + 1) c), n)

def step (definitions : Definitions) (before : Option Char) (c : Char) (rest : List Char)
    (r : Reading) : Step :=
  if c = '\\' then stepBackslash rest r
  else if c = '\x60' then
    let n := runLength '\x60' rest
    let (r, taken) := stepCode 0 (n + 1) (rest.drop n) r
    (r, n + taken)
  else if c = '<' then stepAngle rest r
  else if c = '[' then
    ({ r with pieces := [], brackets := ⟨false, false, r.pieces, rest⟩ :: r.brackets }, 0)
  else if c = '!' && rest.head? = some '[' then
    ({ r with pieces := [], brackets := ⟨true, false, r.pieces, rest.drop 1⟩ :: r.brackets }, 1)
  else if c = ']' then stepClose definitions rest r
  else if c = '&' then
    match entity? rest with
    | some (value, after) => (r.addText value, rest.length - after.length)
    | none => (r.addText ['&'], 0)
  else if c = '*' || c = '_' || c = '~' then stepRun before c rest r
  else if c = '\n' then
    ((r.add .softBreak).pass ['\n'], rest.length - (skipLineStart rest).length)
  else if isInlineBlank c then stepBlank c rest r
  else (r.addText [c], 0)

/-- Read a text; the number counts characters that were taken by an earlier step, and
`before` is the character before on the same line. -/
def readFrom (definitions : Definitions) : (skip : Nat) → (before : Option Char) →
    List Char → Reading → Reading
  | _, _, [], r => r
  | skip + 1, _, c :: rest, r =>
    readFrom definitions skip (if c = '\n' then none else some c) rest r
  | 0, before, c :: rest, r =>
    let (r, taken) := step definitions before c rest r
    readFrom definitions taken (if c = '\n' then none else some c) rest r

/-- The inline content of a text. -/
def Prose.content (definitions : Definitions) (prose : Prose) : List Inline :=
  (readFrom definitions 0 none prose.text ⟨[], [], prose.margins⟩).finish

end QuizCompiler.Markdown
