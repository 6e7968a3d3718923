import QuizCompiler.Text.Punctuation

/-! # Inline content and emphasis

Runs of `*`, `_` and `~` open and close emphasis. A closing run looks back for the
nearest run that fits it; what stands between the two is emphasised, and runs between
them that are still open turn back into text.
-/

namespace QuizCompiler.Markdown

open Text

/-- The ways a stretch of text is set off by delimiters. -/
inductive Emphasis
  | emphasis
  | strong
  | strikethrough
deriving DecidableEq, Repr

/-- The content of a paragraph, a heading or a table cell. -/
inductive Inline
  | text (content : List Char)
  | code (content : List Char)
  | html (content : List Char)
  | softBreak
  | hardBreak
  | span (kind : Emphasis) (content : List Inline)
  | link (destination title : List Char) (content : List Inline)
  /-- A link to an address of electronic mail, written in angle brackets. -/
  | mail (address : List Char)
  | image (destination title : List Char) (content : List Inline)

/-- A run of delimiters that may open or close emphasis. -/
structure Run where
  char : Char
  length : Nat
  opens : Bool
  closes : Bool
deriving DecidableEq, Repr

/-- Inline content in which delimiters still wait to be paired. -/
inductive Piece
  | done (content : Inline)
  | run (run : Run)

namespace Run

/-- A run whose neighbours are given; `none` stands for the beginning or end of the text.

A run opens if a blank does not follow it, and closes if none stands before it. Between
a letter and a letter `*` and `~~` still do both, `_` and `~` neither; an escaped tilde
before tildes lets them close. -/
def ofNeighbours (char : Char) (length : Nat) (before after : Option Char) : Run :=
  let within := char == '*' || (char == '~' && 2 ≤ length)
  let opens := match after with
    | none => false
    | some next =>
      !isBlank next &&
        match before with
        | none => true
        | some previous =>
          (within && (char == '~' || !isPunct next)) || isBlank previous || isPunct previous
  let closes := match before with
    | none => false
    | some previous =>
      !isBlank previous &&
        match after with
        | none => true
        | some next =>
          (within && !isPunct previous) || (char == '~' && previous == '~') ||
            isBlank next || isPunct next
  ⟨char, length, opens, closes⟩

/-- Whether the run can take part in emphasis at all: tildes go up to two. -/
def active (run : Run) : Bool :=
  (run.opens || run.closes) && !(run.char == '~' && 2 < run.length)

end Run

/-- A run that is open, and the content after it so far, backwards. -/
structure Opener where
  char : Char
  /-- Delimiters not yet used. -/
  count : Nat
  length : Nat
  /-- Whether the run could close as well. -/
  both : Bool
  content : List Inline

namespace Opener

/-- The delimiters left of an opener, as text. -/
def literal (opener : Opener) : Inline := .text (List.replicate opener.count opener.char)

/-- Whether a closing run fits the opener. Where a run could do both, lengths that
add up to a multiple of three fit only if each is one. Tildes fit only in equal number. -/
def fits (opener : Opener) (run : Run) : Bool :=
  opener.char == run.char &&
    (run.char != '~' || run.length == opener.length) &&
    ((!(run.opens && run.closes) && !opener.both) || (run.length + opener.length) % 3 != 0 ||
      run.length % 3 == 0)

end Opener

/-- Emphasise content by a number of delimiters on each side, the strong spans inmost. -/
def emphasise (char : Char) : Nat → List Inline → List Inline
  | 0, content => content
  | 1, content => [.span (if char = '~' then .strikethrough else .emphasis) content]
  | n + 2, content =>
    emphasise char n [.span (if char = '~' then .strikethrough else .strong) content]

/-- Content in which emphasis is being paired. -/
structure Pairing where
  /-- The open runs, the inmost first. -/
  openers : List Opener
  /-- The content before the outmost open run, backwards. -/
  content : List Inline
  /-- How many of the outmost open runs tildes no longer look at. -/
  tildeFloor : Nat

namespace Pairing

def empty : Pairing := ⟨[], [], 0⟩

/-- Add finished content, given backwards. -/
def add (nodes : List Inline) (p : Pairing) : Pairing :=
  match p.openers with
  | [] => { p with content := nodes ++ p.content }
  | top :: others => { p with openers := { top with content := nodes ++ top.content } :: others }

/-- Turn the inmost `n` openers back into text; the list is the content they held,
backwards, in front of which `inner` stands. -/
def release : Nat → List Inline → List Opener → List Inline × List Opener
  | 0, inner, openers => (inner, openers)
  | _ + 1, inner, [] => (inner, [])
  | n + 1, inner, top :: others => release n (inner ++ top.content ++ [top.literal]) others

/-- Close with a run of which `count` delimiters are left; the number tells how many
stay unused. -/
def close (run : Run) : Nat → Pairing → Nat × Pairing
  | 0, p => (0, p)
  | count + 1, p =>
    let visible :=
      if run.char = '~' then p.openers.take (p.openers.length - p.tildeFloor) else p.openers
    match visible.findIdx? (·.fits run) with
    | none =>
      (count + 1, if run.char = '~' then { p with tildeFloor := p.openers.length } else p)
    | some i =>
      let (inner, openers) := release i [] p.openers
      match openers with
      | [] => (count + 1, p)
      | opener :: others =>
        let used := min (count + 1) opener.count
        let span := emphasise run.char used (inner ++ opener.content).reverse
        let p : Pairing := ⟨others, p.content, min p.tildeFloor others.length⟩
        if used < opener.count then
          let opener := { opener with count := opener.count - used, content := span }
          (0, { p with openers := opener :: others })
        else
          let p := p.add span
          close run (count - (used - 1)) p
  termination_by count => count

/-- Add a run of delimiters: it closes what it can, then opens, or else is text. -/
def addRun (run : Run) (p : Pairing) : Pairing :=
  let (left, p) := if run.closes then p.close run run.length else (run.length, p)
  if left = 0 then p
  else if run.opens then
    { p with openers := ⟨run.char, left, run.length, run.opens && run.closes, []⟩ :: p.openers }
  else p.add [.text (List.replicate left run.char)]

def addPiece (p : Pairing) : Piece → Pairing
  | .done node => p.add [node]
  | .run run => p.addRun run

/-- The content, with every run still open as text. -/
def finish (p : Pairing) : List Inline :=
  let (inner, _) := release p.openers.length [] p.openers
  (inner ++ p.content).reverse

end Pairing

def pairDelimiters (pieces : List Piece) : List Inline :=
  (pieces.foldl Pairing.addPiece Pairing.empty).finish

end QuizCompiler.Markdown
