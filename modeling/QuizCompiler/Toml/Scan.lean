import QuizCompiler.Data.Datum
import QuizCompiler.Text.Digit

/-! # Scanning

The steps that a text is read by: each takes some characters from its head or fails. Loops
are given fuel, which is computed from what is left of the text.
-/

namespace QuizCompiler.Toml

open Data Text

/-- A place in a text. -/
structure Cursor where
  /-- How many bytes lie before it. -/
  offset : Nat
  rest : List Char
deriving DecidableEq, Repr

/-- A step that takes characters, or fails. -/
abbrev Scan := StateT Cursor Option

namespace Scan

def fail {α : Type} : Scan α := fun _ => none

/-- Fail unless a condition holds. -/
def check (condition : Bool) : Scan Unit := if condition then return () else fail

def rest : Scan (List Char) := return (← get).rest

def peek : Scan (Option Char) := return (← get).rest.head?

/-- How many bytes were taken. -/
def offset : Scan Nat := return (← get).offset

/-- Enough fuel for a loop whose every round takes a character. -/
def fuel : Scan Nat := return (← get).rest.length + 1

def next : Scan Char := fun cursor =>
  match cursor.rest with
  | c :: rest => some (c, ⟨cursor.offset + c.utf8Size, rest⟩)
  | [] => none

/-- Take the longest run of characters that satisfy `p`. -/
def takeWhile (p : Char → Bool) : Scan (List Char) := fun cursor =>
  let taken := cursor.rest.takeWhile p
  some (taken, ⟨cursor.offset + (String.ofList taken).utf8ByteSize, cursor.rest.dropWhile p⟩)

def take : (n : Nat) → Scan (List Char)
  | 0 => return []
  | n + 1 => do
    let c ← next
    return c :: (← take n)

def char (c : Char) : Scan Unit := do check ((← next) == c)

/-- Take the character `c` if it comes next. -/
def char? (c : Char) : Scan Bool := do
  if (← peek) == some c then
    let _ ← next
    return true
  else return false

/-- Take a line end if one comes next. A carriage return must come with a line feed. -/
def newline? : Scan Bool := do
  match ← rest with
  | '\n' :: _ => take 1 *> return true
  | '\r' :: '\n' :: _ => take 2 *> return true
  | '\r' :: _ => fail
  | _ => return false

/-- Run a step, and say which bytes it took. -/
def located {α : Type} (step : Scan α) : Scan (Located α) := do
  let start ← offset
  let value ← step
  return ⟨⟨start, ← offset⟩, value⟩

end Scan

/-! ## Blanks and comments -/

/-- Spaces and tabs. -/
def isMargin (c : Char) : Bool := c == ' ' || c == '\t'

/-- Control characters other than the tab. -/
def isControl (c : Char) : Bool := (c.toNat < 0x20 && c != '\t') || c.toNat == 0x7F

/-- Skip spaces and tabs. -/
def skipMargin : Scan Unit := do
  let _ ← Scan.takeWhile isMargin

/-- Skip a comment if one comes next. -/
def skipComment : Scan Unit := do
  if ← Scan.char? '#' then
    let _ ← Scan.takeWhile fun c => !isControl c

/-- Skip blanks, comments and line ends. -/
def skipFiller : (fuel : Nat) → Scan Unit
  | 0 => Scan.fail
  | fuel + 1 => do
    skipMargin
    skipComment
    if ← Scan.newline? then skipFiller fuel

/-- Skip what may stand behind a definition, up to the end of its line. -/
def skipToLineEnd : Scan Unit := do
  skipMargin
  skipComment
  if !(← Scan.newline?) then Scan.check (← Scan.rest).isEmpty

/-! ## Texts -/

/-- The character with a number, unless there is none. -/
def charOf? (n : Nat) : Option Char := if n.isValidChar then some (Char.ofNat n) else none

/-- A character that is written as hexadecimal digits. -/
def numbered (digits : Nat) : Scan Char := do
  let written ← Scan.take digits
  Scan.check (written.all (isDigitTo 16))
  match charOf? (valueTo 16 written) with
  | some c => return c
  | none => Scan.fail

/-- What stands behind a backslash. -/
def escaped : Scan Char := do
  let c ← Scan.next
  if c = 'b' then return '\x08'
  else if c = 't' then return '\t'
  else if c = 'n' then return '\n'
  else if c = 'f' then return '\x0c'
  else if c = 'r' then return '\r'
  else if c = 'e' then return '\x1b'
  else if c = '\x22' || c = '\\' then return c
  else if c = 'x' then numbered 2
  else if c = 'u' then numbered 4
  else if c = 'U' then numbered 8
  else Scan.fail

/-- The rest of a text on one line that ends with `quote`. What was read is kept backwards. -/
def lineText (quote : Char) (done : List Char) : (fuel : Nat) → Scan String
  | 0 => Scan.fail
  | fuel + 1 => do
    let c ← Scan.next
    if c = quote then return String.ofList done.reverse
    else if c = '\\' && quote = '\x22' then lineText quote ((← escaped) :: done) fuel
    else if isControl c then Scan.fail
    else lineText quote (c :: done) fuel

/-- Whether a line end follows, with nothing but a margin before it. -/
def lineEnds (rest : List Char) : Bool :=
  match rest.dropWhile isMargin with
  | '\n' :: _ => true
  | '\r' :: '\n' :: _ => true
  | _ => false

/-- Skip margins and line ends. -/
def skipLines : (fuel : Nat) → Scan Unit
  | 0 => Scan.fail
  | fuel + 1 => do
    skipMargin
    if ← Scan.newline? then skipLines fuel

/-- The length of the run of `c` at the head of a text. -/
def runOf (c : Char) (rest : List Char) : Nat := (rest.takeWhile (· == c)).length

/-- The rest of a text on several lines, which ends with three of `quote`. Up to two more
belong to the text. A backslash at the end of a line hides the line end and the margin
after it. -/
def blockText (quote : Char) (done : List Char) : (fuel : Nat) → Scan String
  | 0 => Scan.fail
  | fuel + 1 => do
    let rest ← Scan.rest
    let quotes := min (runOf quote rest) 5
    if 3 ≤ quotes then
      let _ ← Scan.take quotes
      return String.ofList (List.replicate (quotes - 3) quote ++ done).reverse
    else
      let c ← Scan.next
      if c = '\\' && quote = '\x22' then
        if lineEnds (← Scan.rest) then
          skipLines (← Scan.fuel)
          blockText quote done fuel
        else blockText quote ((← escaped) :: done) fuel
      else if c = '\r' then
        Scan.char '\n'
        blockText quote ('\n' :: '\r' :: done) fuel
      else if isControl c && c != '\n' then Scan.fail
      else blockText quote (c :: done) fuel

/-- A text that begins with `quote`. -/
def quotedText (quote : Char) : Scan String := do
  if runOf quote (← Scan.rest) ≥ 3 then
    let _ ← Scan.take 3
    let _ ← Scan.newline?
    blockText quote [] (← Scan.fuel)
  else
    let _ ← Scan.next
    lineText quote [] (← Scan.fuel)

/-! ## Keys -/

/-- The characters of a key without quotes. -/
def isKeyChar (c : Char) : Bool :=
  (c.isAlphanum && c.toNat < 0x80) || c == '_' || c == '-'

def keyPart : Scan (Located String) := Scan.located do
  match ← Scan.peek with
  | some '\x22' => Scan.next *> (do lineText '\x22' [] (← Scan.fuel))
  | some '\x27' => Scan.next *> (do lineText '\x27' [] (← Scan.fuel))
  | _ =>
    let word ← Scan.takeWhile isKeyChar
    Scan.check !word.isEmpty
    return String.ofList word

/-- The further parts of a key, parted by dots. -/
def keyParts : (fuel : Nat) → Scan (List (Located String))
  | 0 => Scan.fail
  | fuel + 1 => do
    skipMargin
    if ← Scan.char? '.' then
      skipMargin
      let part ← keyPart
      return part :: (← keyParts fuel)
    else return []

/-- A key: the parts before the last, and the last. -/
def key : Scan (List (Located String) × Located String) := do
  let first ← keyPart
  let others ← keyParts (← Scan.fuel)
  let parts := first :: others
  return (parts.dropLast, parts.getLastD first)

end QuizCompiler.Toml
