import QuizCompiler.Toml.Scalar
import QuizCompiler.Toml.Scan
import QuizCompiler.Toml.Tree

/-! # Reading TOML

A text is read definition by definition. It denotes a table, or it is not well-formed.
-/

namespace QuizCompiler.Toml

open Data

/-! ## Values -/

/-- Lists and tables that are values may be nested this deep. -/
def deepest : Nat := 80

def isScalarChar (c : Char) : Bool :=
  isKeyChar c || c == '+' || c == '.' || c == ':'

/-- The characters of a scalar. A date and a time may be parted by a space. -/
def scalarText : Scan (List Char) := do
  let word ← Scan.takeWhile isScalarChar
  if afterDate? word == some [] then
    match ← Scan.rest with
    | ' ' :: c :: _ =>
      if c.isDigit then
        let _ ← Scan.next
        return word ++ ' ' :: (← Scan.takeWhile isScalarChar)
      else return word
    | _ => return word
  else return word

def scalar : Scan Datum := do
  match scalar? (← scalarText) with
  | some datum => return datum
  | none => Scan.fail

/-- The items of a list up to its end. -/
def listItems (value : Scan (Located Datum)) : (fuel : Nat) → Scan (List (Located Datum))
  | 0 => Scan.fail
  | fuel + 1 => do
    skipFiller (← Scan.fuel)
    if ← Scan.char? ']' then return []
    else
      let item ← value
      skipFiller (← Scan.fuel)
      if ← Scan.char? ',' then return item :: (← listItems value fuel)
      else
        Scan.char ']'
        return [item]

/-- Read one definition into a table. -/
def definition (value : Scan (Located Datum)) (members : Members) : Scan Members := do
  let (path, key) ← key
  Scan.char '='
  skipMargin
  match members.define path key (← value) with
  | some members => return members
  | none => Scan.fail

/-- The definitions of a table that is a value, up to its end. -/
def tableMembers (value : Scan (Located Datum)) (members : Members) : (fuel : Nat) → Scan Members
  | 0 => Scan.fail
  | fuel + 1 => do
    skipFiller (← Scan.fuel)
    if ← Scan.char? '\x7d' then return members
    else
      let members ← definition value members
      skipFiller (← Scan.fuel)
      if ← Scan.char? ',' then tableMembers value members fuel
      else
        Scan.char '\x7d'
        return members

/-- A value, in which lists and tables are nested at most `depth` deep. -/
def value : (depth : Nat) → Scan (Located Datum)
  | 0 => Scan.located do
    match ← Scan.peek with
    | some '\x22' => return .text (← quotedText '\x22')
    | some '\x27' => return .text (← quotedText '\x27')
    | _ => scalar
  | depth + 1 => Scan.located do
    match ← Scan.peek with
    | some '\x22' => return .text (← quotedText '\x22')
    | some '\x27' => return .text (← quotedText '\x27')
    | some '[' => Scan.next *> (do return .list (← listItems (value depth) (← Scan.fuel)))
    | some '\x7b' =>
      Scan.next *> (do
        let members ← tableMembers (value depth) [] (← Scan.fuel)
        return .table (membersToData members))
    | _ => scalar

/-! ## Documents -/

/-- A header. -/
structure Header where
  path : List (Located String)
  key : Located String
  span : Span
  /-- Whether its table is one of a list. -/
  repeated : Bool
deriving DecidableEq, Repr

/-- A document that is being read. -/
structure Reading where
  root : Members
  /-- The table that definitions go to, which is kept apart from the root. -/
  current : Members
  /-- The header of the current table, unless it is the root. -/
  header : Option Header
deriving Repr

namespace Reading

/-- Put the current table into the root. -/
def settle (reading : Reading) : Option Members :=
  match reading.header with
  | none => some reading.current
  | some header =>
    if header.repeated then
      reading.root.append header.path header.key header.span reading.current
    else reading.root.close header.path header.key header.span reading.current

/-- Begin the table of a header. -/
def enter (reading : Reading) (header : Header) : Option Reading := do
  let root ← reading.settle
  if header.repeated then return ⟨root, [], some header⟩
  else
    let (current, root) ← root.reopen header.path header.key.value
    return ⟨root, current, some header⟩

end Reading

def header : Scan Header := do
  let head ← Scan.located do
    Scan.char '['
    let repeated ← Scan.char? '['
    skipMargin
    let (path, key) ← key
    Scan.char ']'
    if repeated then Scan.char ']'
    return (path, key, repeated)
  let (path, key, repeated) := head.value
  return ⟨path, key, head.span, repeated⟩

def lines (reading : Reading) : (fuel : Nat) → Scan Reading
  | 0 => Scan.fail
  | fuel + 1 => do
    skipFiller (← Scan.fuel)
    match ← Scan.peek with
    | none => return reading
    | some '[' =>
      let head ← header
      skipToLineEnd
      match reading.enter head with
      | some reading => lines reading fuel
      | none => Scan.fail
    | some _ =>
      let current ← definition (value deepest) reading.current
      skipToLineEnd
      lines { reading with current } fuel

/-- The table that a document denotes. A byte order mark at its head is skipped. -/
def document : Scan (Located Datum) := Scan.located do
  let _ ← Scan.char? '\ufeff'
  let reading ← lines ⟨[], [], none⟩ (← Scan.fuel)
  match reading.settle with
  | some members => return .table (membersToData members)
  | none => Scan.fail

/-- Read a document. -/
def read (text : String) : Option (Located Datum) :=
  (document.run ⟨0, text.toList⟩).map Prod.fst

mutual

def fitsWord : Datum → Bool
  | .integer value => Int64.minValue.toInt ≤ value && value ≤ Int64.maxValue.toInt
  | .list items => itemsFitWord items
  | .table members => membersFitWord members
  | _ => true

/-- Whether all integers of items fit 64 bits. -/
def itemsFitWord : List (Located Datum) → Bool
  | [] => true
  | ⟨_, datum⟩ :: items => fitsWord datum && itemsFitWord items

/-- Whether all integers of members fit 64 bits. -/
def membersFitWord : List (Located String × Located Datum) → Bool
  | [] => true
  | (_, ⟨_, datum⟩) :: members => fitsWord datum && membersFitWord members

end

end QuizCompiler.Toml
