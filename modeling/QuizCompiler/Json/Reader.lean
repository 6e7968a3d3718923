import QuizCompiler.Json.Value
import QuizCompiler.Text.Digit

/-! # Reading JSON

The reader takes exactly the texts of the grammar. Every step returns what it leaves of
the text. Values are read with fuel, since a value may hold values; twice the length of
the text is enough.
-/

namespace QuizCompiler.Json

open Text

/-- The blanks between the parts of a value. -/
def isJsonBlank (c : Char) : Bool := c == ' ' || c == '\n' || c == '\r' || c == '\t'

def skipBlank (text : List Char) : List Char := text.dropWhile isJsonBlank

/-! ## Texts -/

/-- The number that four hexadecimal digits denote. -/
def fourDigits? (a b c d : Char) : Option Nat :=
  if [a, b, c, d].all (isDigitTo 16) then some (valueTo 16 [a, b, c, d]) else none

/-- The character that a backslash and `c` stand for. -/
def escapeTarget? (c : Char) : Option Char :=
  if c = '\x22' || c = '\\' || c = '/' then some c
  else if c = 'b' then some '\x08'
  else if c = 'f' then some '\x0c'
  else if c = 'n' then some '\n'
  else if c = 'r' then some '\r'
  else if c = 't' then some '\t'
  else none

/-- What a number in an escape makes of a half pair that came before it: a half pair, or
a character. A pair must be complete. -/
def joinUnit? (high : Option Nat) (unit : Nat) : Option (Nat ⊕ Char) :=
  let isHigh := 0xD800 ≤ unit && unit < 0xDC00
  let isLow := 0xDC00 ≤ unit && unit < 0xE000
  match high with
  | some high =>
    if isLow then
      some (.inr (Char.ofNat (0x10000 + (high - 0xD800) * 0x400 + (unit - 0xDC00))))
    else none
  | none =>
    if isHigh then some (.inl unit) else if isLow then none else some (.inr (Char.ofNat unit))

/-- Read a text up to its closing quote. `done` holds what was read, backwards, and `high`
the half pair that must be completed next. -/
def readTextFrom (high : Option Nat) (done : List Char) : List Char → Option (String × List Char)
  | [] => none
  | '\\' :: 'u' :: a :: b :: c :: d :: rest =>
    match (fourDigits? a b c d).bind (joinUnit? high) with
    | some (.inl high) => readTextFrom (some high) done rest
    | some (.inr c) => readTextFrom none (c :: done) rest
    | none => none
  | '\\' :: c :: rest =>
    match high, escapeTarget? c with
    | none, some c => readTextFrom none (c :: done) rest
    | _, _ => none
  | c :: rest =>
    if high.isSome then none
    else if c = '\x22' then some (String.ofList done.reverse, rest)
    else if c = '\\' || c.toNat < 0x20 then none
    else readTextFrom none (c :: done) rest

/-- Read a text after its opening quote. -/
def readText (text : List Char) : Option (String × List Char) := readTextFrom none [] text

/-! ## Numbers -/

/-- What follows the digits at the head of a text, if there is one. -/
def afterDigits? (text : List Char) : Option (List Char) :=
  match text with
  | c :: rest => if c.isDigit then some (rest.dropWhile Char.isDigit) else none
  | [] => none

/-- What follows the whole part of a number. A zero stands alone. -/
def afterWhole? (text : List Char) : Option (List Char) :=
  match text with
  | '0' :: rest => some rest
  | _ => afterDigits? text

/-- What follows a fraction, which may be absent. -/
def afterFraction? (text : List Char) : Option (List Char) :=
  match text with
  | '.' :: rest => afterDigits? rest
  | _ => some text

/-- What follows an exponent, which may be absent. -/
def afterExponent? (text : List Char) : Option (List Char) :=
  match text with
  | e :: rest =>
    if e = 'e' || e = 'E' then
      match rest with
      | '+' :: rest => afterDigits? rest
      | '-' :: rest => afterDigits? rest
      | _ => afterDigits? rest
    else some text
  | [] => some text

/-- What follows the number at the head of a text. -/
def afterNumber? (text : List Char) : Option (List Char) := do
  let whole := match text with
    | '-' :: rest => rest
    | _ => text
  afterExponent? (← afterFraction? (← afterWhole? whole))

def isNumberChar (c : Char) : Bool := c.isDigit || ['+', '-', '.', 'e', 'E'].contains c

/-- Read a number. It takes all characters that occur in numbers, so these must be one. -/
def readNumber (source : List Char) : Option (Json × List Char) :=
  let literal := source.takeWhile isNumberChar
  if afterNumber? literal = some [] then
    some (.number (String.ofList literal), source.dropWhile isNumberChar)
  else none

/-! ## Values -/

mutual

def readValue : (fuel : Nat) → List Char → Option (Json × List Char)
  | 0, _ => none
  | fuel + 1, source =>
    match skipBlank source with
    | '\x22' :: rest => (readText rest).map fun (value, rest) => (.text value, rest)
    | '[' :: rest =>
      match skipBlank rest with
      | ']' :: rest => some (.list [], rest)
      | rest => (readItems fuel rest).map fun (items, rest) => (.list items, rest)
    | '\x7b' :: rest =>
      match skipBlank rest with
      | '\x7d' :: rest => some (.object [], rest)
      | rest => (readMembers fuel rest).map fun (members, rest) => (.object members, rest)
    | 't' :: 'r' :: 'u' :: 'e' :: rest => some (.bool true, rest)
    | 'f' :: 'a' :: 'l' :: 's' :: 'e' :: rest => some (.bool false, rest)
    | 'n' :: 'u' :: 'l' :: 'l' :: rest => some (.null, rest)
    | rest => readNumber rest

/-- Read the items of a list up to its end. -/
def readItems : (fuel : Nat) → List Char → Option (List Json × List Char)
  | 0, _ => none
  | fuel + 1, source =>
    match readValue fuel source with
    | some (item, rest) =>
      match skipBlank rest with
      | ',' :: rest => (readItems fuel rest).map fun (items, rest) => (item :: items, rest)
      | ']' :: rest => some ([item], rest)
      | _ => none
    | none => none

/-- Read the members of an object up to its end. -/
def readMembers : (fuel : Nat) → List Char → Option (List (String × Json) × List Char)
  | 0, _ => none
  | fuel + 1, source =>
    match skipBlank source with
    | '\x22' :: rest =>
      match readText rest with
      | some (key, rest) =>
        match skipBlank rest with
        | ':' :: rest =>
          match readValue fuel rest with
          | some (value, rest) =>
            match skipBlank rest with
            | ',' :: rest =>
              (readMembers fuel rest).map fun (members, rest) => ((key, value) :: members, rest)
            | '\x7d' :: rest => some ([(key, value)], rest)
            | _ => none
          | none => none
        | _ => none
      | none => none
    | _ => none

end

/-- The value that a text denotes, if it is well-formed. -/
def read (source : String) : Option Json :=
  match readValue (2 * source.length + 2) source.toList with
  | some (value, rest) => if (skipBlank rest).isEmpty then some value else none
  | none => none

end QuizCompiler.Json
