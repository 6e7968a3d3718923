import QuizCompiler.Data.Datum
import QuizCompiler.Decimal.Shortest
import QuizCompiler.Text.Digit

/-! # Scalars

The values that are written without quotes or brackets: truth values, numbers, dates and
times.
-/

namespace QuizCompiler.Toml

open Data Decimal Text

/-! ## Numbers -/

/-- Digits to a base, with single underscores between them. -/
def digits? (base : Nat) : List Char → Option (List Char)
  | [] => none
  | [c] => if isDigitTo base c then some [c] else none
  | c :: '_' :: rest => if isDigitTo base c then (digits? base rest).map (c :: ·) else none
  | c :: rest => if isDigitTo base c then (digits? base rest).map (c :: ·) else none

/-- Decimal digits that do not begin with a needless zero. -/
def wholeDigits? (text : List Char) : Option (List Char) :=
  match digits? 10 text with
  | some ('0' :: _ :: _) => none
  | digits => digits

/-- A sign, if there is one, and what follows it. -/
def splitSign (text : List Char) : Bool × List Char :=
  match text with
  | '-' :: rest => (true, rest)
  | '+' :: rest => (false, rest)
  | _ => (false, text)

/-- An integer in one of its four bases. Only the decimal one has a sign. -/
def integer? (text : List Char) : Option Int :=
  match text with
  | '0' :: 'x' :: rest => (digits? 16 rest).map fun digits => (valueTo 16 digits : Int)
  | '0' :: 'o' :: rest => (digits? 8 rest).map fun digits => (valueTo 8 digits : Int)
  | '0' :: 'b' :: rest => (digits? 2 rest).map fun digits => (valueTo 2 digits : Int)
  | _ =>
    let (negative, rest) := splitSign text
    (wholeDigits? rest).map fun digits =>
      if negative then -(valueTo 10 digits : Int) else (valueTo 10 digits : Int)

/-- Integers beyond 128 bits are refused. -/
def integerIsHeld (value : Int) : Bool :=
  if value < 0 then value.natAbs ≤ Nat.pow 2 127 else value.natAbs < Nat.pow 2 128

/-- Split a text at the first character that satisfies `p`, which is left out. -/
def splitAt? (p : Char → Bool) (text : List Char) : List Char × Option (List Char) :=
  match text.dropWhile (!p ·) with
  | _ :: rest => (text.takeWhile (!p ·), some rest)
  | [] => (text, none)

def exponent? (text : List Char) : Option Int :=
  let (negative, rest) := splitSign text
  (digits? 10 rest).map fun digits =>
    if negative then -(valueTo 10 digits : Int) else (valueTo 10 digits : Int)

/-- A number with a fraction or an exponent is written with as many digits as it needs. -/
def realStyle : Style := ⟨none, none⟩

/-- A number with a fraction, an exponent, or both, as messages show it. -/
def decimal? (text : List Char) : Option String := do
  let (negative, rest) := splitSign text
  let (mantissa, exponent) := splitAt? (fun c => c == 'e' || c == 'E') rest
  let (whole, fraction) := splitAt? (· == '.') mantissa
  if exponent.isNone && fraction.isNone then none
  else
    let whole ← wholeDigits? whole
    let fraction ← match fraction with
      | some fraction => digits? 10 fraction
      | none => some []
    let exponent ← match exponent with
      | some exponent => exponent? exponent
      | none => some 0
    let value ← Binary64.ofDecimal? (valueTo 10 (whole ++ fraction)) (exponent - fraction.length)
    let sign := if negative then ['-'] else []
    return String.ofList (sign ++ realStyle.write value)

/-- A number that is none, or infinite, as messages show it. -/
def special? (text : List Char) : Option String :=
  match splitSign text with
  | (_, ['n', 'a', 'n']) => some "NaN"
  | (true, ['i', 'n', 'f']) => some "-inf"
  | (false, ['i', 'n', 'f']) => some "inf"
  | _ => none

/-! ## Dates and times -/

/-- A number of two digits that is at most `greatest`. -/
def twoDigits? (greatest : Nat) (tens ones : Char) : Option Nat :=
  let value := valueTo 10 [tens, ones]
  if tens.isDigit && ones.isDigit && value ≤ greatest then some value else none

def daysIn (year month : Nat) : Nat :=
  if month = 2 then if year % 4 = 0 && (year % 100 != 0 || year % 400 = 0) then 29 else 28
  else if month = 4 || month = 6 || month = 9 || month = 11 then 30
  else 31

/-- What follows the date at the head of a text. -/
def afterDate? (text : List Char) : Option (List Char) :=
  match text with
  | y₁ :: y₂ :: y₃ :: y₄ :: '-' :: m₁ :: m₂ :: '-' :: d₁ :: d₂ :: rest => do
    let century ← twoDigits? 99 y₁ y₂
    let year ← twoDigits? 99 y₃ y₄
    let month ← twoDigits? 12 m₁ m₂
    let day ← twoDigits? (daysIn (100 * century + year) month) d₁ d₂
    if 0 < month && 0 < day then some rest else none
  | _ => none

/-- What follows the fraction of a second, which may be absent. -/
def afterSubseconds? (text : List Char) : Option (List Char) :=
  match text with
  | '.' :: c :: rest => if c.isDigit then some (rest.dropWhile Char.isDigit) else none
  | '.' :: [] => none
  | _ => some text

/-- What follows the time at the head of a text. The seconds may be absent. -/
def afterTime? (text : List Char) : Option (List Char) :=
  match text with
  | h₁ :: h₂ :: ':' :: m₁ :: m₂ :: rest => do
    let _ ← twoDigits? 23 h₁ h₂
    let _ ← twoDigits? 59 m₁ m₂
    match rest with
    | ':' :: s₁ :: s₂ :: rest => do
      let _ ← twoDigits? 60 s₁ s₂
      afterSubseconds? rest
    | _ => some rest
  | _ => none

/-- Whether a text is nothing, or an offset from universal time. -/
def isOffset (text : List Char) : Bool :=
  match text with
  | [] => true
  | ['z'] => true
  | ['Z'] => true
  | [sign, h₁, h₂, ':', m₁, m₂] =>
    (sign == '+' || sign == '-') && (twoDigits? 23 h₁ h₂).isSome && (twoDigits? 59 m₁ m₂).isSome
  | _ => false

/-- Whether a text is a date, a time, or both. Only both together have an offset. -/
def isMoment (text : List Char) : Bool :=
  match afterDate? text with
  | some [] => true
  | some (c :: rest) =>
    (c == 'T' || c == 't' || c == ' ') && (afterTime? rest).any isOffset
  | none => afterTime? text == some []

def scalar? (text : List Char) : Option Datum :=
  if text = ['t', 'r', 'u', 'e'] then some (.bool true)
  else if text = ['f', 'a', 'l', 's', 'e'] then some (.bool false)
  else if isMoment text then some .moment
  else
    match integer? text with
    | some value => if integerIsHeld value then some (.integer value) else none
    | none => ((decimal? text).orElse fun _ => special? text).map .real

end QuizCompiler.Toml
