import QuizCompiler.Decimal.Shortest
import QuizCompiler.Text.Digit

/-! # The values of JSON numbers

A number without a fraction or an exponent is an integer if it fits 64 bits. Any other is a
binary number. It is found quickly rather than exactly: the leading digits that fit
64 bits are rounded first, and are then multiplied or divided by a rounded power of ten.
-/

namespace QuizCompiler.Json

open Decimal Text

/-- The value of a number. -/
inductive Number
  | integer (value : Int)
  | real (negative : Bool) (value : Binary64)
deriving DecidableEq, Repr

namespace Number

/-- Digits taken so far, and the power of ten that they are to be multiplied by. -/
structure Significand where
  value : Nat
  exponent : Int
deriving DecidableEq, Repr

/-- Digits are taken as long as their number fits 64 bits. -/
def fits (value : Nat) : Bool := value < UInt64.size

/-- Take the digits before the point. Those that do not fit only count. -/
def takeWhole : List Char → Significand → Significand
  | [], taken => taken
  | c :: rest, taken =>
    let value := 10 * taken.value + valueTo 10 [c]
    if fits value then takeWhole rest ⟨value, taken.exponent⟩
    else ⟨taken.value, taken.exponent + (rest.length + 1)⟩

/-- Take the digits behind the point. Those that do not fit are ignored. -/
def takeFraction : List Char → Significand → Significand
  | [], taken => taken
  | c :: rest, taken =>
    let value := 10 * taken.value + valueTo 10 [c]
    if fits value then takeFraction rest ⟨value, taken.exponent - 1⟩ else taken

/-- A rounded power of ten. -/
def power (exponent : Nat) : Binary64 := (Binary64.ofDecimal? 1 exponent).getD .zero

/-- The rounded quotient of two numbers. -/
def divide (x y : Binary64) : Binary64 :=
  let (a, b) := x.quotient
  let (c, d) := y.quotient
  (Binary64.nearest? (a * d) (b * c)).getD .zero

/-- The rounded product of two numbers, unless it is too great. -/
def multiply? (x y : Binary64) : Option Binary64 :=
  let (a, b) := x.quotient
  let (c, d) := y.quotient
  Binary64.nearest? (a * c) (b * d)

/-- Bring a number to its power of ten. Powers below the table of powers take several
divisions. -/
def scaled? (x : Binary64) (exponent : Int) : (fuel : Nat) → Option Binary64
  | 0 => some .zero
  | fuel + 1 =>
    if x.mantissa = 0 then some .zero
    else if exponent < -308 then scaled? (divide x (power 308)) (exponent + 308) fuel
    else if exponent < 0 then some (divide x (power exponent.natAbs))
    else if exponent ≤ 308 then multiply? x (power exponent.natAbs)
    else none

def Significand.number? (taken : Significand) : Option Binary64 :=
  (Binary64.nearest? taken.value 1).bind fun x => scaled? x taken.exponent 4

/-- The parts of a number without its sign: the digits before the point and behind it, and the
exponent. -/
def parts (text : List Char) : List Char × Option (List Char) × Option Int :=
  let whole := text.takeWhile Char.isDigit
  let rest := text.dropWhile Char.isDigit
  let (fraction, rest) := match rest with
    | '.' :: rest => (some (rest.takeWhile Char.isDigit), rest.dropWhile Char.isDigit)
    | _ => (none, rest)
  let exponent := match rest with
    | _ :: '-' :: digits => some (-(valueTo 10 digits : Int))
    | _ :: '+' :: digits => some (valueTo 10 digits : Int)
    | _ :: digits => some (valueTo 10 digits : Int)
    | [] => none
  (whole, fraction, exponent)

/-- The value of a literal, unless it is too great. A negative zero is no integer. -/
def ofLiteral? (literal : String) : Option Number :=
  let (negative, unsigned) := match literal.toList with
    | '-' :: rest => (true, rest)
    | digits => (false, digits)
  let (whole, fraction, exponent) := parts unsigned
  let value := valueTo 10 whole
  if fraction.isNone && exponent.isNone && fits value &&
      (!negative || (0 < value && value ≤ UInt64.size / 2))
  then some (.integer (if negative then -value else value))
  else
    let taken := takeFraction (fraction.getD []) (takeWhole whole ⟨0, 0⟩)
    let taken := { taken with exponent := taken.exponent + exponent.getD 0 }
    taken.number?.map (.real negative)

/-- A number that is no integer is written with an exponent from 10^16 on and below 10^-5. -/
def style : Style := ⟨some (-4), some 16⟩

end Number

end QuizCompiler.Json
