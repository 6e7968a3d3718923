import QuizCompiler.Decimal.Binary64

/-! # Shortest decimal text

A binary number is written with the fewest digits that still read back as it, and of
those with the nearest. Formats differ in when they write an exponent.
-/

namespace QuizCompiler.Decimal

open Binary64

/-- The number `0.d₁d₂… * 10^point`, where the digits are those of `digits`. -/
structure Digits where
  digits : List Char
  point : Int
deriving DecidableEq, Repr

/-- The least `p` with the quotient below `10^p`, found by counting on from a number that
is not above it. -/
def decimalPoint (num den : Nat) (point : Int) : (fuel : Nat) → Int
  | 0 => point
  | fuel + 1 =>
    let below :=
      if 0 ≤ point then num < den * Nat.pow 10 point.toNat
      else num * Nat.pow 10 (-point).toNat < den
    if below then point else decimalPoint num den (point + 1) fuel

/-- The quotient counted in steps of `10^exponent`, as a quotient. -/
def inSteps (num den : Nat) (exponent : Int) : Nat × Nat :=
  if 0 ≤ exponent then (num, den * Nat.pow 10 exponent.toNat)
  else (num * Nat.pow 10 (-exponent).toNat, den)

/-- A quarter of the distance to the next number, as the unit in which the number and the ends of
the interval that reads back as it are counted. -/
def quarters (x : Binary64) : Nat × Nat × Nat :=
  let below := if x.mantissa = 1 <<< 52 && leastScale < x.scale then 1 else 2
  (4 * x.mantissa - below, 4 * x.mantissa, 4 * x.mantissa + 2)

/-- Of the two decimals with steps of `10^exponent` beside a number, the nearer one that
reads back as the number. -/
def onGrid? (x : Binary64) (exponent : Int) : Option Nat :=
  let (low, middle, high) := quarters x
  let (unitNum, unitDen) := shift 1 1 (x.scale - 2)
  let (num, den) := inSteps unitNum unitDen exponent
  let floor := middle * num / den
  let even := x.mantissa % 2 = 0
  let reads (candidate : Nat) : Bool :=
    if even then low * num ≤ candidate * den && candidate * den ≤ high * num
    else low * num < candidate * den && candidate * den < high * num
  let below := middle * num - floor * den
  let above := (floor + 1) * den - middle * num
  match reads floor, reads (floor + 1) with
  | true, true =>
    some (if below < above || (below = above && floor % 2 = 0) then floor else floor + 1)
  | true, false => some floor
  | false, true => some (floor + 1)
  | false, false => none

/-- The first grid that has a decimal, from `count` digits on. -/
def firstGrid (x : Binary64) (point : Int) (count : Nat) : (fuel : Nat) → Nat × Int
  | 0 => (0, 0)
  | fuel + 1 =>
    let exponent := point - count
    match onGrid? x exponent with
    | some value => (value, exponent)
    | none => firstGrid x point (count + 1) fuel

/-- The fewest digits that read back as a number other than zero. -/
def shortest (x : Binary64) : Digits :=
  let (num, den) := x.quotient
  let guess : Int := (binaryExponent num den * 30103) / 100000 - 1
  let point := decimalPoint num den guess 4
  let (value, exponent) := firstGrid x point 1 17
  let digits := Nat.toDigits 10 value
  let significant := (digits.reverse.dropWhile (· == '0')).reverse
  ⟨significant, exponent + digits.length⟩

/-- When numbers are written with an exponent: if the point stands further to the left or
to the right than these places. -/
structure Style where
  least : Option Int
  greatest : Option Int
deriving DecidableEq, Repr

/-- Digits with a point among, before or behind them; there is always a digit behind it. -/
def positional (d : Digits) : List Char :=
  if d.point ≤ 0 then ['0', '.'] ++ List.replicate (-d.point).toNat '0' ++ d.digits
  else
    let point := d.point.toNat
    let whole := d.digits.take point ++ List.replicate (point - d.digits.length) '0'
    let fraction := d.digits.drop point
    whole ++ '.' :: (if fraction.isEmpty then ['0'] else fraction)

/-- Digits with one before the point, and an exponent. -/
def scientific (d : Digits) : List Char :=
  let fraction := d.digits.drop 1
  d.digits.take 1 ++ (if fraction.isEmpty then [] else '.' :: fraction) ++
    'e' :: (toString (d.point - 1)).toList

/-- A number without its sign as a style writes it. -/
def Style.write (style : Style) (x : Binary64) : List Char :=
  if x.mantissa = 0 then ['0', '.', '0']
  else
    let d := shortest x
    if style.least.any (d.point < ·) || style.greatest.any (· < d.point) then scientific d
    else positional d

end QuizCompiler.Decimal
