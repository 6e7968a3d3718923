/-! # Binary numbers of 64 bits

The finite numbers that a 64-bit binary format holds, without their sign, and the
nearest of them to a quotient. All arithmetic is exact.
-/

namespace QuizCompiler.Decimal

/-- The number `mantissa * 2^scale`. The mantissa has at most 53 digits, and exactly so
many unless the scale is the least. -/
structure Binary64 where
  mantissa : Nat
  scale : Int
deriving DecidableEq, Repr

namespace Binary64

def leastScale : Int := -1074

def greatestScale : Int := 971

def zero : Binary64 := ⟨0, leastScale⟩

/-- A quotient multiplied by a power of two, as a quotient. -/
def shift (num den : Nat) (places : Int) : Nat × Nat :=
  if 0 ≤ places then (num <<< places.toNat, den) else (num, den <<< (-places).toNat)

/-- The integer nearest to a quotient; a tie goes to the even one. -/
def roundDiv (num den : Nat) : Nat :=
  let floor := num / den
  let rest := num % den
  if den < 2 * rest || (den = 2 * rest && floor % 2 = 1) then floor + 1 else floor

/-- The greatest `e` with `2^e` at most the quotient of two positive numbers. -/
def binaryExponent (num den : Nat) : Int :=
  let guess : Int := (num.log2 : Int) - den.log2
  let (num, den) := shift num den (-guess)
  if num < den then guess - 1 else guess

/-- The number nearest to `num / den`; a tie goes to the even mantissa. There is none
beyond the greatest. -/
def nearest? (num den : Nat) : Option Binary64 :=
  if num = 0 || den = 0 then some zero
  else
    let scale := max (binaryExponent num den - 52) leastScale
    let (num, den) := shift num den (-scale)
    let mantissa := roundDiv num den
    let rounded : Binary64 :=
      if mantissa = 1 <<< 53 then ⟨1 <<< 52, scale + 1⟩ else ⟨mantissa, scale⟩
    if rounded.scale ≤ greatestScale then some rounded else none

/-- The number as a quotient. -/
def quotient (x : Binary64) : Nat × Nat := shift x.mantissa 1 x.scale

/-- The number nearest to `digits * 10^exponent`. Exponents that lie beyond all numbers are not
computed with. -/
def ofDecimal? (digits : Nat) (exponent : Int) : Option Binary64 :=
  if digits = 0 || exponent < -400 - (digits.log2 : Int) then some zero
  else if 400 < exponent then none
  else if 0 ≤ exponent then nearest? (digits * Nat.pow 10 exponent.toNat) 1
  else nearest? digits (Nat.pow 10 (-exponent).toNat)

end Binary64

end QuizCompiler.Decimal
