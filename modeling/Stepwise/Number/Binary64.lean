/-!
# Finite binary64 numbers

A finite number of the binary interchange format with 64 bits, as a sign, a whole mantissa and a
power of two. Every operation is exact arithmetic on natural numbers followed by one rounding to
nearest, a tie going to the even neighbour.
-/

set_option autoImplicit false

namespace Stepwise

/-- The quotient of two natural numbers to the nearest whole number, a tie going to the even one. -/
def roundDiv (num den : Nat) : Nat :=
  let whole := num / den
  let twice := 2 * (num % den)
  if twice < den then whole
  else if den < twice then whole + 1
  else if whole % 2 = 0 then whole else whole + 1

/-- The number `± mantissa * 2 ^ exponent`. -/
structure Binary64 where
  negative : Bool
  mantissa : Nat
  exponent : Int
deriving DecidableEq, Repr

namespace Binary64

/-- The least power of two a mantissa is scaled by. -/
def minExponent : Int := -1074

/-- The greatest power of two a mantissa is scaled by. -/
def maxExponent : Int := 971

/-- Zero, with a sign. -/
def zero (negative : Bool) : Binary64 := ⟨negative, 0, minExponent⟩

/-- The fraction `num / den` divided by a power of two, as a fraction again. -/
def scaleDown (num den : Nat) (exponent : Int) : Nat × Nat :=
  if 0 ≤ exponent then (num, den * Nat.pow 2 exponent.toNat) else (num * Nat.pow 2 (-exponent).toNat, den)

/-- The number nearest to the fraction `± num / den`; none if that lies beyond the greatest one. -/
def nearest? (negative : Bool) (num den : Nat) : Option Binary64 :=
  if num = 0 then some (zero negative)
  else
    let guess : Int := (num.log2 : Int) - den.log2 - 53
    let first := scaleDown num den guess
    let exponent := max (if first.1 / first.2 < Nat.pow 2 53 then guess else guess + 1) minExponent
    let scaled := scaleDown num den exponent
    let mantissa := roundDiv scaled.1 scaled.2
    let result : Binary64 :=
      if mantissa = Nat.pow 2 53 then ⟨negative, Nat.pow 2 52, exponent + 1⟩
      else ⟨negative, mantissa, exponent⟩
    if maxExponent < result.exponent then none else some result

/-- The number nearest to a natural number, when that is not beyond the greatest one. -/
def ofNat? (n : Nat) : Option Binary64 := nearest? false n 1

/-- The number nearest to `± digits * 10 ^ power`. Powers that decide the answer alone are not
computed. -/
def ofDecimal? (negative : Bool) (digits : Nat) (power : Int) : Option Binary64 :=
  let places : Int := (Nat.toDigits 10 digits).length + power
  if digits = 0 ∨ places < -330 then some (zero negative)
  else if 310 < places then none
  else if 0 ≤ power then nearest? negative (digits * Nat.pow 10 power.toNat) 1
  else nearest? negative digits (Nat.pow 10 (-power).toNat)

/-- The absolute value as a fraction. -/
def fraction (x : Binary64) : Nat × Nat := scaleDown x.mantissa 1 (-x.exponent)

/-- The number is zero, of either sign. -/
def isZero (x : Binary64) : Bool := x.mantissa == 0

/-- The number is greater than zero. -/
def isPositive (x : Binary64) : Bool := !x.negative && !x.isZero

/-- The whole part of the absolute value. -/
def truncated (x : Binary64) : Nat := x.fraction.1 / x.fraction.2

/-- Numeric equality: the two zeros are equal. -/
def agrees (x y : Binary64) : Bool := (x.isZero && y.isZero) || x == y

/-- The sum of two numbers that are not negative. -/
def addNonneg? (x y : Binary64) : Option Binary64 :=
  let (a, b) := x.fraction
  let (c, d) := y.fraction
  nearest? false (a * d + c * b) (b * d)

/-- The product of two numbers that are not negative, if it is not beyond the greatest one. -/
def timesNonneg? (x y : Binary64) : Option Binary64 :=
  let (a, b) := x.fraction
  let (c, d) := y.fraction
  nearest? false (a * c) (b * d)

/-- A number that is not negative divided by a positive one, if that is not beyond the greatest one. -/
def overPositive? (x y : Binary64) : Option Binary64 :=
  let (a, b) := x.fraction
  let (c, d) := y.fraction
  nearest? false (a * d) (b * c)

/-- The greatest power of ten that some number is near to. -/
def greatestPower : Nat := 308

/-- The number nearest to a power of ten up to the greatest. -/
def powerOfTen? (power : Nat) : Option Binary64 :=
  if power ≤ greatestPower then nearest? false (Nat.pow 10 power) 1 else none

/-- A number that is not negative divided some times by a positive one. Zero stays as it is. -/
def lowered? (x step : Binary64) : Nat → Option Binary64
  | 0 => some x
  | count + 1 => if x.isZero then some x else (x.overPositive? step).bind fun y => lowered? y step count

/-- The number near to `digits * 10 ^ power` that comes of a step by step reckoning: the nearest number to
the digits is multiplied or divided by the nearest one to the power of ten, with a rounding at each step.
A power below the least is split into steps of the greatest and a rest. -/
def scaled? (digits : Nat) (power : Int) : Option Binary64 := do
  let x ← ofNat? digits
  if x.isZero then return x
  if 0 ≤ power then (powerOfTen? power.toNat).bind x.timesNonneg?
  else
    let below := (-power).toNat
    let count := (below - 1) / greatestPower
    let lower ← x.lowered? (← powerOfTen? greatestPower) count
    lower.overPositive? (← powerOfTen? (below - greatestPower * count))

/-- One divided by a positive number. -/
def reciprocal? (x : Binary64) : Option Binary64 := nearest? false x.fraction.2 x.fraction.1

/-- The absolute value to a fixed number of decimal places, the exact value rounded once. -/
def fixed (places : Nat) (x : Binary64) : String :=
  let units := roundDiv (x.fraction.1 * Nat.pow 10 places) x.fraction.2
  let tail := Nat.toDigits 10 (units % Nat.pow 10 places)
  let padding := List.replicate (places - tail.length) '0'
  toString (units / Nat.pow 10 places) ++ "." ++ String.ofList (padding ++ tail)

end Binary64

end Stepwise
