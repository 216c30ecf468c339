import Stepwise.Number.Binary64

/-!
# The shortest decimal of a number

A decimal reads back as a number when it lies in the interval of values that round to it. `shortest`
looks at the grids of one, two, up to seventeen significant digits and takes the first on which a
neighbour of the number lies in its interval; of two such neighbours it takes the nearer, and of two
equally near ones the even one.
-/

set_option autoImplicit false

namespace Stepwise

/-- The number `digits * 10 ^ power`. -/
structure Decimal where
  digits : Nat
  power : Int
deriving DecidableEq, Repr

namespace Binary64

/-- The values that round to a number, with the number among them, all over one denominator. -/
structure Interval where
  low : Nat
  value : Nat
  high : Nat
  denominator : Nat
  closed : Bool

/-- The interval of values that round to the absolute value of a number other than zero. Below the
least mantissa of a binade the neighbours stand half as far apart. The ends belong to the interval
when the mantissa is even. -/
def interval (x : Binary64) : Interval :=
  let below := if x.mantissa = Nat.pow 2 52 ∧ minExponent < x.exponent then 1 else 2
  let unit := scaleDown 1 1 (2 - x.exponent)
  { low := (4 * x.mantissa - below) * unit.1
    value := 4 * x.mantissa * unit.1
    high := (4 * x.mantissa + 2) * unit.1
    denominator := unit.2
    closed := x.mantissa % 2 == 0 }

/-- The power of ten of the leading digit of the fraction `num / den`, which is not zero. -/
def leadingPower (num den : Nat) : Int :=
  if den ≤ num then (Nat.toDigits 10 (num / den)).length - 1
  else -((Nat.toDigits 10 ((den + num - 1) / num - 1)).length : Int)

/-- Whether `digits * num / den` lies in the interval. -/
def Interval.holds (i : Interval) (digits num den : Nat) : Bool :=
  let point := digits * num * i.denominator
  let low := i.low * den
  let high := i.high * den
  (low < point || (i.closed && low == point)) && (point < high || (i.closed && point == high))

/-- The decimal with `count` significant digits that rounds to the number, if there is one. -/
def onGrid? (i : Interval) (lead : Int) (count : Nat) : Option Decimal :=
  let power := lead - count + 1
  let (num, den) := scaleDown10 power
  let below := i.value * den / (num * i.denominator)
  let lowFits := i.holds below num den
  let highFits := i.holds (below + 1) num den
  if lowFits && highFits then
    let gapBelow := i.value * den - below * num * i.denominator
    let gapAbove := (below + 1) * num * i.denominator - i.value * den
    if gapBelow < gapAbove ∨ (gapBelow = gapAbove ∧ below % 2 = 0) then some ⟨below, power⟩
    else some ⟨below + 1, power⟩
  else if lowFits then some ⟨below, power⟩
  else if highFits then some ⟨below + 1, power⟩
  else none
where
  /-- The power of ten as a fraction. -/
  scaleDown10 (power : Int) : Nat × Nat :=
    if 0 ≤ power then (Nat.pow 10 power.toNat, 1) else (1, Nat.pow 10 (-power).toNat)

/-- The shortest decimal that reads back as the absolute value of a number other than zero. -/
def shortest (x : Binary64) : Decimal :=
  let i := x.interval
  let lead := leadingPower i.value i.denominator
  ((List.range 17).findSome? fun count => onGrid? i lead (count + 1)).getD ⟨x.truncated, 0⟩

/-- The decimal without the zeros its digits end with. -/
def Decimal.normal (d : Decimal) : List Char × Int :=
  let digits := Nat.toDigits 10 d.digits
  let kept := (digits.reverse.dropWhile (· == '0')).reverse
  (kept, d.power + (digits.length - kept.length : Nat))

/-- The text of a number. Its shortest digits are written out in place when the power of ten of the
first lies between `-5` and `15`, always with a digit after the point; else as one digit, the other
digits after a point, and the power with its sign. -/
def text (x : Binary64) : String :=
  let sign := if x.negative then "-" else ""
  if x.isZero then sign ++ "0.0"
  else
    let (digits, power) := Decimal.normal x.shortest
    let lead : Int := power + digits.length - 1
    if -5 ≤ lead ∧ lead < 16 then
      if lead < 0 then
        sign ++ "0." ++ String.ofList (List.replicate (-lead - 1).toNat '0' ++ digits)
      else
        let whole := digits.take (lead.toNat + 1)
        let rest := digits.drop (lead.toNat + 1)
        let padding := List.replicate (lead.toNat + 1 - whole.length) '0'
        sign ++ String.ofList (whole ++ padding) ++ "." ++
          (if rest.isEmpty then "0" else String.ofList rest)
    else
      let rest := digits.drop 1
      sign ++ String.ofList (digits.take 1) ++
        (if rest.isEmpty then "" else "." ++ String.ofList rest) ++
        (if lead < 0 then "e-" else "e+") ++ toString lead.natAbs

end Binary64

end Stepwise
