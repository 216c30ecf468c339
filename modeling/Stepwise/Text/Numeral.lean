import Stepwise.Text.Blank
import Stepwise.Number.Binary64

/-!
# Numerals

Texts that stand for numbers: counts and whole numbers of 64 bits with an optional sign, and real
numbers in decimal notation, where also infinities and the undefined number have a spelling.
-/

set_option autoImplicit false

namespace Stepwise.Text

/-- The value of a run of decimal digits; none if it is empty or holds anything else. -/
def digits? (text : List Char) : Option Nat :=
  if text.isEmpty then none
  else
    text.foldl
      (fun total c => total.bind fun n => if c.isDigit then some (10 * n + (c.toNat - 48)) else none)
      (some 0)

/-- The greatest count of 64 bits. -/
def maxCount : Nat := Nat.pow 2 64 - 1

/-- A count of 64 bits: digits, which a plus may precede. -/
def count? (text : List Char) : Option Nat :=
  let unsigned := match text with
    | '+' :: rest => rest
    | _ => text
  (digits? unsigned).filter (· ≤ maxCount)

/-- A whole number of 64 bits with sign: digits, which a plus or a minus may precede. -/
def integer? (text : List Char) : Option Int :=
  match text with
  | '-' :: rest => (digits? rest).bind fun n => if n ≤ Nat.pow 2 63 then some (-(n : Int)) else none
  | '+' :: rest => (digits? rest).bind fun n => if n < Nat.pow 2 63 then some (n : Int) else none
  | _ => (digits? text).bind fun n => if n < Nat.pow 2 63 then some (n : Int) else none

/-- What a real numeral denotes. -/
inductive Real where
  | finite (value : Binary64)
  | infinite (negative : Bool)
  | undefined
deriving DecidableEq, Repr

/-- Digits and a point at most, as digits and the power of ten of the last. -/
def mantissa? (text : List Char) : Option (Nat × Int) :=
  let whole := text.takeWhile Char.isDigit
  match text.dropWhile Char.isDigit with
  | [] => (digits? whole).map fun n => (n, 0)
  | '.' :: places =>
    (digits? (whole ++ places)).map fun n => (n, -(places.length : Int))
  | _ => none

/-- Digits that a sign may precede. -/
def exponent? (text : List Char) : Option Int :=
  match text with
  | '-' :: rest => (digits? rest).map fun n => -(n : Int)
  | '+' :: rest => (digits? rest).map fun n => (n : Int)
  | _ => (digits? text).map fun n => (n : Int)

/-- A real numeral without sign. -/
def unsignedReal? (negative : Bool) (text : List Char) : Option Real :=
  let word := text.map Char.toLower
  if word = "inf".toList ∨ word = "infinity".toList then some (.infinite negative)
  else if word = "nan".toList then some .undefined
  else
    let front := text.takeWhile fun c => c != 'e' && c != 'E'
    let power := match text.dropWhile (fun c => c != 'e' && c != 'E') with
      | [] => some 0
      | _ :: rest => exponent? rest
    match mantissa? front, power with
    | some (digits, places), some power =>
      some (((Binary64.ofDecimal? negative digits (places + power)).map Real.finite).getD
        (.infinite negative))
    | _, _ => none

/-- A real numeral: an optional sign before digits with a point at most and an optional power of
ten, or one of the words for infinity and the undefined number in any case. -/
def real? (text : List Char) : Option Real :=
  match text with
  | '-' :: rest => unsignedReal? true rest
  | '+' :: rest => unsignedReal? false rest
  | _ => unsignedReal? false text

end Stepwise.Text
