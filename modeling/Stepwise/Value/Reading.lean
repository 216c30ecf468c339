import Stepwise.Value.Basic
import Stepwise.Text.Numeral

/-!
# Values read as something else

Whether a value counts as true, how many items it has, and the count or the truth value that a number
or a text stands for.
-/

set_option autoImplicit false

namespace Stepwise

/-- The count of a number: whole numbers as they are, reals cut to their whole part and to 64 bits;
none of a negative number. -/
def Number.count? : Number → Option Nat
  | .whole n => if 0 ≤ n then some n.toNat else none
  | .real x => if x.negative && !x.isZero then none else some (min x.truncated Text.maxCount)

namespace Value

/-- Everything counts as true but null, false, zero and the empty text. -/
def isTruthy : Value → Bool
  | .null => false
  | .flag b => b
  | .number n => !n.isZero
  | .text s => !s.isEmpty
  | .list _ => true
  | .record _ => true

/-- An undefined value does not count as true. -/
def isTruthy? (v : Option Value) : Bool := v.any isTruthy

/-- The number of items of a list; zero of anything else. -/
def itemCount : Option Value → Nat
  | some (.list items) => items.length
  | _ => 0

/-- The count that a number or a numeral stands for. -/
def asCount? : Value → Option Nat
  | .number n => n.count?
  | .text s => Text.count? (Text.trim s.toList)
  | _ => none

/-- The truth value that a value stands for: a number that of not being zero, a text by the words
`true` and `false`, where no word means false. -/
def asFlag? : Value → Option Bool
  | .flag b => some b
  | .number n => some !n.isZero
  | .text s =>
    match Text.trimmed s with
    | "true" => some true
    | "false" => some false
    | "" => some false
    | _ => none
  | _ => none

end Value

end Stepwise
