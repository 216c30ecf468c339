import Stepwise.Table
import Stepwise.Number.Binary64

/-!
# Values

The data that playbooks carry: null, truth values, numbers, texts, lists, and records, whose fields
are a table. Whole numbers and real numbers are different values, so `1` is not `1.0`.
-/

set_option autoImplicit false

namespace Stepwise

/-- A number is a whole number of 64 bits, with or without sign, or a finite real number. -/
inductive Number where
  | whole (n : Int)
  | real (x : Binary64)
deriving DecidableEq, Repr

/-- A piece of data. -/
inductive Value where
  | null
  | flag (b : Bool)
  | number (n : Number)
  | text (s : String)
  | list (items : List Value)
  | record (fields : List (String × Value))

/-- The fields of a record. -/
abbrev Fields : Type := Table Value

namespace Number

/-- The least and the greatest whole number that is kept as such. -/
def leastWhole : Int := -(Nat.pow 2 63 : Int)
/-- The greatest whole number a value can hold, the last of 64 bits. -/
def greatestWhole : Int := (Nat.pow 2 64 : Int) - 1

/-- Two numbers agree if they are of one kind and numerically equal. -/
def agrees : Number → Number → Bool
  | .whole m, .whole n => m == n
  | .real x, .real y => x.agrees y
  | _, _ => false

/-- A number is zero, whole or real. -/
def isZero : Number → Bool
  | .whole n => n == 0
  | .real x => x.isZero

end Number

namespace Value

/-- The default value is null. -/
instance : Inhabited Value := ⟨.null⟩

/-- A count as a value. -/
def count (n : Nat) : Value := .number (.whole n)

/-- A record of the given entries; of two entries of one name the later stays. -/
def object (entries : List (String × Value)) : Value := .record (Table.ofList entries)

mutual

/-- Two values agree if they are of one kind, numbers numerically equal, texts the same, lists item
by item, and records name by name. -/
def agrees : Value → Value → Bool
  | .null, .null => true
  | .flag a, .flag b => a == b
  | .number m, .number n => m.agrees n
  | .text s, .text t => s == t
  | .list xs, .list ys => agreesList xs ys
  | .record xs, .record ys => agreesFields xs ys
  | _, _ => false

/-- Agreement of lists, item by item. -/
def agreesList : List Value → List Value → Bool
  | [], [] => true
  | x :: xs, y :: ys => x.agrees y && agreesList xs ys
  | _, _ => false

/-- Agreement of tables, entry by entry. -/
def agreesFields : List (String × Value) → List (String × Value) → Bool
  | [], [] => true
  | (a, x) :: xs, (b, y) :: ys => a == b && x.agrees y && agreesFields xs ys
  | _, _ => false

end

/-- The text of a text value. -/
def asText? : Value → Option String
  | .text s => some s
  | _ => none

/-- The fields of a record. -/
def asFields? : Value → Option Fields
  | .record fields => some fields
  | _ => none

/-- The items of a list. -/
def asList? : Value → Option (List Value)
  | .list items => some items
  | _ => none

end Value

end Stepwise
