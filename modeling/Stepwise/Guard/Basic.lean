import Stepwise.Template.Path

/-!
# Guards

A guard decides whether a step runs. It tests whether the value of a path counts as true or how many
items a list has, and combines such tests. A path outside every namespace makes a test that never
holds, and a list that no path can name has no items.
-/

set_option autoImplicit false

namespace Stepwise

/-- How two whole numbers are compared. -/
inductive Comparison where
  | greater
  | greaterOrEqual
  | less
  | lessOrEqual
  | equal
  | notEqual
deriving DecidableEq, Repr

namespace Comparison

/-- Whether the comparison holds. -/
def holds (op : Comparison) (left right : Int) : Bool :=
  match op with
  | .greater => right < left
  | .greaterOrEqual => right ≤ left
  | .less => left < right
  | .lessOrEqual => left ≤ right
  | .equal => left == right
  | .notEqual => left != right

/-- The sign of a comparison. -/
def symbol : Comparison → String
  | .greater => ">"
  | .greaterOrEqual => ">="
  | .less => "<"
  | .lessOrEqual => "<="
  | .equal => "=="
  | .notEqual => "!="

/-- The comparison of a sign; equality may be written with one more `=`. -/
def ofSymbol? (text : String) : Option Comparison :=
  match text with
  | ">" => some .greater
  | ">=" => some .greaterOrEqual
  | "<" => some .less
  | "<=" => some .lessOrEqual
  | "==" => some .equal
  | "===" => some .equal
  | "!=" => some .notEqual
  | "!==" => some .notEqual
  | _ => none

/-- A comparison is read back from its sign. -/
theorem ofSymbol?_symbol (op : Comparison) : ofSymbol? op.symbol = some op := by
  cases op <;> rfl

end Comparison

/-- A condition on the values in scope. -/
inductive Guard where
  | all (parts : List Guard)
  | any (parts : List Guard)
  | negated (inner : Guard)
  | length (path : Path) (op : Comparison) (bound : Int)
  | unresolvedLength (text : String) (op : Comparison) (bound : Int)
  | truthy (path : Path)
  | unknown (text : String)

/-- Why a condition cannot be read. -/
inductive GuardError where
  | empty
  | unknownOperator (text : String)
  | invalidComparison (text : String)
  | path (error : TemplateError)
deriving DecidableEq, Repr

/-- The wording of a guard error. -/
def GuardError.message : GuardError → String
  | .empty => "empty condition"
  | .unknownOperator text => "unsupported comparison operator '" ++ text ++ "'"
  | .invalidComparison text => "invalid length comparison '" ++ text ++ "'"
  | .path error => error.message

end Stepwise
