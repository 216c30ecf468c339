import Stepwise.Guard.Parser
import Stepwise.Template.Resolution

/-!
# Evaluating guards

A guard without text always holds, and one that cannot be read never does.
-/

set_option autoImplicit false

namespace Stepwise.Guard

mutual

/-- Whether a guard holds in a scope. -/
def holds (scope : Scope) : Guard → Bool
  | .all parts => allHold scope parts
  | .any parts => anyHolds scope parts
  | .negated inner => !holds scope inner
  | .length path op bound =>
    op.holds (min (Value.itemCount (scope.lookup path)) (Nat.pow 2 63 - 1 : Int)) bound
  | .unresolvedLength _ op bound => op.holds 0 bound
  | .truthy path => Value.isTruthy? (scope.lookup path)
  | .unknown _ => false

/-- Every guard of a list holds. -/
def allHold (scope : Scope) : List Guard → Bool
  | [] => true
  | part :: rest => holds scope part && allHold scope rest

/-- Some guard of a list holds. -/
def anyHolds (scope : Scope) : List Guard → Bool
  | [] => false
  | part :: rest => holds scope part || anyHolds scope rest

end

/-- Whether the guard that a text spells holds. -/
def textHolds (scope : Scope) (text : String) : Bool :=
  match parse text.toList with
  | .ok guard => guard.holds scope
  | .error _ => false

end Stepwise.Guard
