import Stepwise.Action.Error
import Stepwise.Value.Reading

/-!
# Parameters

The parameters of an action, read as the kind of value it needs. A parameter that is null or the empty
text counts as not given.
-/

set_option autoImplicit false

namespace Stepwise

/-- Parameters, with the name of the action for error messages. -/
structure Params where
  action : String
  fields : Fields

namespace Params

/-- A parameter, if it is given. -/
def get? (p : Params) (key : String) : Option Value :=
  match Table.get? p.fields key with
  | none => none
  | some .null => none
  | some (.text s) => if s.isEmpty then none else some (.text s)
  | some value => some value

/-- A parameter that has to be given. -/
def required (p : Params) (key : String) : Except ActionError Value :=
  match p.get? key with
  | some value => .ok value
  | none => .error (.missingParam p.action key)

/-- A parameter, if it is a text. -/
def text? (p : Params) (key : String) : Option String := (p.get? key).bind Value.asText?

/-- A parameter that has to be a text. -/
def requiredText (p : Params) (key : String) : Except ActionError String :=
  match p.required key with
  | .error e => .error e
  | .ok (.text s) => .ok s
  | .ok _ => .error (.invalidParam p.action key .notText)

/-- A parameter that has to be a count, if it is given. -/
def count? (p : Params) (key : String) : Except ActionError (Option Nat) :=
  match p.get? key with
  | none => .ok none
  | some value =>
    match value.asCount? with
    | some n => .ok (some n)
    | none => .error (.invalidParam p.action key (.notCount value))

/-- A count, or the default if none is given. -/
def countOr (p : Params) (key : String) (default : Nat) : Except ActionError Nat :=
  (p.count? key).map (·.getD default)

/-- A truth value, or the default if the parameter stands for none. -/
def flagOr (p : Params) (key : String) (default : Bool) : Bool :=
  ((p.get? key).bind Value.asFlag?).getD default

/-- A parameter that has to be a record, if it is given. -/
def record? (p : Params) (key : String) : Except ActionError (Option Fields) :=
  match p.get? key with
  | none => .ok none
  | some (.record fields) => .ok (some fields)
  | some _ => .error (.invalidParam p.action key .notRecord)

/-- The value of a parameter as it is; null if there is none. -/
def raw (p : Params) (key : String) : Value := (Table.get? p.fields key).getD .null

end Params

end Stepwise
