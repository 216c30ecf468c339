import Stepwise.Document.Playbook
import Stepwise.Document.Mismatch

/-!
# Playbooks from documents

Every field may be left out, fields of other names are passed over, and the flags of a step accept the
usual words.
-/

set_option autoImplicit false

namespace Stepwise

/-- The truth value that a flag of a step stands for: the usual words in any case, else whether the value
counts as true. -/
def Value.looseFlag (value : Value) : Bool :=
  match value with
  | .text s =>
    let word := (Text.trim s.toList).map Char.toLower
    if ["true", "yes", "on", "1"].any fun known => known.toList == word then true
    else if ["false", "no", "off", "0", ""].any fun known => known.toList == word then false
    else value.isTruthy
  | _ => value.isTruthy

namespace Step

/-- The parameters of a step; null means none. -/
def readParams (node : Node) : Except Mismatch Fields := do
  match ← node.any with
  | .null => return []
  | .record fields => return fields
  | other => .error (.paramsNotMapping other)

/-- The guard of a step. -/
def readGuard (node : Node) : Except Mismatch StepGuard :=
  match node.value? with
  | some (.flag holds) => .ok (.fixed holds)
  | some (.text text) => .ok (.expression text)
  | _ => .error .noGuard

/-- The names of the fields of a step, in order. -/
def fieldNames : List String :=
  ["name", "action", "params", "when", "register", "track_result", "ignore_errors"]

/-- Reads a field of a step. -/
def readField (step : Step) (name : String) (node : Node) : Except Mismatch Step :=
  match name with
  | "name" => (node.optional Node.text).map fun name => { step with name }
  | "action" => (node.optional Node.text).map fun action => { step with action }
  | "params" => (readParams node).map fun params => { step with params }
  | "when" => (node.optional readGuard).map fun guard => { step with guard }
  | "register" => (node.optional Node.text).map fun register => { step with register }
  | "track_result" => node.any.map fun value => { step with trackResult := value.looseFlag }
  | "ignore_errors" => node.any.map fun value => { step with ignoreErrors := value.looseFlag }
  | _ => .ok step

/-- What is asked for of a step. -/
def wanted : Wanted := .fields (fieldNames.map fun name => (name, .everything))

/-- Reads a step. -/
def ofNode (node : Node) : Except Mismatch Step :=
  (node.structured "Step" fieldNames readField blank).map Prod.fst

end Step

namespace Playbook

/-- The names of the fields of a playbook, in order. -/
def fieldNames : List String := ["name", "description", "config", "steps"]

/-- Reads a field of a playbook. -/
def readField (playbook : Playbook) (name : String) (node : Node) : Except Mismatch Playbook :=
  match name with
  | "name" => (node.optional Node.text).map fun name => { playbook with name }
  | "description" => (node.optional Node.text).map fun description => { playbook with description }
  | "config" => node.fields.map fun config => { playbook with config }
  | "steps" => do
    let steps ← (← node.items).mapM Step.ofNode
    return { playbook with steps }
  | _ => .ok playbook

/-- What is asked for of a playbook. -/
def wanted : Wanted :=
  .fields (fieldNames.map fun name => (name, if name == "steps" then .items Step.wanted else .everything))

/-- Reads a playbook. -/
def ofNode (node : Node) : Except Mismatch Playbook :=
  (node.structured "Playbook" fieldNames readField blank).map Prod.fst

end Playbook

end Stepwise
