import Stepwise.Value.Basic

/-!
# Phases of runs and outcomes of steps

How far a run is, and what became of a step, with their texts and their notation as values.
-/

set_option autoImplicit false

namespace Stepwise

/-- How far a run is. -/
inductive Phase where
  | idle
  | loading
  | running (step : Nat)
  | completed
  | failed
deriving DecidableEq, Repr

/-- What became of a step. -/
inductive StepStatus where
  | completed
  | skipped
  | failedIgnored
deriving DecidableEq, Repr

/-- The notation that names an alternative without content: its name, or a record of the name and
null. -/
def Value.alternative? (value : Value) : Option String :=
  match value with
  | .text name => some name
  | .record [(name, .null)] => some name
  | _ => none

namespace Phase

/-- The run has ended. -/
def isTerminal : Phase → Bool
  | .completed => true
  | .failed => true
  | _ => false

/-- The text of a phase. -/
def text : Phase → String
  | .idle => "idle"
  | .loading => "loading"
  | .running step => "running(" ++ toString step ++ ")"
  | .completed => "completed"
  | .failed => "failed"

/-- A phase as a value. -/
def toValue : Phase → Value
  | .running step => .object [("running", .count step)]
  | phase => .text phase.text

/-- The phase that a value stands for. -/
def ofValue? (value : Value) : Option Phase :=
  match value with
  | .record [("running", .number (.whole n))] => if 0 ≤ n then some (.running n.toNat) else none
  | _ =>
    value.alternative?.bind fun name =>
      [Phase.idle, .loading, .completed, .failed].find? fun phase => phase.text == name

end Phase

namespace StepStatus

/-- The text of an outcome. -/
def text : StepStatus → String
  | .completed => "completed"
  | .skipped => "skipped"
  | .failedIgnored => "failed_ignored"

/-- The outcome that a value stands for. -/
def ofValue? (value : Value) : Option StepStatus :=
  value.alternative?.bind fun name =>
    [StepStatus.completed, .skipped, .failedIgnored].find? fun status => status.text == name

end StepStatus

end Stepwise
