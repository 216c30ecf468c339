import Stepwise.Value.Basic

/-!
# Events of a run

A run tells what happens as it goes on. Every event has a kind and data about it.
-/

set_option autoImplicit false

namespace Stepwise

/-- What happens in a run. Steps are numbered from one; times are milliseconds. -/
inductive Event where
  | runStarted (runId playbook : String) (steps : Nat)
  | stepSkipped (number : Nat) (name : Option String)
  | stepStarted (number : Nat) (name action : String)
  | stepCompleted (number : Nat) (name : String) (duration : Nat)
  | stepFailed (number : Nat) (name error : String) (ignored : Bool) (duration : Nat)
  | runCompleted (runId : String) (completed skipped failedIgnored elapsed : Nat)
  | runFailed (runId : String) (step : Option String) (error : String)
  | loadFailed (error : String)
deriving DecidableEq, Repr

/-- The kind of an event and the data with it. -/
structure Notice where
  kind : String
  data : Option Value

/-- Notices in the order they came. -/
abbrev EventLog : Type := List Notice

namespace Event

/-- The kind of an event. -/
def kind : Event → String
  | .runStarted .. => "run.started"
  | .stepSkipped .. => "step.skipped"
  | .stepStarted .. => "step.started"
  | .stepCompleted .. => "step.completed"
  | .stepFailed .. => "step.failed"
  | .runCompleted .. => "run.completed"
  | .runFailed .. => "run.failed"
  | .loadFailed .. => "run.failed"

/-- The data of an event. -/
def data : Event → Value
  | .runStarted runId playbook steps =>
    .object [("run_id", .text runId), ("playbook", .text playbook), ("steps", .count steps)]
  | .stepSkipped number none =>
    .object [("index", .count number), ("reason", .text "missing name or action")]
  | .stepSkipped number (some name) =>
    .object [("index", .count number), ("step", .text name), ("reason", .text "condition not met")]
  | .stepStarted number name action =>
    .object [("index", .count number), ("step", .text name), ("action", .text action)]
  | .stepCompleted number name duration =>
    .object [("index", .count number), ("step", .text name), ("duration_ms", .count duration)]
  | .stepFailed number name error ignored duration =>
    .object [("index", .count number), ("step", .text name), ("error", .text error),
      ("ignored", .flag ignored), ("duration_ms", .count duration)]
  | .runCompleted runId completed skipped failedIgnored elapsed =>
    .object [("run_id", .text runId), ("steps_completed", .count completed),
      ("steps_skipped", .count skipped), ("steps_failed_ignored", .count failedIgnored),
      ("elapsed_ms", .count elapsed)]
  | .runFailed runId step error =>
    .object [("run_id", .text runId), ("step", (step.map Value.text).getD .null), ("error", .text error)]
  | .loadFailed error => .object [("error", .text error)]

/-- The notice of an event. -/
def notice (event : Event) : Notice := ⟨event.kind, some event.data⟩

end Event

namespace EventLog

/-- Adds a notice. -/
def emit (log : EventLog) (kind : String) (data : Option Value) : EventLog := log ++ [⟨kind, data⟩]

/-- The notices whose kind starts with a text. -/
def ofFamily (log : EventLog) (start : String) : EventLog :=
  log.filter fun notice => start.toList.isPrefixOf notice.kind.toList

/-- The kinds of the notices, in order. -/
def kinds (log : EventLog) : List String := log.map Notice.kind

/-- Whether the notices are of these kinds, in this order. -/
def hasKinds (log : EventLog) (expected : List String) : Bool := log.kinds == expected

end EventLog

end Stepwise
