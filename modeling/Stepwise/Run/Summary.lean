import Stepwise.Run.Phase
import Stepwise.Document.Loading
import Stepwise.Action.Error

/-!
# Outcomes of runs

A run ends with a summary, or with the reason why it did not come to its end.
-/

set_option autoImplicit false

namespace Stepwise

/-- Why a run does not come to its end. -/
inductive RunError where
  | load (error : LoadError)
  | stepFailed (step : String) (error : ActionError)
  | cancelled (reason : String)

namespace RunError

/-- The wording of a run error. -/
def message : RunError → String
  | .load error => error.message
  | .stepFailed step error => "Step \"" ++ step ++ "\" failed: " ++ error.message
  | .cancelled reason => "Playbook cancelled: " ++ reason

/-- The step that failed, if one did. -/
def step? : RunError → Option String
  | .stepFailed step _ => some step
  | _ => none

/-- Whether a run failed at the step of that name. -/
def isFailureOf {α : Type} (step : String) (outcome : Except RunError α) : Bool :=
  match outcome with
  | .error error => error.step? == some step
  | .ok _ => false

end RunError

/-- How many steps had which outcome. -/
structure Tally where
  completed : Nat
  skipped : Nat
  failedIgnored : Nat
deriving DecidableEq, Repr

namespace Tally

/-- No steps at all. -/
def zero : Tally := ⟨0, 0, 0⟩

/-- Counts a step. -/
def record (tally : Tally) : StepStatus → Tally
  | .completed => { tally with completed := tally.completed + 1 }
  | .skipped => { tally with skipped := tally.skipped + 1 }
  | .failedIgnored => { tally with failedIgnored := tally.failedIgnored + 1 }

/-- All steps that were counted. -/
def total (tally : Tally) : Nat := tally.completed + tally.skipped + tally.failedIgnored

/-- Counting a step adds one to the total. -/
theorem total_record (tally : Tally) (status : StepStatus) :
    (tally.record status).total = tally.total + 1 := by
  cases status <;> simp only [record, total] <;> omega

end Tally

/-- The account of a run that came to its end. Times are nanoseconds. -/
structure Summary where
  playbook : String
  runId : String
  tally : Tally
  elapsed : Nat
  checkpointsWritten : Nat
  recordsProcessed : Nat
  results : Fields

namespace Summary

/-- The nanoseconds of a second. -/
def second : Nat := Nat.pow 10 9

/-- The seconds that a time takes, as a real number: whole seconds and the rest of the time are rounded
each, and so is their sum. -/
def seconds (time : Nat) : Binary64 :=
  let part (num den : Nat) := (Binary64.nearest? false num den).getD (Binary64.zero false)
  ((part (time / second) 1).addNonneg? (part (time % second) second)).getD (Binary64.zero false)

/-- The text of a summary. -/
def text (summary : Summary) : String :=
  summary.playbook ++ ": " ++ toString summary.tally.completed ++ " completed, " ++
  toString summary.tally.skipped ++ " skipped, " ++ toString summary.tally.failedIgnored ++
  " failed (ignored) in " ++ (seconds summary.elapsed).fixed 1 ++ "s" ++
  (if 0 < summary.recordsProcessed then ", " ++ toString summary.recordsProcessed ++ " records" else "")

/-- A span of time as a value. -/
def timeValue (time : Nat) : Value :=
  .object [("secs", .count (time / second)), ("nanos", .count (time % second))]

/-- A summary as a value. -/
def toValue (summary : Summary) : Value :=
  .object [("playbook", .text summary.playbook), ("run_id", .text summary.runId),
    ("steps_completed", .count summary.tally.completed), ("steps_skipped", .count summary.tally.skipped),
    ("steps_failed_ignored", .count summary.tally.failedIgnored), ("elapsed", timeValue summary.elapsed),
    ("checkpoints_written", .count summary.checkpointsWritten),
    ("records_processed", .count summary.recordsProcessed), ("results", .record summary.results)]

end Summary

end Stepwise
