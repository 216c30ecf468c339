import Stepwise.Text.Literal

/-!
# Cancellation

A run is cancelled once, for one reason: the first that is given.
-/

set_option autoImplicit false

namespace Stepwise

/-- Why a run is cancelled, if it is. -/
abbrev Cancellation : Type := Option String

namespace Cancellation

/-- Cancels for a reason, unless that was done before. -/
def request (cancellation : Cancellation) (reason : String) : Cancellation :=
  some (cancellation.getD reason)

/-- Whether and why a run is cancelled, on one line. -/
def text (cancellation : Cancellation) : String :=
  let reason := match cancellation with
    | some reason => "Some(" ++ Text.literal reason ++ ")"
    | none => "None"
  "CancellationToken \x7b cancelled: " ++ toString cancellation.isSome ++ ", reason: " ++ reason ++ " \x7d"

/-- The first reason stays. -/
theorem request_request (cancellation : Cancellation) (first second : String) :
    (cancellation.request first).request second = cancellation.request first := by
  cases cancellation <;> rfl

end Cancellation

end Stepwise
