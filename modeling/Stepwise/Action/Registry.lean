import Stepwise.Run.Context
import Stepwise.Action.Params
import Stepwise.Text.Literal

/-!
# Actions and their registry

An action takes the parameters of a step and the context of the run, and gives an answer, or the reason
why it fails, together with the context that it leaves. A failed action leaves a context, too: the one it had
when it failed. A registry holds actions by name.
-/

set_option autoImplicit false

namespace Stepwise

/-- What a step does: the answer and the context afterwards. -/
abbrev Action : Type := Fields → Context → Except ActionError Value × Context

namespace Action

/-- Goes on with what the checks find, or fails with their error. The checks do not see the context, so it
comes back as it was with their error. -/
def checked {α : Type} (checks : Except ActionError α)
    (next : α → Context → Except ActionError Value × Context) (ctx : Context) :
    Except ActionError Value × Context :=
  match checks with
  | .error e => (.error e, ctx)
  | .ok found => next found ctx

end Action

/-- Actions by name. -/
abbrev Registry : Type := Table Action

namespace Registry

/-- Registers an action; one of the same name is replaced. -/
def register (registry : Registry) (name : String) (action : Action) : Registry :=
  Table.put registry name action

/-- Runs the action of that name. -/
def dispatch (registry : Registry) (name : String) : Action := fun params ctx =>
  match Table.get? registry name with
  | some action => action params ctx
  | none => (.error (.unknownAction name), ctx)

/-- The names of a registry, on one line. -/
def text (registry : Registry) : String :=
  "ActionRegistry \x7b actions: [" ++ ", ".intercalate (registry.names.map Text.literal) ++ "] \x7d"

/-- A registered action is the one that is run. -/
theorem dispatch_register (registry : Registry) (name : String) (action : Action) :
    (registry.register name action).dispatch name = action := by
  funext params ctx
  simp [dispatch, register]

end Registry

end Stepwise
