import Stepwise.Action.Registry

/-!
# Stand-ins

Actions for trying out a playbook without the services that it needs.
-/

set_option autoImplicit false

namespace Stepwise.Action

/-- Answers with a fixed value. -/
def fixed (value : Value) : Action := fun _ ctx => (.ok value, ctx)

/-- Fails with a message. -/
def failing (message : String) : Action := fun _ ctx => (.error (.handler message), ctx)

/-- Takes its time, which nothing cuts short, and answers with null. -/
def slow (milliseconds : Nat) : Action := fun _ ctx =>
  (.ok .null, ctx.pass (milliseconds * Context.millisecond))

/-- Cancels the run and answers with null. -/
def cancelling (reason : String) : Action := fun _ ctx => (.ok .null, ctx.cancel reason)

/-- Notes its parameters under a name and answers with them. -/
def recording (name : String) : Action := fun fields ctx =>
  (.ok (.record fields), ctx.noteCall (.noted name fields))

end Stepwise.Action

namespace Stepwise.Context

/-- The parameters noted under a name, in order. -/
def noted (ctx : Context) (name : String) : List Fields :=
  (ctx.outside.calls.filterMap fun
    | .noted recorder fields => if recorder = name then some fields else none
    | _ => none).reverse

/-- Forgets the parameters noted under a name. -/
def forgetNoted (ctx : Context) (name : String) : Context :=
  let kept := ctx.outside.calls.filter fun
    | .noted recorder _ => recorder ≠ name
    | _ => true
  { ctx with outside := { ctx.outside with calls := kept } }

end Stepwise.Context
