import Stepwise.Action.Registry
import Stepwise.Value.Writer

/-!
# Actions that log and wait
-/

set_option autoImplicit false

namespace Stepwise

/-- The level of a word; an unknown one means the ordinary level. -/
def Level.ofText (word : String) : Level :=
  match word with
  | "debug" => .debug
  | "warn" => .warn
  | "warning" => .warn
  | "error" => .error
  | _ => .info

namespace Action

/-- A message as it is logged: a text as it is, nothing for null, else the wide text. -/
def messageText : Value → String
  | .text s => s
  | .null => ""
  | other => other.wide

/-- Logs a message. -/
def log : Action := fun fields ctx =>
  let params : Params := ⟨"log", fields⟩
  let message := messageText (params.raw "message")
  let level := Level.ofText ((params.text? "level").getD "info")
  (.ok (.object [("logged", .flag true), ("message", .text message)]), ctx.log level message)

/-- The milliseconds of a wait for which none are given. -/
def defaultDelay : Nat := 1000

/-- Waits for the milliseconds that a parameter gives. -/
def waiting (name param : String) : Action := fun fields ctx =>
  match (⟨name, fields⟩ : Params).countOr param defaultDelay with
  | .error e => (.error e, ctx)
  | .ok milliseconds =>
    match ctx.wait (milliseconds * Context.millisecond) with
    | (some reason, ctx) => (.error (.cancelled reason), ctx)
    | (none, ctx) =>
      (.ok (.object [("delayed", .flag true), (param, .count milliseconds)]), ctx)

end Action

end Stepwise
