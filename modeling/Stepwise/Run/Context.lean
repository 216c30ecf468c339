import Stepwise.Store.Collections
import Stepwise.Store.Buffers
import Stepwise.Run.Throttle
import Stepwise.Run.Cancellation
import Stepwise.Guard.Evaluation

/-!
# The context of a run

Everything that steps share: the environment, the configuration, variables, collections, buffers and
results, the limiters, whether the run is cancelled, and what lies outside of the run. Of the outside a
run sees a clock that moves only while it waits, an alarm that cancels it at a set time, files, and the
calls it has made.
-/

set_option autoImplicit false

namespace Stepwise

/-- How grave a line of the log is. -/
inductive Level where
  | debug
  | info
  | warn
  | error
deriving DecidableEq, Repr

/-- A call to an external service, or the parameters that a recording action notes. -/
inductive Call where
  | post (url : String) (headers : Table String) (body : Value)
  | query (statement : String) (parameters : List Value)
  | insert (table : String) (rows : Value)
  | tool (server : String) (name : String) (arguments : Value)
  | actor (name : String) (input : Value)
  | noted (recorder : String) (fields : Fields)

/-- What lies outside of a run. -/
structure Outside where
  /-- Nanoseconds since the clock was started. -/
  clock : Nat
  /-- When the run is cancelled from outside, and why. -/
  alarm : Option (Nat × String)
  /-- What the tokens of templates stand for now. -/
  current : Template.Token → Value
  /-- The bytes of a file, or why there are none. -/
  files : String → Except String (List UInt8)
  /-- The resident and the virtual memory of the process in mebibytes. -/
  memory : Nat × Nat
  /-- The calls made so far, last first. -/
  calls : List Call
  /-- The lines logged so far, last first. -/
  logged : List (Level × String)

/-- The state that the steps of a run share. -/
structure Context where
  runId : String
  environment : Table String
  config : Fields
  vars : Fields
  collections : Collections
  buffers : Buffers
  results : Fields
  recordsProcessed : Nat
  limiters : Limiters
  cancelled : Cancellation
  outside : Outside

namespace Context

/-- The context that a run starts with. -/
def start (environment : Table String) (config : Fields) (outside : Outside) : Context :=
  { runId := "", environment, config, vars := [], collections := [], buffers := [], results := [],
    recordsProcessed := 0, limiters := [], cancelled := none, outside }

/-- The value of a variable of the environment; only a single segment names one. -/
def environmentValue? (environment : Table String) : List String → Option Value
  | [name] => (Table.get? environment name).map Value.text
  | _ => none

/-- The value of a path. -/
def lookup (ctx : Context) (path : Path) : Option Value :=
  match path.root with
  | .env => environmentValue? ctx.environment path.segments
  | .config => Value.followIn? ctx.config path.segments
  | .vars => Value.followIn? ctx.vars path.segments
  | .collections => ctx.collections.follow? path.segments
  | .item => none

/-- The scope of a run: every namespace but the record at hand. -/
def scope (ctx : Context) : Scope :=
  { serves := fun root => root ≠ .item, lookup := ctx.lookup, current := ctx.outside.current }

/-- The scope in which a configuration is resolved: the environment alone. -/
def environmentScope (environment : Table String) (current : Template.Token → Value) : Scope :=
  { serves := fun root => root = .env
    lookup := fun path => if path.root = .env then environmentValue? environment path.segments else none
    current }

/-- The scope in which a record is transformed: that of the run, and the record. -/
def itemScope (ctx : Context) (item : Value) : Scope :=
  { serves := fun _ => true
    lookup := fun path => if path.root = .item then item.follow? path.segments else ctx.lookup path
    current := ctx.outside.current }

/-- The parameters of a step with their templates resolved. -/
def resolveFields (ctx : Context) (fields : Fields) : Fields := Value.resolveFields ctx.scope fields

/-- The value of a path that is given as text; none if the text is no path. -/
def reference? (ctx : Context) (text : String) : Option Value :=
  match Path.parse text.toList with
  | .ok path => ctx.lookup path
  | .error _ => none

/-- Whether a guard holds. -/
def allows (ctx : Context) (guard : String) : Bool := Guard.textHolds ctx.scope guard

/-- Cancels the run; the first reason stays. -/
def cancel (ctx : Context) (reason : String) : Context :=
  { ctx with cancelled := Cancellation.request ctx.cancelled reason }

/-- Drops the collections and the buffers. -/
def cleanUp (ctx : Context) : Context := { ctx with collections := [], buffers := [] }

/-- Sets the clock. -/
def atTime (ctx : Context) (time : Nat) : Context :=
  { ctx with outside := { ctx.outside with clock := time } }

/-- Lets other files lie outside. -/
def withFiles (ctx : Context) (files : String → Except String (List UInt8)) : Context :=
  { ctx with outside := { ctx.outside with files } }

/-- Lets time pass, come what may. An alarm that falls into it cancels the run. -/
def pass (ctx : Context) (duration : Nat) : Context :=
  let ending := ctx.outside.clock + duration
  let ctx := ctx.atTime ending
  match ctx.outside.alarm with
  | some (time, reason) => if time < ending then ctx.cancel reason else ctx
  | none => ctx

/-- Waits, unless the run is cancelled first: then the reason is given. A wait that ends when the alarm
goes off is over. -/
def wait (ctx : Context) (duration : Nat) : Option String × Context :=
  if duration = 0 then (none, ctx)
  else
    match ctx.cancelled with
    | some reason => (some reason, ctx)
    | none =>
      match ctx.outside.alarm with
      | some (time, reason) =>
        if time < ctx.outside.clock + duration then
          (some reason, (ctx.atTime (max time ctx.outside.clock)).cancel reason)
        else (none, ctx.atTime (ctx.outside.clock + duration))
      | none => (none, ctx.atTime (ctx.outside.clock + duration))

/-- The nanoseconds of a millisecond. -/
def millisecond : Nat := Nat.pow 10 6

/-- Waits until the limiter of a throttle admits a call. -/
def awaitTurn (ctx : Context) (throttle : Throttle) : Option String × Context :=
  let now := ctx.outside.clock
  let (answer, limiters) := ctx.limiters.ask throttle now
  let ctx := { ctx with limiters }
  match answer with
  | .ok () => (none, ctx)
  | .error earliest =>
    match ctx.wait (Throttle.pause earliest now) with
    | (some reason, ctx) => (some reason, ctx)
    | (none, ctx) => (none, { ctx with limiters := (ctx.limiters.ask throttle ctx.outside.clock).2 })

/-- Waits for a throttle, if there is one. -/
def awaitTurn? (ctx : Context) (throttle : Option Throttle) : Option String × Context :=
  match throttle with
  | some throttle => ctx.awaitTurn throttle
  | none => (none, ctx)

/-- Notes a call. -/
def noteCall (ctx : Context) (call : Call) : Context :=
  { ctx with outside := { ctx.outside with calls := call :: ctx.outside.calls } }

/-- Writes a line to the log. -/
def log (ctx : Context) (level : Level) (line : String) : Context :=
  { ctx with outside := { ctx.outside with logged := (level, line) :: ctx.outside.logged } }

end Context

end Stepwise
