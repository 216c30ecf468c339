import Stepwise.Run.Event
import Stepwise.Run.Summary
import Stepwise.Progress.Checkpoints
import Stepwise.Progress.Monitor
import Stepwise.Action.Registry
import Stepwise.Settings

/-!
# Runs

A run processes the steps of a playbook one after another, in order. Before each step it looks whether it
is cancelled; a step whose guard does not hold is skipped; the parameters of the others are resolved and
their action is run. A failure ends the run unless the step says that it does not matter. After every
step, also one that ends the run, a snapshot may be due.

`advance` processes one step and hands out the snapshot that is due; `acknowledge` takes note that it was
written. `execute` is the whole run, given how every writing goes, among files that stay as they are.
`executeOn` is the whole run on a machine where steps see the snapshots that the run itself has written.
-/

set_option autoImplicit false

namespace Stepwise

/-- The actions and the settings that runs are carried out with. -/
structure Engine where
  registry : Registry
  settings : Settings

/-- A run on its way. Events are kept last first. -/
structure Run where
  /-- The identifier that the run started with. -/
  runId : String
  /-- The number of steps of the playbook, and of those processed. -/
  total : Nat
  number : Nat
  ctx : Context
  tally : Tally
  /-- The number of snapshots written. -/
  written : Nat
  monitor : Monitor
  events : List Event
  /-- When the run started. -/
  started : Nat
  /-- Why the run goes no further. -/
  ending : Option RunError

/-- The files that a run finds, given what its progress file and the draft beside it hold. -/
abbrev FileView : Type := ProgressFiles → String → Except String (List UInt8)

/-- What a run leaves. -/
structure Report where
  outcome : Except RunError Summary
  phase : Phase
  ctx : Context
  events : List Event
  files : ProgressFiles

/-- The action was interrupted, rather than failed. -/
def ActionError.isCancellation : ActionError → Bool
  | .cancelled _ => true
  | _ => false

/-- Keeps the answer of a step where the step asks for it. -/
def Context.keepAnswer (ctx : Context) (step : Step) (name : String) (answer : Value) : Context :=
  let vars := match step.register.filter (!·.isEmpty) with
    | some target => Table.put ctx.vars target answer
    | none => ctx.vars
  { ctx with vars, results := if step.trackResult then Table.put ctx.results name answer else ctx.results }

/-- What becomes of a step whose action failed. -/
def Step.statusOfError (step : Step) (name : String) (error : ActionError) : Except RunError StepStatus :=
  match error with
  | .cancelled reason => .error (.cancelled reason)
  | _ => if step.ignoreErrors then .ok .failedIgnored else .error (.stepFailed name error)

/-- Processes a step: what became of it, the context afterwards, and what happened. -/
def Step.process (registry : Registry) (number : Nat) (step : Step) (ctx : Context) :
    Except RunError StepStatus × Context × List Event :=
  match step.runnable? with
  | none => (.ok .skipped, ctx, [.stepSkipped number none])
  | some (name, action) =>
    if !step.allowedBy ctx then (.ok .skipped, ctx, [.stepSkipped number (some name)])
    else
      let started := Event.stepStarted number name action
      let (answer, after) := registry.dispatch action (ctx.resolveFields step.params) ctx
      let duration := (after.outside.clock - ctx.outside.clock) / Context.millisecond
      match answer with
      | .ok value =>
        (.ok .completed, after.keepAnswer step name value, [started, .stepCompleted number name duration])
      | .error error =>
        (step.statusOfError name error, after,
          [started, .stepFailed number name error.message
            (step.ignoreErrors && !error.isCancellation) duration])

namespace Run

/-- A run at its start. -/
def start (settings : Settings) (playbook : Playbook) (ctx : Context) : Run :=
  let now := ctx.outside.clock
  { runId := ctx.runId, total := playbook.steps.length, number := 0, ctx, tally := Tally.zero, written := 0
    monitor :=
      Monitor.start (settings.compactIntervalMs * Context.millisecond) settings.telemetryEvery now
    events := [.runStarted ctx.runId playbook.displayName playbook.steps.length]
    started := now, ending := none }

/-- Lets other files lie outside of a run. -/
def withFiles (run : Run) (files : String → Except String (List UInt8)) : Run :=
  { run with ctx := run.ctx.withFiles files }

/-- The time since a run started. -/
def elapsed (run : Run) : Nat := run.ctx.outside.clock - run.started

/-- The snapshot of a run after a step. -/
def snapshot (run : Run) (step : Step) : Snapshot :=
  { timestamp := ((run.ctx.outside.current .timestamp).asText?).getD ""
    stepsProcessed := run.number
    recordsProcessed := run.ctx.recordsProcessed
    elapsedMs := run.elapsed / Context.millisecond
    memory := (run.monitor.sample run.ctx).1
    details := Checkpoints.stepDetails (step.name.getD "") run.number run.total }

/-- Takes the outcome of a step into the account of a run. -/
def take (run : Run) (result : Except RunError StepStatus × Context × List Event) : Run :=
  let (outcome, ctx, events) := result
  let run := { run with number := run.number + 1, ctx, events := events.reverse ++ run.events }
  match outcome with
  | .ok status => { run with tally := run.tally.record status }
  | .error error => { run with ending := some error }

/-- Processes a step, and hands out the snapshot that is due after it. Nothing happens once the run goes
no further. -/
def advance (engine : Engine) (run : Run) (step : Step) : Run × Option Snapshot :=
  if run.ending.isSome then (run, none)
  else
    match run.ctx.cancelled with
    | some reason => ({ run with ending := some (.cancelled reason) }, none)
    | none =>
      let run := run.take (step.process engine.registry (run.number + 1) run.ctx)
      let due := Checkpoints.isDue engine.settings.checkpointEvery run.number
      ({ run with monitor := run.monitor.afterStep run.number run.ctx },
        if due then some (run.snapshot step) else none)

/-- Takes note of whether a snapshot was written. -/
def acknowledge (run : Run) (saved : Bool) : Run :=
  if saved then { run with written := run.written + 1 } else run

/-- The account of a run that came to its end. -/
def summary (run : Run) (playbook : Playbook) : Summary :=
  { playbook := playbook.displayName, runId := run.runId, tally := run.tally, elapsed := run.elapsed
    checkpointsWritten := run.written, recordsProcessed := run.ctx.recordsProcessed
    results := run.ctx.results }

/-- Ends a run: stores are dropped, and the results go into the summary. -/
def finish (run : Run) (playbook : Playbook) (files : ProgressFiles) : Report :=
  let ctx := run.ctx.cleanUp
  match run.ending with
  | none =>
    let summary := run.summary playbook
    let event := Event.runCompleted run.runId run.tally.completed run.tally.skipped
      run.tally.failedIgnored (run.elapsed / Context.millisecond)
    ⟨.ok summary, .completed, { ctx with results := [] }, (event :: run.events).reverse, files⟩
  | some error =>
    let event := Event.runFailed run.runId error.step? error.message
    ⟨.error error, .failed, ctx, (event :: run.events).reverse, files⟩

/-- Processes a step and writes the snapshot that is due after it. -/
def advanceSaving (engine : Engine) (savings : Nat → Saving) (state : Run × ProgressFiles) (step : Step) :
    Run × ProgressFiles :=
  match state.1.advance engine step with
  | (run, none) => (run, state.2)
  | (run, some snapshot) =>
    let (saved, files) := state.2.save (savings run.number) snapshot.text
    (run.acknowledge saved, files)

/-- Processes a step among the files as the run has left them, and writes the snapshot that is due after
it. -/
def advanceOn (engine : Engine) (view : FileView) (savings : Nat → Saving) (state : Run × ProgressFiles)
    (step : Step) : Run × ProgressFiles :=
  advanceSaving engine savings (state.1.withFiles (view state.2), state.2) step

end Run

namespace Engine

/-- Runs a playbook in a context. How the writing of a snapshot goes is given for each step. A playbook
without steps is not run at all. -/
def execute (engine : Engine) (savings : Nat → Saving) (playbook : Playbook) (ctx : Context)
    (files : ProgressFiles) : Report :=
  if playbook.steps.isEmpty then ⟨.error (.load .noSteps), .failed, ctx, [], files⟩
  else
    let (run, files) := playbook.steps.foldl (Run.advanceSaving engine savings)
      (Run.start engine.settings playbook ctx, files)
    run.finish playbook files

/-- Takes a run through the steps of a playbook on a machine. -/
def courseOn (engine : Engine) (view : FileView) (savings : Nat → Saving) (playbook : Playbook)
    (ctx : Context) (files : ProgressFiles) : Run × ProgressFiles :=
  playbook.steps.foldl (Run.advanceOn engine view savings) (Run.start engine.settings playbook ctx, files)

/-- Runs a playbook on a machine, where it finds the snapshots that it has written. -/
def executeOn (engine : Engine) (view : FileView) (savings : Nat → Saving) (playbook : Playbook)
    (ctx : Context) (files : ProgressFiles) : Report :=
  if playbook.steps.isEmpty then ⟨.error (.load .noSteps), .failed, ctx, [], files⟩
  else
    let (run, files) := engine.courseOn view savings playbook ctx files
    run.finish playbook files

/-- The context in which a playbook is run by itself: its configuration with the environment filled
in. -/
def freshContext (playbook : Playbook) (environment : Table String) (cancelled : Option String)
    (outside : Outside) : Context :=
  { Context.start environment (playbook.resolvedConfig environment outside.current) outside with cancelled }

/-- What is left when a playbook cannot be loaded. -/
def loadFailure (error : LoadError) (ctx : Context) (files : ProgressFiles) : Report :=
  ⟨.error (.load error), .failed, ctx, [.loadFailed error.message], files⟩

end Engine

end Stepwise
