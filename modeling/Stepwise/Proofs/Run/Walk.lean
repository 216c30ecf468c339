import Stepwise.Proofs.Run.Chronicle

/-!
# The walk over the steps

What a run makes of its steps can be told without events, counts and snapshots: from a context on it
visits the steps one after another, each visit leaves a context for the next, and the walk ends with the
steps, at a visit that ends the run, or before a step that finds the run cancelled. `Registry.walk` is
this account by recursion on the steps. `Engine.execute_walk` says that a run is the walk over the steps of
its playbook: the context, the ending, the tally and the events of the run are those of the walk. What is
true of every run follows by induction on the steps of a walk.
-/

set_option autoImplicit false

namespace Stepwise

/-- A step, and the context in which a run comes to it. -/
structure Visit where
  step : Step
  ctx : Context

namespace Visit

/-- The action that is called, and its parameters; none if the step is skipped. -/
def call? (visit : Visit) : Option (String × Fields) :=
  match visit.step.runnable? with
  | none => none
  | some (_, action) =>
    if visit.step.allowedBy visit.ctx then some (action, visit.ctx.resolveFields visit.step.params)
    else none

/-- What the action answers, if one is called. -/
def answer? (registry : Registry) (visit : Visit) : Option (Except ActionError Value) :=
  visit.call?.map fun call => (registry.dispatch call.1 call.2 visit.ctx).1

/-- What becomes of the step. -/
def outcome (registry : Registry) (visit : Visit) : Except RunError StepStatus :=
  (visit.step.process registry 0 visit.ctx).1

/-- The context that is left. -/
def after (registry : Registry) (visit : Visit) : Context :=
  (visit.step.process registry 0 visit.ctx).2.1

/-- What is told of the step under a number. -/
def events (registry : Registry) (number : Nat) (visit : Visit) : List Event :=
  (visit.step.process registry number visit.ctx).2.2

/-- What became of the step, if the run went on. -/
def status? (registry : Registry) (visit : Visit) : Option StepStatus :=
  match visit.outcome registry with
  | .ok status => some status
  | .error _ => none

/-- The context that visits in a row leave: what the last of them leaves, or the one they start in if there
are none. -/
def leave (registry : Registry) (ctx : Context) (visits : List Visit) : Context :=
  (visits.getLast?.map (after registry)).getD ctx

/-- What is told of visits in a row, numbered from a number on. -/
def tell (registry : Registry) (number : Nat) : List Visit → List Event
  | [] => []
  | visit :: rest => visit.events registry number ++ tell registry (number + 1) rest

end Visit

/-- The number of a step plays no part in what becomes of it, nor in the context that it leaves. -/
theorem Step.process_number (registry : Registry) (number other : Nat) (step : Step) (ctx : Context) :
    (step.process registry number ctx).1 = (step.process registry other ctx).1 ∧
      (step.process registry number ctx).2.1 = (step.process registry other ctx).2.1 := by
  unfold Step.process
  cases step.runnable? with
  | none => exact ⟨rfl, rfl⟩
  | some named =>
    obtain ⟨name, action⟩ := named
    cases step.allowedBy ctx with
    | false => exact ⟨rfl, rfl⟩
    | true =>
      rcases answer : registry.dispatch action (ctx.resolveFields step.params) ctx with ⟨_ | _, _⟩
      · simp [answer]
      · simp [answer]

/-- Processing a step is a visit, told under the number. -/
theorem Step.process_eq (registry : Registry) (number : Nat) (step : Step) (ctx : Context) :
    step.process registry number ctx =
      (Visit.outcome registry ⟨step, ctx⟩, Visit.after registry ⟨step, ctx⟩,
        Visit.events registry number ⟨step, ctx⟩) := by
  obtain ⟨outcome_eq, after_eq⟩ := step.process_number registry number 0 ctx
  exact Prod.ext outcome_eq (Prod.ext after_eq rfl)

/-- What can come of a visit. -/
inductive Visit.Course (registry : Registry) (visit : Visit) : Prop where
  /-- No action is called. -/
  | skipped (uncalled : visit.call? = none) (outcome : visit.outcome registry = .ok .skipped)
      (after : visit.after registry = visit.ctx)
  /-- The action gives an answer. -/
  | completed (value : Value) (answered : visit.answer? registry = some (.ok value))
      (outcome : visit.outcome registry = .ok .completed)
  /-- The action fails, and leaves its own context. -/
  | failed (name action : String) (fields : Fields) (cause : ActionError)
      (called : visit.call? = some (action, fields))
      (answered : registry.dispatch action fields visit.ctx = (.error cause, visit.after registry))
      (outcome : visit.outcome registry = visit.step.statusOfError name cause)

/-- Each visit takes one of the courses that a step can take. -/
theorem Visit.course (registry : Registry) (visit : Visit) : Visit.Course registry visit := by
  have course := visit.step.process_course registry 0 visit.ctx
  have outcome_eq : visit.outcome registry = (visit.step.process registry 0 visit.ctx).1 := rfl
  have after_eq : visit.after registry = (visit.step.process registry 0 visit.ctx).2.1 := rfl
  generalize visit.step.process registry 0 visit.ctx = result at course outcome_eq after_eq
  cases course with
  | unshaped shapeless => exact .skipped (by simp [call?, shapeless]) outcome_eq after_eq
  | unguarded name action shaped refused =>
    exact .skipped (by simp [call?, shaped, refused]) outcome_eq after_eq
  | completed name action value after duration shaped allowed answered =>
    exact .completed value (by simp [answer?, call?, shaped, allowed, answered]) outcome_eq
  | failed name action cause after duration shaped allowed answered =>
    exact .failed name action (visit.ctx.resolveFields visit.step.params) cause
      (by simp [call?, shaped, allowed]) (by rw [after_eq]; exact answered) outcome_eq

/-! ## Walks -/

/-- The visits of a run, the context after the last of them, and why the run goes no further. -/
structure Walk where
  visits : List Visit
  ctx : Context
  ending : Option RunError

/-- The walk over steps from a context on. -/
def Registry.walk (registry : Registry) (ctx : Context) : List Step → Walk
  | [] => ⟨[], ctx, none⟩
  | step :: rest =>
    match ctx.cancelled with
    | some reason => ⟨[], ctx, some (.cancelled reason)⟩
    | none =>
      let visit : Visit := ⟨step, ctx⟩
      match visit.outcome registry with
      | .error error => ⟨[visit], visit.after registry, some error⟩
      | .ok _ =>
        let later := registry.walk (visit.after registry) rest
        { later with visits := visit :: later.visits }

namespace Registry

variable (registry : Registry) {ctx : Context} {step : Step} {rest : List Step}

/-- A cancelled run comes to no step. -/
theorem walk_cancelled {reason : String} (stopped : ctx.cancelled = some reason) :
    registry.walk ctx (step :: rest) = ⟨[], ctx, some (.cancelled reason)⟩ := by
  simp only [walk, stopped]

/-- A visit that ends the run is the last. -/
theorem walk_error (live : ctx.cancelled = none) {error : RunError}
    (outcome : Visit.outcome registry ⟨step, ctx⟩ = .error error) :
    registry.walk ctx (step :: rest) =
      ⟨[⟨step, ctx⟩], Visit.after registry ⟨step, ctx⟩, some error⟩ := by
  simp only [walk, live, outcome]

/-- After any other visit the walk goes on from the context that it leaves. -/
theorem walk_ok (live : ctx.cancelled = none) {status : StepStatus}
    (outcome : Visit.outcome registry ⟨step, ctx⟩ = .ok status) :
    registry.walk ctx (step :: rest) =
      { registry.walk (Visit.after registry ⟨step, ctx⟩) rest with
        visits := ⟨step, ctx⟩ :: (registry.walk (Visit.after registry ⟨step, ctx⟩) rest).visits } := by
  simp only [walk, live, outcome]

/-- A walk over steps starts in one of three ways. -/
theorem walk_cases (registry : Registry) (ctx : Context) (step : Step) :
    (∃ reason, ctx.cancelled = some reason) ∨
      ctx.cancelled = none ∧ (∃ error, Visit.outcome registry ⟨step, ctx⟩ = .error error) ∨
      ctx.cancelled = none ∧ ∃ status, Visit.outcome registry ⟨step, ctx⟩ = .ok status := by
  cases stopped : ctx.cancelled with
  | some reason => exact .inl ⟨reason, rfl⟩
  | none =>
    cases outcome : Visit.outcome registry ⟨step, ctx⟩ with
    | error error => exact .inr (.inl ⟨rfl, error, rfl⟩)
    | ok status => exact .inr (.inr ⟨rfl, status, rfl⟩)

variable {registry : Registry} {steps : List Step} {visit : Visit}

/-- A walk comes to the first steps, in order. -/
theorem walk_steps : (registry.walk ctx steps).visits.map Visit.step <+: steps := by
  induction steps generalizing ctx with
  | nil => exact List.nil_prefix
  | cons step rest ih =>
    rcases registry.walk_cases ctx step with ⟨reason, halted⟩ | ⟨live, error, failed⟩ | ⟨live, _, passed⟩
    · rw [registry.walk_cancelled halted]
      exact List.nil_prefix
    · rw [registry.walk_error live failed]
      exact (List.prefix_cons_inj step).mpr List.nil_prefix
    · rw [registry.walk_ok live passed]
      exact (List.prefix_cons_inj step).mpr ih

/-- A walk comes to its first step in the context from which it starts. -/
theorem walk_first (found : (registry.walk ctx steps).visits[0]? = some visit) : visit.ctx = ctx := by
  cases steps with
  | nil => simp [walk] at found
  | cons step rest =>
    rcases registry.walk_cases ctx step with ⟨reason, halted⟩ | ⟨live, error, failed⟩ | ⟨live, _, passed⟩
    · simp [registry.walk_cancelled halted] at found
    · obtain rfl : ⟨step, ctx⟩ = visit := by simpa [registry.walk_error live failed] using found
      rfl
    · obtain rfl : ⟨step, ctx⟩ = visit := by simpa [registry.walk_ok live passed] using found
      rfl

/-- It comes to every other step in the context that the step before leaves. -/
theorem walk_next {k : Nat} {next : Visit} (found : (registry.walk ctx steps).visits[k]? = some visit)
    (foundNext : (registry.walk ctx steps).visits[k + 1]? = some next) :
    next.ctx = visit.after registry := by
  induction steps generalizing ctx k with
  | nil => simp [walk] at found
  | cons step rest ih =>
    rcases registry.walk_cases ctx step with ⟨reason, halted⟩ | ⟨live, error, failed⟩ | ⟨live, _, passed⟩
    · simp [registry.walk_cancelled halted] at found
    · simp [registry.walk_error live failed] at foundNext
    · rw [registry.walk_ok live passed] at found foundNext
      cases k with
      | zero =>
        obtain rfl : ⟨step, ctx⟩ = visit := by simpa using found
        exact walk_first (by simpa using foundNext)
      | succ k => exact ih (by simpa using found) (by simpa using foundNext)

/-- It leaves the context that its last step leaves, and the one from which it starts if it comes to no
step. -/
theorem walk_ctx : (registry.walk ctx steps).ctx = Visit.leave registry ctx (registry.walk ctx steps).visits := by
  induction steps generalizing ctx with
  | nil => rfl
  | cons step rest ih =>
    rcases registry.walk_cases ctx step with ⟨reason, halted⟩ | ⟨live, error, failed⟩ | ⟨live, _, passed⟩
    · rw [registry.walk_cancelled halted]
      rfl
    · rw [registry.walk_error live failed]
      rfl
    · simp only [registry.walk_ok live passed, ih, Visit.leave, List.getLast?_cons, Option.map_some,
        Option.getD_some]
      cases (registry.walk (Visit.after registry ⟨step, ctx⟩) rest).visits.getLast? <;> rfl

end Registry

/-! ## Runs are walks -/

/-- A run has gone on from a start the way that a walk tells. -/
structure Run.Walked (registry : Registry) (start : Run) (walk : Walk) (run : Run) : Prop where
  runId_eq : run.runId = start.runId
  started_eq : run.started = start.started
  ctx_eq : run.ctx = walk.ctx
  ending_eq : run.ending = walk.ending
  tally_eq :
    run.tally = (walk.visits.filterMap (Visit.status? registry)).foldl Tally.record start.tally
  events_eq :
    run.events.reverse = start.events.reverse ++ Visit.tell registry (start.number + 1) walk.visits

namespace Run

/-- Noting that a snapshot was written touches the count of snapshots alone. -/
theorem acknowledge_eq (run : Run) (saved : Bool) :
    run.acknowledge saved = { run with written := (run.acknowledge saved).written } := by
  cases saved
  · rfl
  · rfl

/-- A run that has ended passes over further steps. -/
theorem foldl_advanceSaving_halted (engine : Engine) (savings : Nat → Saving) (steps : List Step)
    (state : Run × ProgressFiles) {error : RunError} (ended : state.1.ending = some error) :
    steps.foldl (advanceSaving engine savings) state = state := by
  induction steps with
  | nil => rfl
  | cons step rest ih =>
    have halted : advanceSaving engine savings state step = state := by
      simp [advanceSaving, advance, ended]
    rw [List.foldl_cons, halted]
    exact ih

/-- What is walked after a visit that the run outlasts is walked from the visit on. -/
theorem Walked.of_visit {registry : Registry} {start run : Run} {visit : Visit} {status : StepStatus}
    {walk : Walk} {monitor : Monitor} {written : Nat}
    (walked : Walked registry
      { start.take (.ok status, visit.after registry, visit.events registry (start.number + 1)) with
        monitor, written }
      walk run)
    (outcome : visit.outcome registry = .ok status) :
    Walked registry start { walk with visits := visit :: walk.visits } run where
  runId_eq := walked.runId_eq
  started_eq := walked.started_eq
  ctx_eq := walked.ctx_eq
  ending_eq := walked.ending_eq
  tally_eq := by simpa [take, Visit.status?, outcome] using walked.tally_eq
  events_eq := by simpa [take, Visit.tell] using walked.events_eq

/-- A run that goes on takes the walk over the steps that follow. -/
theorem foldl_advanceSaving_walked (engine : Engine) (savings : Nat → Saving) (steps : List Step)
    (state : Run × ProgressFiles) (going : state.1.ending = none) :
    Walked engine.registry state.1 (engine.registry.walk state.1.ctx steps)
      (steps.foldl (advanceSaving engine savings) state).1 := by
  induction steps generalizing state with
  | nil => exact ⟨rfl, rfl, rfl, going, rfl, by simp [Registry.walk, Visit.tell]⟩
  | cons step rest ih =>
    obtain ⟨saved, next_eq⟩ := advanceSaving_fst engine savings state step
    rw [acknowledge_eq] at next_eq
    have advanced := state.1.advance_advanced engine step
    rw [List.foldl_cons]
    generalize advanceSaving engine savings state step = next at next_eq
    generalize (state.1.advance engine step).1 = run at advanced next_eq
    generalize (run.acknowledge saved).written = written at next_eq
    cases advanced with
    | halted error ended =>
      rw [going] at ended
      cases ended
    | cancelled reason _ stopped =>
      have ended : next.1.ending = some (.cancelled reason) := by rw [next_eq]
      rw [foldl_advanceSaving_halted engine savings rest next ended, next_eq,
        engine.registry.walk_cancelled stopped]
      exact ⟨rfl, rfl, rfl, rfl, rfl, by simp [Visit.tell]⟩
    | processed monitor _ live =>
      rw [step.process_eq] at next_eq
      cases outcome : Visit.outcome engine.registry ⟨step, state.1.ctx⟩ with
      | error error =>
        have ended : next.1.ending = some error := by rw [next_eq, outcome]; rfl
        rw [foldl_advanceSaving_halted engine savings rest next ended, next_eq, outcome,
          engine.registry.walk_error live outcome]
        exact ⟨rfl, rfl, rfl, rfl, by simp [take, Visit.status?, outcome], by simp [take, Visit.tell]⟩
      | ok status =>
        rw [outcome] at next_eq
        have walked := ih next (by rw [next_eq]; exact going)
        rw [next_eq] at walked
        rw [engine.registry.walk_ok live outcome]
        exact walked.of_visit outcome

end Run

/-- The tally of a walk. -/
def Walk.tally (registry : Registry) (walk : Walk) : Tally :=
  Tally.ofStatuses (walk.visits.filterMap (Visit.status? registry))

/-- What a run of a playbook has told when its walk is over. -/
def Walk.story (registry : Registry) (playbook : Playbook) (runId : String) (walk : Walk) : List Event :=
  .runStarted runId playbook.displayName playbook.steps.length :: Visit.tell registry 1 walk.visits

/-- The account of a run that came to its end, by its walk. -/
def Walk.summary (registry : Registry) (playbook : Playbook) (ctx : Context) (written : Nat) (walk : Walk) :
    Summary :=
  { playbook := playbook.displayName, runId := ctx.runId, tally := walk.tally registry
    elapsed := walk.ctx.outside.clock - ctx.outside.clock, checkpointsWritten := written
    recordsProcessed := walk.ctx.recordsProcessed, results := walk.ctx.results }

/-- The report of a run that has gone the way of a walk over the steps of a playbook, whatever came of its
snapshots. -/
structure Report.Follows (report : Report) (registry : Registry) (playbook : Playbook) (ctx : Context)
    (walk : Walk) : Prop where
  /-- The walk comes to the end of the steps, -/
  completed : walk.ending = none → ∃ written elapsed files, report =
    let tally := walk.tally registry
    ⟨.ok (walk.summary registry playbook ctx written), .completed, { walk.ctx.cleanUp with results := [] },
      walk.story registry playbook ctx.runId ++
        [.runCompleted ctx.runId tally.completed tally.skipped tally.failedIgnored elapsed],
      files⟩
  /-- or it ends before. -/
  failed : ∀ error, walk.ending = some error → ∃ files, report =
    ⟨.error error, .failed, walk.ctx.cleanUp,
      walk.story registry playbook ctx.runId ++ [.runFailed ctx.runId error.step? error.message],
      files⟩

namespace Report.Follows

variable {report : Report} {registry : Registry} {playbook : Playbook} {ctx : Context} {walk : Walk}

/-- A walk that ends before the end of the steps gives the report its outcome. -/
theorem outcome_of_ending (follows : report.Follows registry playbook ctx walk) {error : RunError}
    (ending : walk.ending = some error) : report.outcome = .error error := by
  obtain ⟨files, report_eq⟩ := follows.failed error ending
  rw [report_eq]

/-- A report of a run that came to its end has an ended walk behind it. -/
theorem ending_of_outcome (follows : report.Follows registry playbook ctx walk) {summary : Summary}
    (completed : report.outcome = .ok summary) : walk.ending = none := by
  cases ending : walk.ending with
  | none => rfl
  | some error =>
    rw [follows.outcome_of_ending ending] at completed
    cases completed

/-- Between its start and its end the report tells of the visits. -/
theorem events_of_visits (follows : report.Follows registry playbook ctx walk) :
    ∃ start last, report.events = start :: (Visit.tell registry 1 walk.visits ++ [last]) ∧
      start.number? = none ∧ last.number? = none := by
  cases ending : walk.ending with
  | none =>
    obtain ⟨written, elapsed, files, report_eq⟩ := follows.completed ending
    rw [report_eq]
    exact ⟨_, _, rfl, rfl, rfl⟩
  | some error =>
    obtain ⟨files, report_eq⟩ := follows.failed error ending
    rw [report_eq]
    exact ⟨_, _, rfl, rfl, rfl⟩

/-- What is left is the context of the walk without the collections and the buffers, and without the results if
the run came to its end. -/
theorem ctx_of_outcome (follows : report.Follows registry playbook ctx walk) :
    (∀ error, report.outcome = .error error → report.ctx = walk.ctx.cleanUp) ∧
      ∀ summary, report.outcome = .ok summary → report.ctx = { walk.ctx.cleanUp with results := [] } := by
  cases ending : walk.ending with
  | none =>
    obtain ⟨written, elapsed, files, report_eq⟩ := follows.completed ending
    rw [report_eq]
    exact ⟨fun _ failed => (by cases failed), fun _ _ => rfl⟩
  | some error =>
    obtain ⟨files, report_eq⟩ := follows.failed error ending
    rw [report_eq]
    exact ⟨fun _ _ => rfl, fun _ completed => (by cases completed)⟩

/-- So the variables and what lies outside are as the walk leaves them. -/
theorem ctx_kept (follows : report.Follows registry playbook ctx walk) :
    report.ctx.vars = walk.ctx.vars ∧ report.ctx.outside = walk.ctx.outside := by
  obtain ⟨failed, completed⟩ := follows.ctx_of_outcome
  cases outcome : report.outcome with
  | ok summary =>
    rw [completed summary outcome]
    exact ⟨rfl, rfl⟩
  | error error =>
    rw [failed error outcome]
    exact ⟨rfl, rfl⟩

/-- The summary of a run has the results of its walk. -/
theorem results_of_outcome (follows : report.Follows registry playbook ctx walk) {summary : Summary}
    (completed : report.outcome = .ok summary) : summary.results = walk.ctx.results := by
  obtain ⟨written, elapsed, files, report_eq⟩ := follows.completed (follows.ending_of_outcome completed)
  rw [report_eq] at completed
  cases completed
  rfl

end Report.Follows

namespace Engine

variable (engine : Engine) (savings : Nat → Saving) (playbook : Playbook) (ctx : Context)
  (files : ProgressFiles)

/-- The run of a playbook with steps is finished after the walk over these steps. -/
theorem execute_walk (nonempty : playbook.steps ≠ []) :
    ∃ run files', engine.execute savings playbook ctx files = run.finish playbook files' ∧
      Run.Walked engine.registry (Run.start engine.settings playbook ctx)
        (engine.registry.walk ctx playbook.steps) run := by
  have some_steps : playbook.steps.isEmpty = false := by simpa using nonempty
  let start := Run.start engine.settings playbook ctx
  let final := playbook.steps.foldl (Run.advanceSaving engine savings) (start, files)
  have walked : Run.Walked engine.registry start (engine.registry.walk ctx playbook.steps) final.1 :=
    Run.foldl_advanceSaving_walked engine savings playbook.steps (start, files) rfl
  refine ⟨final.1, final.2, ?_, walked⟩
  simp [Engine.execute, some_steps, start, final]

/-- The run of a playbook with steps goes the way of the walk over these steps. -/
theorem execute_follows (nonempty : playbook.steps ≠ []) :
    (engine.execute savings playbook ctx files).Follows engine.registry playbook ctx
      (engine.registry.walk ctx playbook.steps) := by
  obtain ⟨run, files', execute_eq, walked⟩ := engine.execute_walk savings playbook ctx files nonempty
  constructor
  case completed =>
    intro ending
    have going : run.ending = none := by rw [walked.ending_eq, ending]
    have tally_eq : run.tally = (engine.registry.walk ctx playbook.steps).tally engine.registry :=
      walked.tally_eq
    refine ⟨run.written, run.elapsed / Context.millisecond, files', ?_⟩
    rw [execute_eq]
    simp [Run.finish, going, Run.summary, Walk.summary, Walk.story, Run.elapsed, walked.runId_eq,
      walked.started_eq, walked.ctx_eq, walked.events_eq, tally_eq, Run.start]
  case failed =>
    intro error ending
    have ended : run.ending = some error := by rw [walked.ending_eq, ending]
    refine ⟨files', ?_⟩
    rw [execute_eq]
    simp [Run.finish, ended, Walk.story, walked.runId_eq, walked.ctx_eq, walked.events_eq, Run.start]

end Engine

end Stepwise
