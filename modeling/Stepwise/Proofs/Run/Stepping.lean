import Stepwise.Run.Pipeline

/-!
# How a run goes on

What processing one step can come to, and what one advance of a run can do, each as a list of cases that
says everything about the outcome. From these a property of runs is proved once for a step and holds of
the whole run: `Engine.execute_induction` is the only place where the fold over the steps is opened.
-/

set_option autoImplicit false

namespace Stepwise

/-- The ways in which a step can be processed. -/
inductive Step.Course (registry : Registry) (number : Nat) (step : Step) (ctx : Context) :
    Except RunError StepStatus × Context × List Event → Prop where
  /-- The step has no name or no action. -/
  | unshaped (shapeless : step.runnable? = none) :
      Course registry number step ctx (.ok .skipped, ctx, [.stepSkipped number none])
  /-- The guard does not hold. -/
  | unguarded (name action : String) (shaped : step.runnable? = some (name, action))
      (refused : step.allowedBy ctx = false) :
      Course registry number step ctx (.ok .skipped, ctx, [.stepSkipped number (some name)])
  /-- The action gives an answer. -/
  | completed (name action : String) (value : Value) (after : Context) (duration : Nat)
      (shaped : step.runnable? = some (name, action)) (allowed : step.allowedBy ctx = true)
      (answered : registry.dispatch action (ctx.resolveFields step.params) ctx = (.ok value, after)) :
      Course registry number step ctx
        (.ok .completed, after.keepAnswer step name value,
          [.stepStarted number name action, .stepCompleted number name duration])
  /-- The action fails. -/
  | failed (name action : String) (cause : ActionError) (after : Context) (duration : Nat)
      (shaped : step.runnable? = some (name, action)) (allowed : step.allowedBy ctx = true)
      (answered : registry.dispatch action (ctx.resolveFields step.params) ctx = (.error cause, after)) :
      Course registry number step ctx
        (step.statusOfError name cause, after,
          [.stepStarted number name action,
            .stepFailed number name cause.message (step.ignoreErrors && !cause.isCancellation) duration])

/-- A step is processed in one of these ways. -/
theorem Step.process_course (registry : Registry) (number : Nat) (step : Step) (ctx : Context) :
    Step.Course registry number step ctx (step.process registry number ctx) := by
  unfold Step.process
  cases shape : step.runnable? with
  | none => exact .unshaped shape
  | some named =>
    obtain ⟨name, action⟩ := named
    cases guard : step.allowedBy ctx with
    | false => simpa [guard] using Step.Course.unguarded name action shape guard
    | true =>
      rcases answer : registry.dispatch action (ctx.resolveFields step.params) ctx with
        ⟨value | cause, after⟩
      · simpa [guard, answer] using Step.Course.failed name action value after _ shape guard answer
      · simpa [guard, answer] using Step.Course.completed name action cause after _ shape guard answer

/-- A step that can run has the name that it is run under. -/
theorem Step.name_of_runnable? {step : Step} {name action : String}
    (shaped : step.runnable? = some (name, action)) : step.name = some name := by
  unfold Step.runnable? at shaped
  split at shaped
  · rename_i found _ named _
    obtain ⟨rfl, -⟩ := by simpa using shaped
    exact (Option.filter_eq_some_iff.mp named).1
  · cases shaped

/-- A failure that the run is to ignore counts as a step; any other ends the run, as cancelled if the
action was interrupted. -/
theorem Step.statusOfError_cases (step : Step) (name : String) (cause : ActionError) :
    (step.ignoreErrors && !cause.isCancellation) = true ∧
        step.statusOfError name cause = .ok .failedIgnored ∨
      (step.ignoreErrors && !cause.isCancellation) = false ∧
        (step.statusOfError name cause = .error (.stepFailed name cause) ∨
          ∃ reason, cause = .cancelled reason ∧
            step.statusOfError name cause = .error (.cancelled reason)) := by
  cases cause with
  | cancelled reason => exact .inr ⟨by simp [ActionError.isCancellation], .inr ⟨reason, rfl, rfl⟩⟩
  | _ => cases ignores : step.ignoreErrors <;> simp [statusOfError, ActionError.isCancellation, ignores]

namespace Run

/-- What an advance over a step can do to a run. -/
inductive Advanced (engine : Engine) (run : Run) (step : Step) : Run → Prop where
  /-- The run has ended before. -/
  | halted (error : RunError) (ended : run.ending = some error) : Advanced engine run step run
  /-- The run is cancelled before the step. -/
  | cancelled (reason : String) (going : run.ending = none) (stopped : run.ctx.cancelled = some reason) :
      Advanced engine run step { run with ending := some (.cancelled reason) }
  /-- The step is processed. -/
  | processed (monitor : Monitor) (going : run.ending = none) (live : run.ctx.cancelled = none) :
      Advanced engine run step
        { run.take (step.process engine.registry (run.number + 1) run.ctx) with monitor }

/-- An advance does one of these things. -/
theorem advance_advanced (engine : Engine) (run : Run) (step : Step) :
    Advanced engine run step (run.advance engine step).1 := by
  unfold advance
  cases ended : run.ending with
  | some error => exact .halted error ended
  | none =>
    cases stopped : run.ctx.cancelled with
    | some reason => exact .cancelled reason ended stopped
    | none => exact .processed _ ended stopped

/-- Nothing happens once a run goes no further. -/
theorem advance_of_ended (engine : Engine) {run : Run} (step : Step) {error : RunError}
    (ended : run.ending = some error) : run.advance engine step = (run, none) := by
  simp [advance, ended]

/-- A run that finds itself cancelled ends before the step. -/
theorem advance_of_cancelled (engine : Engine) {run : Run} (step : Step) {reason : String}
    (going : run.ending = none) (stopped : run.ctx.cancelled = some reason) :
    run.advance engine step = ({ run with ending := some (.cancelled reason) }, none) := by
  simp [advance, going, stopped]

/-- Any other run processes the step, and a snapshot may be due after it. -/
theorem advance_of_live (engine : Engine) {run : Run} (step : Step) (going : run.ending = none)
    (live : run.ctx.cancelled = none) :
    run.advance engine step =
      let after := run.take (step.process engine.registry (run.number + 1) run.ctx)
      ({ after with monitor := after.monitor.afterStep after.number after.ctx },
        if Checkpoints.isDue engine.settings.checkpointEvery after.number then some (after.snapshot step)
        else none) := by
  simp [advance, going, live]

/-- Writing the snapshot that is due only touches the count of snapshots. -/
theorem advanceSaving_fst (engine : Engine) (savings : Nat → Saving) (state : Run × ProgressFiles)
    (step : Step) :
    ∃ saved, (advanceSaving engine savings state step).1 =
      (state.1.advance engine step).1.acknowledge saved := by
  unfold advanceSaving
  rcases state.1.advance engine step with ⟨run, none | snapshot⟩
  · exact ⟨false, rfl⟩
  · exact ⟨_, rfl⟩

/-- What every advance and every note of a snapshot keeps, runs over any steps keep. -/
theorem foldl_advanceSaving_induction (engine : Engine) (savings : Nat → Saving)
    (kept : List Step → Run → Prop)
    (advance : ∀ seen run step, kept seen run → kept (seen ++ [step]) (run.advance engine step).1)
    (acknowledge : ∀ seen run saved, kept seen run → kept seen (run.acknowledge saved))
    (seen steps : List Step) (state : Run × ProgressFiles) (start : kept seen state.1) :
    kept (seen ++ steps) (steps.foldl (advanceSaving engine savings) state).1 := by
  induction steps generalizing seen state with
  | nil => simpa using start
  | cons step steps ih =>
    obtain ⟨saved, same⟩ := advanceSaving_fst engine savings state step
    have next : kept (seen ++ [step]) (advanceSaving engine savings state step).1 := by
      rw [same]
      exact acknowledge _ _ saved (advance seen state.1 step start)
    simpa using ih (seen ++ [step]) _ next

/-- What every change of the files outside keeps, too, runs on a machine keep over any steps. -/
theorem foldl_advanceOn_induction (engine : Engine) (view : FileView) (savings : Nat → Saving)
    (kept : List Step → Run → Prop)
    (advance : ∀ seen run step, kept seen run → kept (seen ++ [step]) (run.advance engine step).1)
    (acknowledge : ∀ seen run saved, kept seen run → kept seen (run.acknowledge saved))
    (withFiles : ∀ seen run files, kept seen run → kept seen (run.withFiles files))
    (seen steps : List Step) (state : Run × ProgressFiles) (start : kept seen state.1) :
    kept (seen ++ steps) (steps.foldl (advanceOn engine view savings) state).1 := by
  induction steps generalizing seen state with
  | nil => simpa using start
  | cons step steps ih =>
    have found : kept seen (state.1.withFiles (view state.2)) := withFiles _ _ _ start
    have next : kept (seen ++ [step]) (advanceOn engine view savings state step).1 :=
      foldl_advanceSaving_induction engine savings kept advance acknowledge seen [step]
        (state.1.withFiles (view state.2), state.2) found
    simpa using ih (seen ++ [step]) _ next

end Run

/-- What holds at the start of a run and is kept by every advance and every note of a snapshot holds of
the run that is finished at the end. -/
theorem Engine.execute_induction (engine : Engine) (savings : Nat → Saving) (playbook : Playbook)
    (ctx : Context) (files : ProgressFiles) (kept : List Step → Run → Prop)
    (start : kept [] (Run.start engine.settings playbook ctx))
    (advance : ∀ seen run step, kept seen run → kept (seen ++ [step]) (run.advance engine step).1)
    (acknowledge : ∀ seen run saved, kept seen run → kept seen (run.acknowledge saved))
    (nonempty : playbook.steps ≠ []) :
    ∃ run files', engine.execute savings playbook ctx files = run.finish playbook files' ∧
      kept playbook.steps run := by
  let final := playbook.steps.foldl (Run.advanceSaving engine savings)
    (Run.start engine.settings playbook ctx, files)
  have whole : kept ([] ++ playbook.steps) final.1 :=
    Run.foldl_advanceSaving_induction engine savings kept advance acknowledge [] playbook.steps _ start
  have some_steps : playbook.steps.isEmpty = false := by simpa using nonempty
  refine ⟨final.1, final.2, ?_, by simpa using whole⟩
  simp [Engine.execute, some_steps, final]

/-- If every change of the files outside keeps it, too, it holds of the run that is finished at the end on a
machine. -/
theorem Engine.executeOn_induction (engine : Engine) (view : FileView) (savings : Nat → Saving)
    (playbook : Playbook) (ctx : Context) (files : ProgressFiles) (kept : List Step → Run → Prop)
    (start : kept [] (Run.start engine.settings playbook ctx))
    (advance : ∀ seen run step, kept seen run → kept (seen ++ [step]) (run.advance engine step).1)
    (acknowledge : ∀ seen run saved, kept seen run → kept seen (run.acknowledge saved))
    (withFiles : ∀ seen run files, kept seen run → kept seen (run.withFiles files))
    (nonempty : playbook.steps ≠ []) :
    ∃ run files', engine.executeOn view savings playbook ctx files = run.finish playbook files' ∧
      kept playbook.steps run := by
  let final := engine.courseOn view savings playbook ctx files
  have whole : kept ([] ++ playbook.steps) final.1 :=
    Run.foldl_advanceOn_induction engine view savings kept advance acknowledge withFiles [] playbook.steps _
      start
  have some_steps : playbook.steps.isEmpty = false := by simpa using nonempty
  refine ⟨final.1, final.2, ?_, by simpa using whole⟩
  simp [Engine.executeOn, some_steps, final]

end Stepwise
