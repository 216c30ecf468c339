import Stepwise.Proofs.Run.Walk

/-!
# What a run owes when it ends

However a run ends, it owes three things: the collections and the buffers are gone, the phase says whether
it came to its end, and an event tells of that end. A run of a playbook with steps pays all of them on
every way out. A playbook without steps is turned away before the run starts, and then only the phase is
right: the stores stay as they were, and no event is told.
-/

set_option autoImplicit false

namespace Stepwise

/-- A report of a run in which nothing is left open. -/
structure Report.IsClosed (report : Report) (runId : String) : Prop where
  collections_eq : report.ctx.collections = []
  buffers_eq : report.ctx.buffers = []
  completed : ∀ summary, report.outcome = .ok summary → report.phase = .completed ∧
    ∃ completed skipped failedIgnored elapsed,
      .runCompleted runId completed skipped failedIgnored elapsed ∈ report.events
  failed : ∀ error, report.outcome = .error error → report.phase = .failed ∧
    .runFailed runId error.step? error.message ∈ report.events

/-- Finishing a run closes it, whether or not it came to its end. -/
theorem Run.finish_isClosed (run : Run) (playbook : Playbook) (files : ProgressFiles) :
    (run.finish playbook files).IsClosed run.runId := by
  unfold Run.finish
  cases run.ending with
  | none =>
    refine ⟨rfl, rfl, ?_, by rintro error ⟨⟩⟩
    intro summary _
    refine ⟨rfl, run.tally.completed, run.tally.skipped, run.tally.failedIgnored,
      run.elapsed / Context.millisecond, ?_⟩
    simp
  | some error =>
    refine ⟨rfl, rfl, by rintro summary ⟨⟩, ?_⟩
    rintro other ⟨rfl⟩
    exact ⟨rfl, by simp⟩

namespace Engine

variable (engine : Engine) (savings : Nat → Saving) (playbook : Playbook) (ctx : Context)
  (files : ProgressFiles)

/-- A playbook without steps is turned away with everything as it was. -/
theorem execute_without_steps (empty : playbook.steps = []) :
    engine.execute savings playbook ctx files = ⟨.error (.load .noSteps), .failed, ctx, [], files⟩ := by
  simp [execute, empty]

/-- Whatever the actions do and whatever the stores held before, a run leaves nothing open exactly if its
playbook has steps; a playbook without steps is turned away with everything as it was. -/
theorem execute_isClosed_iff :
    ((engine.execute savings playbook ctx files).IsClosed ctx.runId ↔ playbook.steps ≠ []) ∧
      (playbook.steps = [] → engine.execute savings playbook ctx files =
        ⟨.error (.load .noSteps), .failed, ctx, [], files⟩) := by
  refine ⟨⟨?_, ?_⟩, engine.execute_without_steps savings playbook ctx files⟩
  · intro closed empty
    rw [engine.execute_without_steps savings playbook ctx files empty] at closed
    obtain ⟨-, told⟩ := closed.failed _ rfl
    cases told
  · intro nonempty
    obtain ⟨run, files', execute_eq, walked⟩ := engine.execute_walk savings playbook ctx files nonempty
    have runId_eq : run.runId = ctx.runId := walked.runId_eq
    rw [execute_eq, ← runId_eq]
    exact run.finish_isClosed playbook files'

/-- On a machine a run leaves nothing open exactly under the same condition, whatever files its steps find. -/
theorem executeOn_isClosed_iff (view : FileView) :
    (engine.executeOn view savings playbook ctx files).IsClosed ctx.runId ↔ playbook.steps ≠ [] := by
  constructor
  · intro closed empty
    obtain ⟨-, told⟩ := closed.failed (.load .noSteps) (by simp [executeOn, empty])
    simp [executeOn, empty] at told
  · intro nonempty
    obtain ⟨run, files', _, executeOn_eq, told⟩ :=
      engine.executeOn_tells view savings playbook ctx files nonempty
    rw [executeOn_eq, ← told.runId_eq]
    exact run.finish_isClosed playbook files'

/-- A collection outlives the run of a playbook without steps, and no event tells that the run failed. -/
theorem execute_blank_left_open :
    let ctx : Context := { Context.trial with collections := [("kept", [.null])] }
    let report := Engine.trial.execute (fun _ => ⟨true, true⟩) Playbook.blank ctx .none
    report.outcome = .error (.load .noSteps) ∧ report.phase = .failed ∧
      report.ctx.collections ≠ [] ∧ report.events = [] ∧ ¬ report.IsClosed ctx.runId := by
  refine ⟨rfl, rfl, List.cons_ne_nil _ _, rfl, ?_⟩
  intro closed
  exact List.cons_ne_nil _ _ closed.collections_eq

end Engine

end Stepwise
