import Stepwise.Proofs.Progress.Influence
import Stepwise.Proofs.Run.Erasure
import Stepwise.Proofs.Run.Tracking

/-!
# Runs on a machine go the way of walks

`Engine.execute` runs a playbook among files that stay, and what is proved of its runs by their walks is proved
of these. On a machine the steps of a run find the snapshots that the run itself has written. As long as no
action that is called answers otherwise for them, the run on a machine goes the way of a walk as well, the one
among the files at its start: the same run without snapshots finds the same files throughout, and so is a run of
`Engine.execute`. What walks say of cancelled runs, of the answers that runs keep and of steps that can be left
out is so carried over, but for the files that lie outside in the end.
-/

set_option autoImplicit false

namespace Stepwise

/-- The report with other files outside. -/
def Report.withFiles (report : Report) (files : String → Except String (List UInt8)) : Report :=
  { report with ctx := report.ctx.withFiles files }

/-- A run that writes no snapshots sees what it finds at its start, whatever else the machine would show. -/
theorem Run.foldl_advanceOn_unsaving (engine : Engine) (view : FileView) (savings : Nat → Saving)
    (files : ProgressFiles) (steps : List Step) (run : Run) :
    steps.foldl (advanceOn engine.unsaving view savings) (run, files) =
      steps.foldl (advanceOn engine.unsaving (fun _ => view files) savings) (run, files) := by
  induction steps generalizing run with
  | nil => rfl
  | cons step rest ih =>
    rw [List.foldl_cons, List.foldl_cons, advanceOn_unsaving, advanceOn_unsaving]
    exact ih _

namespace Engine

variable (engine : Engine) (keeps : engine.registry.KeepsFiles) (view : FileView) (savings : Nat → Saving)
  (playbook : Playbook) (ctx : Context) (files : ProgressFiles)

include keeps

/-- Without snapshots the run on a machine is the run among the files at its start. -/
theorem executeOn_unsaving_eq_execute (nonempty : playbook.steps ≠ []) :
    engine.unsaving.executeOn view savings playbook ctx files =
      engine.unsaving.execute savings playbook (ctx.withFiles (view files)) files := by
  have still := engine.unsaving.executeOn_eq_execute keeps savings playbook (ctx.withFiles (view files)) files
  rw [← still]
  obtain ⟨first, rest, steps_eq⟩ := List.exists_cons_of_ne_nil nonempty
  -- the files that the context starts with are forgotten at the first step
  have course_eq : engine.unsaving.courseOn view savings playbook ctx files =
      engine.unsaving.courseOn (fun _ => view files) savings playbook (ctx.withFiles (view files)) files := by
    unfold courseOn
    rw [steps_eq, Run.foldl_advanceOn_unsaving]
    rfl
  have files_eq : (ctx.withFiles (view files)).outside.files = view files := rfl
  simp only [executeOn, steps_eq, List.isEmpty_cons, course_eq, files_eq, Bool.false_eq_true, if_false]

variable (blind : ∀ visit ∈ engine.registry.visitsAmong (view files) ctx playbook.steps,
    visit.IsBlind engine.registry view)

include blind

/-- A run on a machine whose visits are blind goes the way of the walk among the files at its start. -/
theorem executeOn_follows (nonempty : playbook.steps ≠ []) :
    ∃ others, ((engine.executeOn view savings playbook ctx files).withFiles others).Follows engine.registry
      playbook (ctx.withFiles (view files))
      (engine.registry.walk (ctx.withFiles (view files)) playbook.steps) := by
  have same := engine.executeOn_unsaving view savings playbook ctx files blind
  rw [engine.executeOn_unsaving_eq_execute keeps view savings playbook ctx files nonempty] at same
  have quiet := engine.unsaving.execute_follows savings playbook (ctx.withFiles (view files)) files nonempty
  generalize engine.unsaving.execute savings playbook (ctx.withFiles (view files)) files = report at same quiet
  generalize engine.executeOn view savings playbook ctx files = other at same
  obtain ⟨outcome_eq, phase_eq, ⟨seen, ctx_eq⟩, events_eq⟩ := same
  obtain ⟨outcome, phase, left, events, progress⟩ := other
  dsimp only at outcome_eq phase_eq ctx_eq events_eq
  subst phase_eq ctx_eq events_eq
  -- what is left is as without snapshots once the files are, so only the number of snapshots may differ
  refine ⟨report.ctx.outside.files, ⟨fun ending => ?completed, fun error ending => ?failed⟩⟩
  case completed =>
    obtain ⟨written, elapsed, _, rfl⟩ := quiet.completed ending
    cases outcome with
    | error cause => cases outcome_eq
    | ok summary =>
      refine ⟨summary.checkpointsWritten, elapsed, progress, ?_⟩
      have summary_eq : { summary with checkpointsWritten := 0 } =
          (engine.registry.walk (ctx.withFiles (view files)) playbook.steps).summary engine.registry playbook
            (ctx.withFiles (view files)) 0 := Except.ok.inj outcome_eq
      obtain ⟨_, _, _, _, _, _, _⟩ := summary
      cases summary_eq
      rfl
  case failed =>
    obtain ⟨_, rfl⟩ := quiet.failed error ending
    cases outcome with
    | ok summary => cases outcome_eq
    | error cause =>
      cases outcome_eq
      exact ⟨progress, rfl⟩

/-- A run on a machine halts when it is cancelled. -/
theorem executeOn_heedsCancellation :
    ∃ others, ((engine.executeOn view savings playbook ctx files).withFiles others).HeedsCancellation
      engine.registry playbook.steps (ctx.withFiles (view files))
      (engine.registry.walk (ctx.withFiles (view files)) playbook.steps).visits := by
  by_cases empty : playbook.steps = []
  · refine ⟨view files, ?_⟩
    simp only [executeOn, empty, List.isEmpty_nil, if_true]
    exact Report.heedsCancellation_of_turned_away engine.registry _ files
  · obtain ⟨others, follows⟩ := engine.executeOn_follows keeps view savings playbook ctx files blind empty
    exact ⟨others, follows.heedsCancellation⟩

/-- A run on a machine keeps the answers of its actions. -/
theorem executeOn_keepsAnswers :
    ∃ others, ((engine.executeOn view savings playbook ctx files).withFiles others).KeepsAnswers
      engine.registry playbook.steps (ctx.withFiles (view files))
      (engine.registry.walk (ctx.withFiles (view files)) playbook.steps).visits := by
  by_cases empty : playbook.steps = []
  · refine ⟨view files, ?_⟩
    simp only [executeOn, empty, List.isEmpty_nil, if_true]
    exact engine.registry.keepsAnswers_of_walk rfl fun _ completed => (by cases completed)
  · obtain ⟨others, follows⟩ := engine.executeOn_follows keeps view savings playbook ctx files blind empty
    exact ⟨others, follows.keepsAnswers⟩

/-- A run on a machine without some inert steps, whose visits are blind as well, lacks only them. -/
theorem executeOn_lacksOnly (fewerSavings : Nat → Saving) {kept : Nat → Bool}
    (remain : picked kept playbook.steps ≠ [])
    (fewerBlind : ∀ visit ∈ engine.registry.visitsAmong (view files) ctx (picked kept playbook.steps),
      visit.IsBlind engine.registry view)
    (inert : ∀ i, kept i = false →
      ∃ visit, (engine.registry.walk (ctx.withFiles (view files)) playbook.steps).visits[i]? = some visit ∧
        visit.IsInert engine.registry) :
    let shorter : Playbook := { playbook with steps := picked kept playbook.steps }
    let visits := (engine.registry.walk (ctx.withFiles (view files)) playbook.steps).visits
    ∃ others fewerOthers,
      ((engine.executeOn view fewerSavings shorter ctx files).withFiles fewerOthers).LacksOnly
        ((engine.executeOn view savings playbook ctx files).withFiles others)
        ((picked (fun i => !kept i) visits).filterMap (Visit.status? engine.registry)) := by
  intro shorter visits
  have nonempty : playbook.steps ≠ [] := by
    intro empty
    exact remain (by rw [empty]; rfl)
  obtain ⟨others, follows⟩ := engine.executeOn_follows keeps view savings playbook ctx files blind nonempty
  obtain ⟨fewerOthers, fewer⟩ :=
    engine.executeOn_follows keeps view fewerSavings shorter ctx files fewerBlind remain
  exact ⟨others, fewerOthers, follows.lacksOnly fewer inert⟩

end Engine

end Stepwise
