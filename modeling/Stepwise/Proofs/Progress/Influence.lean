import Stepwise.Proofs.Action.Files
import Stepwise.Proofs.Run.Walk

/-!
# Snapshots have no say in a run

A run writes snapshots to a file, and what it writes could come back to it: a step may read that file, or
the draft beside it. As long as no action that is called answers otherwise for it, the run goes the same way
as one that writes nothing. The two differ in the files that they see and in the count of snapshots, and no
step takes notice of either. Standard actions are blind to snapshots unless they read one of the two files, and
among files that stay altogether a run on a machine is the run that `Engine.execute` tells of.
-/

set_option autoImplicit false

namespace Stepwise

/-! ## Files that stay -/

/-- No action of the registry changes what lies in files. -/
def Registry.KeepsFiles (registry : Registry) : Prop :=
  ∀ name fields ctx, (registry.dispatch name fields ctx).2.outside.files = ctx.outside.files

/-- No built-in action writes a file. -/
theorem Registry.keepsFiles_standard (services : Services) : (standard services).KeepsFiles := by
  intro name fields ctx
  have stays : ctx.withFiles ctx.outside.files = ctx := rfl
  have done_eq : (standard services).dispatch name fields (ctx.withFiles ctx.outside.files) = _ :=
    dispatch_withFiles services ctx fun _ _ => rfl
  rw [stays] at done_eq
  exact congrArg (fun done => done.2.outside.files) done_eq

namespace Run

variable {engine : Engine}

/-- A step leaves the files as they were, when no action writes one. -/
theorem advance_files (keeps : engine.registry.KeepsFiles) (run : Run) (step : Step) :
    (run.advance engine step).1.ctx.outside.files = run.ctx.outside.files := by
  rcases Option.eq_none_or_eq_some run.ending with going | ⟨error, ended⟩
  · rcases Option.eq_none_or_eq_some run.ctx.cancelled with live | ⟨reason, stopped⟩
    · rw [advance_of_live engine step going live]
      have course := step.process_course engine.registry (run.number + 1) run.ctx
      generalize step.process engine.registry (run.number + 1) run.ctx = result at course
      cases course with
      | unshaped | unguarded => rfl
      | completed name action value after duration shaped allowed answered =>
        exact (congrArg (fun done => done.2.outside.files) answered).symm.trans (keeps _ _ _)
      | failed name action cause after duration shaped allowed answered =>
        have kept := (congrArg (fun done => done.2.outside.files) answered).symm.trans (keeps _ _ _)
        cases outcome : step.statusOfError name cause <;> simpa [take, outcome] using kept
    · rw [advance_of_cancelled engine step going stopped]
  · rw [advance_of_ended engine step ended]

/-- On a machine whose files stay, a run goes as it does among these files. -/
theorem foldl_advanceOn_eq (keeps : engine.registry.KeepsFiles) {view : FileView} (savings : Nat → Saving)
    (steps : List Step) (state : Run × ProgressFiles) (still : ∀ files, view files = state.1.ctx.outside.files) :
    steps.foldl (advanceOn engine view savings) state = steps.foldl (advanceSaving engine savings) state := by
  induction steps generalizing state with
  | nil => rfl
  | cons step rest ih =>
    have stays : state.1.withFiles (view state.2) = state.1 := by
      rw [still]
      rfl
    have here : advanceOn engine view savings state step = advanceSaving engine savings state step := by
      rw [advanceOn, stays]
    rw [List.foldl_cons, List.foldl_cons, here]
    obtain ⟨saved, next_eq⟩ := advanceSaving_fst engine savings state step
    refine ih _ fun files => (still files).trans ?_
    rw [next_eq, acknowledge]
    split <;> exact (advance_files keeps state.1 step).symm

end Run

/-- The runs among files that stay are the runs on a machine that shows them whatever snapshots are written. -/
theorem Engine.executeOn_eq_execute (engine : Engine) (keeps : engine.registry.KeepsFiles) (savings : Nat → Saving)
    (playbook : Playbook) (ctx : Context) (files : ProgressFiles) :
    engine.executeOn (fun _ => ctx.outside.files) savings playbook ctx files =
      engine.execute savings playbook ctx files := by
  have start_files : (Run.start engine.settings playbook ctx).ctx.outside.files = ctx.outside.files := rfl
  unfold executeOn execute courseOn
  rw [Run.foldl_advanceOn_eq keeps savings _ _ fun _ => start_files.symm]

/-! ## What does not depend on files -/

namespace Context

/-- Two contexts differ at most in the files that lie outside. -/
def SameButFiles (ctx other : Context) : Prop := ∃ files, other = ctx.withFiles files

/-- A context differs from itself in nothing but the files, and not in those. -/
theorem SameButFiles.refl (ctx : Context) : ctx.SameButFiles ctx := ⟨ctx.outside.files, rfl⟩

end Context

namespace Visit

/-- The action that is called does the same whatever the progress file and its draft hold. -/
def IsBlind (registry : Registry) (view : FileView) (visit : Visit) : Prop :=
  ∀ action fields, visit.call? = some (action, fields) → ∀ files : ProgressFiles,
    let here := registry.dispatch action fields visit.ctx
    let there := registry.dispatch action fields (visit.ctx.withFiles (view files))
    there.1 = here.1 ∧ here.2.SameButFiles there.2

/-- A visit whose action does the same does so altogether: what becomes of the step and what is told are the
same, and the contexts that are left differ in their files at most. -/
theorem IsBlind.process {registry : Registry} {view : FileView} {step : Step} {ctx : Context}
    (blind : IsBlind registry view ⟨step, ctx⟩) (number : Nat) (files : ProgressFiles) :
    let here := step.process registry number ctx
    let there := step.process registry number (ctx.withFiles (view files))
    there.1 = here.1 ∧ here.2.1.SameButFiles there.2.1 ∧ there.2.2 = here.2.2 := by
  have allowed_eq : step.allowedBy (ctx.withFiles (view files)) = step.allowedBy ctx := rfl
  have fields_eq : (ctx.withFiles (view files)).resolveFields step.params = ctx.resolveFields step.params :=
    rfl
  unfold IsBlind call? at blind
  unfold Step.process
  rw [allowed_eq, fields_eq]
  cases shaped : step.runnable? with
  | none => exact ⟨rfl, ⟨_, rfl⟩, rfl⟩
  | some named =>
    obtain ⟨name, action⟩ := named
    cases allowed : step.allowedBy ctx with
    | false => exact ⟨rfl, ⟨_, rfl⟩, rfl⟩
    | true =>
      obtain ⟨answer_eq, after_eq⟩ :=
        blind action (ctx.resolveFields step.params) (by simp [shaped, allowed]) files
      rcases here : registry.dispatch action (ctx.resolveFields step.params) ctx with ⟨answer, after⟩
      rcases there : registry.dispatch action (ctx.resolveFields step.params) (ctx.withFiles (view files))
        with ⟨answer', after'⟩
      rw [here, there] at answer_eq after_eq
      obtain ⟨others, rfl⟩ := after_eq
      cases answer_eq
      cases answer with
      | ok value => simpa [here, there] using ⟨⟨others, rfl⟩, rfl⟩
      | error cause => simpa [here, there] using ⟨⟨others, rfl⟩, rfl⟩

/-- A visit that calls an action is to a step that can be run, and calls the action of that step. -/
theorem runnable?_of_call? {visit : Visit} {action : String} {fields : Fields}
    (called : visit.call? = some (action, fields)) : ∃ name, visit.step.runnable? = some (name, action) := by
  unfold call? at called
  split at called
  · cases called
  · rename_i name named shaped
    split at called
    · cases called
      exact ⟨name, shaped⟩
    · cases called

/-- A visit to a standard action is blind if the file that it reads, if it reads one, holds the same whatever
the progress file and its draft hold. -/
theorem isBlind_standard (services : Services) {view : FileView} {visit : Visit}
    (elsewhere : ∀ action fields file, visit.call? = some (action, fields) →
      Registry.fileRead? action fields = some file → ∀ files, view files file = visit.ctx.outside.files file) :
    visit.IsBlind (Registry.standard services) view := by
  intro action fields called files
  dsimp only
  rw [Registry.dispatch_withFiles services visit.ctx fun file read => elsewhere action fields file called read files]
  exact ⟨rfl, _, rfl⟩

end Visit

/-- The visits of a run that finds the same files before every step. -/
def Registry.visitsAmong (registry : Registry) (files : String → Except String (List UInt8))
    (ctx : Context) : List Step → List Visit
  | [] => []
  | step :: rest =>
    match ctx.cancelled with
    | some _ => []
    | none =>
      let visit : Visit := ⟨step, ctx.withFiles files⟩
      match visit.outcome registry with
      | .error _ => [visit]
      | .ok _ => visit :: registry.visitsAmong files (visit.after registry) rest

/-- The steps that are visited are among the steps of the playbook. -/
theorem Registry.step_mem_of_mem_visitsAmong (registry : Registry)
    {files : String → Except String (List UInt8)} {ctx : Context} {steps : List Step} {visit : Visit}
    (member : visit ∈ registry.visitsAmong files ctx steps) : visit.step ∈ steps := by
  induction steps generalizing ctx with
  | nil => cases member
  | cons step rest ih =>
    unfold visitsAmong at member
    split at member
    · cases member
    · dsimp only at member
      split at member
      · rw [List.mem_singleton] at member
        simp [member]
      · rcases List.mem_cons.mp member with rfl | later
        · exact List.mem_cons_self
        · exact List.mem_cons_of_mem _ (ih later)

/-! ## Runs that differ in what they write -/

namespace Run

/-- Two runs differ at most in the files that they see and in how many snapshots they have written. -/
def SameButSaving (run other : Run) : Prop :=
  ∃ files written, other = { run.withFiles files with written }

end Run

/-- An engine that writes no snapshots. -/
def Engine.unsaving (engine : Engine) : Engine :=
  { engine with settings := engine.settings.withCheckpointEvery 0 }

/-- Two reports differ at most in the files and in the number of snapshots. -/
structure Report.SameButSaving (report other : Report) : Prop where
  outcome_eq : other.outcome.map (fun summary => { summary with checkpointsWritten := 0 }) =
    report.outcome.map (fun summary => { summary with checkpointsWritten := 0 })
  phase_eq : other.phase = report.phase
  ctx_eq : report.ctx.SameButFiles other.ctx
  events_eq : other.events = report.events

/-- Two runs that are the same but for saving finish the same but for saving. -/
theorem Run.SameButSaving.finish {run other : Run} (same : run.SameButSaving other) (playbook : Playbook)
    (files others : ProgressFiles) : (run.finish playbook files).SameButSaving (other.finish playbook others) := by
  obtain ⟨seen, written, rfl⟩ := same
  have ending_eq : ({ run.withFiles seen with written } : Run).ending = run.ending := rfl
  unfold Run.finish
  rw [ending_eq]
  cases run.ending with
  | none => exact ⟨rfl, rfl, ⟨seen, rfl⟩, rfl⟩
  | some error => exact ⟨rfl, rfl, ⟨seen, rfl⟩, rfl⟩

namespace Run

variable {engine : Engine} {view : FileView} {run other : Run} {step : Step}

/-- A blind visit takes runs that differ in what they write to runs that differ in what they write. -/
theorem advance_sameButSaving {files : ProgressFiles} {written : Nat}
    (other_eq : other = { run.withFiles (view files) with written })
    (blind : run.ending = none → run.ctx.cancelled = none → Visit.IsBlind engine.registry view ⟨step, run.ctx⟩) :
    (run.advance engine.unsaving step).1.SameButSaving (other.advance engine step).1 := by
  have ending_eq : other.ending = run.ending := by rw [other_eq]; rfl
  have cancelled_eq : other.ctx.cancelled = run.ctx.cancelled := by rw [other_eq]; rfl
  cases ended : run.ending with
  | some error =>
    rw [advance_of_ended engine.unsaving step ended, advance_of_ended engine step (ending_eq.trans ended)]
    exact ⟨_, _, other_eq⟩
  | none =>
    cases live : run.ctx.cancelled with
    | some reason =>
      rw [advance_of_cancelled engine.unsaving step ended live,
        advance_of_cancelled engine step (ending_eq.trans ended) (cancelled_eq.trans live), other_eq]
      exact ⟨view files, written, rfl⟩
    | none =>
      obtain ⟨outcome_eq, ⟨others, after_eq⟩, events_eq⟩ := (blind ended live).process (run.number + 1) files
      have there : step.process engine.registry (other.number + 1) other.ctx =
          ((step.process engine.registry (run.number + 1) run.ctx).1,
            (step.process engine.registry (run.number + 1) run.ctx).2.1.withFiles others,
            (step.process engine.registry (run.number + 1) run.ctx).2.2) := by
        rw [other_eq]
        exact Prod.ext outcome_eq (Prod.ext after_eq events_eq)
      have registry_eq : engine.unsaving.registry = engine.registry := rfl
      rw [advance_of_live engine.unsaving step ended live,
        advance_of_live engine step (ending_eq.trans ended) (cancelled_eq.trans live), registry_eq, there,
        other_eq]
      generalize step.process engine.registry (run.number + 1) run.ctx = result
      obtain ⟨_ | _, after, events⟩ := result
      · exact ⟨others, written, rfl⟩
      · exact ⟨others, written, rfl⟩

/-- Whether a save succeeded makes no difference but in what was saved. -/
theorem SameButSaving.acknowledge (same : run.SameButSaving other) (saved : Bool) :
    run.SameButSaving (other.acknowledge saved) := by
  obtain ⟨files, written, rfl⟩ := same
  cases saved
  · exact ⟨files, written, rfl⟩
  · exact ⟨files, written + 1, rfl⟩

/-- A run that saves nothing never asks for a save. -/
theorem advance_unsaving_snd (engine : Engine) (run : Run) (step : Step) :
    (run.advance engine.unsaving step).2 = none := by
  rcases Option.eq_none_or_eq_some run.ending with going | ⟨error, ended⟩
  · rcases Option.eq_none_or_eq_some run.ctx.cancelled with live | ⟨reason, stopped⟩
    · rw [advance_of_live engine.unsaving step going live]
      simp [Checkpoints.isDue, Engine.unsaving, Settings.withCheckpointEvery]
    · rw [advance_of_cancelled engine.unsaving step going stopped]
  · rw [advance_of_ended engine.unsaving step ended]

/-- So a step of such a run sees the files and leaves them as they are. -/
theorem advanceOn_unsaving (engine : Engine) (view : FileView) (savings : Nat → Saving) (run : Run)
    (files : ProgressFiles) (step : Step) :
    advanceOn engine.unsaving view savings (run, files) step =
      (((run.withFiles (view files)).advance engine.unsaving step).1, files) := by
  have none_due := advance_unsaving_snd engine (run.withFiles (view files)) step
  unfold advanceOn advanceSaving
  rcases advanced : (run.withFiles (view files)).advance engine.unsaving step with ⟨next, due⟩
  rw [advanced] at none_due
  cases none_due
  simp only

/-- A step after which the run goes on is the first of the visits, and the others start where it
ended. -/
theorem visitsAmong_advance (engine : Engine) (files : String → Except String (List UInt8)) (rest : List Step)
    (going : ((run.withFiles files).advance engine step).1.ending = none) :
    run.ending = none ∧ engine.registry.visitsAmong files run.ctx (step :: rest) =
      ⟨step, run.ctx.withFiles files⟩ ::
        engine.registry.visitsAmong files ((run.withFiles files).advance engine step).1.ctx rest := by
  rcases Option.eq_none_or_eq_some (run.withFiles files).ending with ended | ⟨error, ended⟩
  · refine ⟨ended, ?_⟩
    rcases Option.eq_none_or_eq_some (run.withFiles files).ctx.cancelled with live | ⟨reason, stopped⟩
    · have live' : run.ctx.cancelled = none := live
      rw [advance_of_live engine step ended live, step.process_eq] at going ⊢
      have ctx_eq : (run.withFiles files).ctx = run.ctx.withFiles files := rfl
      rw [ctx_eq] at going ⊢
      simp only [Registry.visitsAmong, live']
      cases outcome : Visit.outcome engine.registry ⟨step, run.ctx.withFiles files⟩ with
      | error error => simp [take, outcome] at going
      | ok status => rfl
    · rw [advance_of_cancelled engine step ended stopped] at going
      cases going
  · rw [advance_of_ended engine step ended, ended] at going
    cases going

/-- Runs that differ in what they write stay such runs, as long as all visits are blind. -/
theorem foldl_advanceOn_sameButSaving (savings : Nat → Saving) (files : ProgressFiles) (steps : List Step)
    (state : Run × ProgressFiles) (same : run.SameButSaving state.1)
    (blind : run.ending = none → ∀ visit ∈ engine.registry.visitsAmong (view files) run.ctx steps,
      visit.IsBlind engine.registry view) :
    (steps.foldl (advanceOn engine.unsaving view savings) (run, files)).1.SameButSaving
      (steps.foldl (advanceOn engine view savings) state).1 := by
  -- the run that writes nothing stays among the files at the start, and so is the one whose visits are blind
  induction steps generalizing run state with
  | nil => exact same
  | cons step rest ih =>
    rw [List.foldl_cons, List.foldl_cons, advanceOn_unsaving]
    obtain ⟨seen, written, state_eq⟩ := same
    have other_eq : state.1.withFiles (view state.2) =
        { (run.withFiles (view files)).withFiles (view state.2) with written } := by
      rw [state_eq]
      rfl
    obtain ⟨saved, next_eq⟩ := advanceSaving_fst engine savings (state.1.withFiles (view state.2), state.2) step
    refine ih _ ?_ ?_
    · rw [advanceOn, next_eq]
      refine (advance_sameButSaving other_eq fun going live => ?_).acknowledge saved
      have live' : run.ctx.cancelled = none := live
      refine blind going _ ?_
      simp only [Registry.visitsAmong, live']
      split <;> exact List.mem_cons_self
    · -- a run that goes on has come past the step, so what is left to visit was to be visited before
      intro going visit member
      obtain ⟨ended, visits_eq⟩ := visitsAmong_advance engine.unsaving (view files) rest going
      refine blind ended visit ?_
      exact visits_eq ▸ List.mem_cons_of_mem _ member

end Run

/-- A run whose visits are blind goes as if it wrote no snapshots. -/
theorem Engine.executeOn_unsaving (engine : Engine) (view : FileView) (savings : Nat → Saving)
    (playbook : Playbook) (ctx : Context) (files : ProgressFiles)
    (blind : ∀ visit ∈ engine.registry.visitsAmong (view files) ctx playbook.steps,
      visit.IsBlind engine.registry view) :
    (engine.unsaving.executeOn view savings playbook ctx files).SameButSaving
      (engine.executeOn view savings playbook ctx files) := by
  unfold executeOn
  split
  · exact ⟨rfl, rfl, .refl ctx, rfl⟩
  · have same : (Run.start engine.unsaving.settings playbook ctx).SameButSaving
        (Run.start engine.settings playbook ctx) := ⟨ctx.outside.files, 0, rfl⟩
    exact (Run.foldl_advanceOn_sameButSaving savings files playbook.steps _ same fun _ => blind).finish playbook _ _

end Stepwise
