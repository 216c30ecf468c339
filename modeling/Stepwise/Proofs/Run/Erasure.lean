import Stepwise.Proofs.Action.Serviceless
import Stepwise.Proofs.Run.Closing
import Stepwise.Proofs.Selection

/-!
# Steps that leave no trace

A visit is inert if the step is skipped, or if it calls a standard action that keeps to the run and ignores
that the action fails. An inert visit leaves the context as it found it. So the walk over the steps without
any of the inert ones makes the other visits, in the same contexts, and ends in the same way: that is
`Registry.walk_picked`, by induction on the steps with the choice shifted along. Of the report of a run only
the counts of skipped and ignored steps, and of snapshots, can tell the difference.
-/

set_option autoImplicit false

namespace Stepwise

/-! ## Inert visits -/

/-- A name under which the registry holds the standard action that calls no service. -/
def Registry.HoldsServiceless (registry : Registry) (name : String) : Prop :=
  ∃ action, (name, action) ∈ Registry.serviceless ∧ Table.get? registry name = some action

/-- A visit that skips the step, or at which such an action fails and the step ignores it. -/
def Visit.IsInert (registry : Registry) (visit : Visit) : Prop :=
  visit.outcome registry = .ok .skipped ∨
    visit.outcome registry = .ok .failedIgnored ∧
      ∃ call, visit.call? = some call ∧ registry.HoldsServiceless call.1

namespace Visit

variable {registry : Registry} {visit : Visit}

/-- An inert visit does not complete the step. -/
theorem IsInert.status (inert : visit.IsInert registry) :
    visit.status? registry = some .skipped ∨ visit.status? registry = some .failedIgnored := by
  rcases inert with skipped | ⟨ignored, -⟩
  · exact .inl (by simp [status?, skipped])
  · exact .inr (by simp [status?, ignored])

/-- So inert visits complete no step. -/
theorem count_completed_of_inert {visits : List Visit} (inert : ∀ visit ∈ visits, visit.IsInert registry) :
    (visits.filterMap (status? registry)).count .completed = 0 := by
  rw [List.count_eq_zero]
  intro completed
  obtain ⟨visit, member, status⟩ := List.mem_filterMap.mp completed
  rcases (inert visit member).status with skipped | ignored
  · rw [skipped] at status
    cases status
  · rw [ignored] at status
    cases status

/-- An inert visit does not end the run. -/
theorem IsInert.outcome_ne_error (inert : visit.IsInert registry) {error : RunError} :
    visit.outcome registry ≠ .error error := by
  intro failed
  rcases inert with skipped | ⟨ignored, -⟩
  · rw [failed] at skipped
    cases skipped
  · rw [failed] at ignored
    cases ignored

/-- An inert visit leaves the context as it was. -/
theorem IsInert.after_eq (inert : visit.IsInert registry) : visit.after registry = visit.ctx := by
  cases visit.course registry with
  | skipped _ _ after => exact after
  | completed value _ outcome =>
    rcases inert with skipped | ⟨ignored, -⟩
    · rw [outcome] at skipped
      cases skipped
    · rw [outcome] at ignored
      cases ignored
  | failed name action fields cause called dispatched outcome =>
    rcases inert with skipped | ⟨ignored, call, called', standard, member, found⟩
    · rw [outcome] at skipped
      rcases visit.step.statusOfError_cases name cause with
        ⟨-, status⟩ | ⟨-, status | ⟨_, -, status⟩⟩ <;> simp [status] at skipped
    · obtain rfl : (action, fields) = call := Option.some.inj (called.symm.trans called')
      have failed : standard fields visit.ctx = (.error cause, visit.after registry) := by
        simpa [Registry.dispatch, found] using dispatched
      -- an interruption is not ignored
      have lasting : ∀ reason, cause ≠ .cancelled reason := by
        rintro reason rfl
        rw [outcome] at ignored
        cases ignored
      exact Registry.failsInPlace_of_mem_serviceless member _ _ _ _ failed lasting

end Visit

/-! ## Walks without the inert steps -/

/-- The walk over the steps that are kept, if all others are inert: it makes the other visits. -/
theorem Registry.walk_picked (registry : Registry) (ctx : Context) (steps : List Step) (kept : Nat → Bool)
    (inert : ∀ i, kept i = false →
      ∃ visit, (registry.walk ctx steps).visits[i]? = some visit ∧ visit.IsInert registry) :
    registry.walk ctx (picked kept steps) =
      ⟨picked kept (registry.walk ctx steps).visits, (registry.walk ctx steps).ctx,
        (registry.walk ctx steps).ending⟩ := by
  induction steps generalizing ctx kept with
  | nil => rfl
  | cons step rest ih =>
    rcases registry.walk_cases ctx step with ⟨reason, halted⟩ | ⟨live, error, failed⟩ | ⟨live, _, passed⟩
    · -- nothing is visited, so nothing is left out
      rw [registry.walk_cancelled halted] at inert ⊢
      have first : kept 0 = true := by
        apply Bool.of_not_eq_false
        intro left_out
        obtain ⟨_, found, -⟩ := inert 0 left_out
        cases found
      rw [picked_cons_of_chosen step rest first, registry.walk_cancelled halted]
      rfl
    · -- the visit that ends the run is not inert
      rw [registry.walk_error live failed] at inert ⊢
      have first : kept 0 = true := by
        apply Bool.of_not_eq_false
        intro left_out
        obtain ⟨_, found, still⟩ := inert 0 left_out
        cases found
        exact still.outcome_ne_error failed
      rw [picked_cons_of_chosen step rest first, registry.walk_error live failed,
        picked_cons_of_chosen _ _ first]
      rfl
    · rw [registry.walk_ok live passed] at inert ⊢
      have later := ih (Visit.after registry ⟨step, ctx⟩) (fun i => kept (i + 1)) (by
        intro i left_out
        obtain ⟨visit, found, still⟩ := inert (i + 1) left_out
        exact ⟨visit, by simpa using found, still⟩)
      cases first : kept 0 with
      | true =>
        rw [picked_cons_of_chosen step rest first, registry.walk_ok live passed, later,
          picked_cons_of_chosen _ _ first]
      | false =>
        obtain ⟨_, found, still⟩ := inert 0 first
        cases found
        rw [still.after_eq] at later ⊢
        rw [picked_cons_of_not_chosen step rest first, later, picked_cons_of_not_chosen _ _ first]

/-! ## Runs without the inert steps -/

/-- A report of a shorter run differs from that of a longer one by nothing but the counts: of steps, by what
became of those that are left out, and of snapshots. -/
structure Report.LacksOnly (shorter longer : Report) (lost : List StepStatus) : Prop where
  ctx_eq : shorter.ctx = longer.ctx
  phase_eq : shorter.phase = longer.phase
  error_iff : ∀ error, shorter.outcome = .error error ↔ longer.outcome = .error error
  summary : ∀ summary, longer.outcome = .ok summary → ∃ briefer, shorter.outcome = .ok briefer ∧
    briefer = { summary with tally := briefer.tally, checkpointsWritten := briefer.checkpointsWritten } ∧
    briefer.tally.completed = summary.tally.completed ∧
    briefer.tally.skipped + lost.count .skipped = summary.tally.skipped ∧
    briefer.tally.failedIgnored + lost.count .failedIgnored = summary.tally.failedIgnored

/-- What became of the visits that are picked and of those that are not adds up. -/
theorem Walk.countOf_tally_picked (registry : Registry) (kept : Nat → Bool) (walk shorter : Walk)
    (visits_eq : shorter.visits = picked kept walk.visits) (status : StepStatus) :
    (shorter.tally registry).countOf status +
        ((picked (fun i => !kept i) walk.visits).filterMap (Visit.status? registry)).count status =
      (walk.tally registry).countOf status := by
  have parts := ((picked_append_perm kept walk.visits).filterMap (Visit.status? registry)).count_eq status
  rw [List.filterMap_append, List.count_append] at parts
  rw [Walk.tally, Walk.tally, Tally.countOf_ofStatuses, Tally.countOf_ofStatuses, visits_eq]
  exact parts

/-- A report that goes the way of the walk without some inert steps lacks only them, compared with one that goes
the way of the whole walk. -/
theorem Report.Follows.lacksOnly {longer shorter : Report} {registry : Registry} {playbook : Playbook}
    {ctx : Context} {kept : Nat → Bool}
    (follows : longer.Follows registry playbook ctx (registry.walk ctx playbook.steps))
    (fewer : shorter.Follows registry { playbook with steps := picked kept playbook.steps } ctx
      (registry.walk ctx (picked kept playbook.steps)))
    (inert : ∀ i, kept i = false →
      ∃ visit, (registry.walk ctx playbook.steps).visits[i]? = some visit ∧ visit.IsInert registry) :
    shorter.LacksOnly longer
      ((picked (fun i => !kept i) (registry.walk ctx playbook.steps).visits).filterMap
        (Visit.status? registry)) := by
  have walk_eq := registry.walk_picked ctx playbook.steps kept inert
  cases ending : (registry.walk ctx playbook.steps).ending with
  | some error =>
    obtain ⟨files, longer_eq⟩ := follows.failed error ending
    obtain ⟨fewerFiles, shorter_eq⟩ := fewer.failed error (by rw [walk_eq]; exact ending)
    rw [longer_eq, shorter_eq, walk_eq]
    exact ⟨rfl, rfl, fun _ => Iff.rfl, by rintro summary ⟨⟩⟩
  | none =>
    obtain ⟨written, elapsed, files, longer_eq⟩ := follows.completed ending
    obtain ⟨fewerWritten, elapsed', fewerFiles, shorter_eq⟩ :=
      fewer.completed (by rw [walk_eq]; exact ending)
    have counted := Walk.countOf_tally_picked registry kept (registry.walk ctx playbook.steps)
      (registry.walk ctx (picked kept playbook.steps)) (by rw [walk_eq])
    have uncompleted :
        ((picked (fun i => !kept i) (registry.walk ctx playbook.steps).visits).filterMap
          (Visit.status? registry)).count .completed = 0 := by
      apply Visit.count_completed_of_inert
      intro visit member
      obtain ⟨i, left_out, found⟩ := exists_of_mem_picked member
      obtain ⟨_, found', still⟩ := inert i (by simpa using left_out)
      obtain rfl := Option.some.inj (found.symm.trans found')
      exact still
    rw [longer_eq, shorter_eq]
    refine ⟨by rw [walk_eq], rfl, by simp, ?_⟩
    rintro summary ⟨rfl⟩
    refine ⟨_, rfl, by simp [Walk.summary, walk_eq, Playbook.displayName], ?_,
      counted .skipped, counted .failedIgnored⟩
    have completed := counted .completed
    rw [uncompleted] at completed
    exact completed

namespace Engine

variable (engine : Engine) (savings fewerSavings : Nat → Saving) (playbook : Playbook) (ctx : Context)
  (files fewerFiles : ProgressFiles)

/-- A run without some inert steps calls the same actions with the same parameters in the same order as the
whole run, apart from those of the steps that are left out, and comes to the same end. -/
theorem execute_picked (kept : Nat → Bool) (remain : picked kept playbook.steps ≠ [])
    (inert : ∀ i, kept i = false →
      ∃ visit, (engine.registry.walk ctx playbook.steps).visits[i]? = some visit ∧
        visit.IsInert engine.registry) :
    let shorter : Playbook := { playbook with steps := picked kept playbook.steps }
    let visits := (engine.registry.walk ctx playbook.steps).visits
    (engine.registry.walk ctx shorter.steps).visits.filterMap Visit.call? =
        (picked kept visits).filterMap Visit.call? ∧
      (engine.execute fewerSavings shorter ctx fewerFiles).LacksOnly
        (engine.execute savings playbook ctx files)
        ((picked (fun i => !kept i) visits).filterMap (Visit.status? engine.registry)) := by
  intro shorter visits
  have walk_eq := engine.registry.walk_picked ctx playbook.steps kept inert
  have nonempty : playbook.steps ≠ [] := by
    intro empty
    exact remain (by rw [empty]; rfl)
  refine ⟨by rw [walk_eq], ?_⟩
  exact (engine.execute_follows savings playbook ctx files nonempty).lacksOnly
    (engine.execute_follows fewerSavings shorter ctx fewerFiles remain) inert

end Engine

/-- An engine with two of the standard actions. -/
def Engine.erasureTrial : Engine :=
  ⟨[("log", Action.log), ("set_variable", Action.setVariable)], Settings.default⟩

/-- A playbook with a step that says nothing, one that sets no variable in particular and does not mind, and
one that logs. -/
def Playbook.erasureTrial : Playbook :=
  { Playbook.blank with
    steps := [Step.blank, (Step.make "vain" "set_variable").ignoringErrors, Step.make "last" "log"] }

/-- Without its first two steps the trial comes to the same end, with one step skipped and one failure
ignored less. -/
theorem Engine.execute_picked_trial :
    let ctx := Context.trial
    let kept : Nat → Bool := fun i => decide (2 ≤ i)
    let shorter : Playbook := { Playbook.erasureTrial with steps := picked kept Playbook.erasureTrial.steps }
    let savings : Nat → Saving := fun _ => ⟨true, true⟩
    picked kept Playbook.erasureTrial.steps ≠ [] ∧
      (∀ i, kept i = false → ∃ visit,
        (Engine.erasureTrial.registry.walk ctx Playbook.erasureTrial.steps).visits[i]? = some visit ∧
          visit.IsInert Engine.erasureTrial.registry) ∧
      (Engine.erasureTrial.execute savings shorter ctx .none).LacksOnly
        (Engine.erasureTrial.execute savings Playbook.erasureTrial ctx .none)
        [.skipped, .failedIgnored] := by
  intro ctx kept shorter savings
  have remain : picked kept Playbook.erasureTrial.steps ≠ [] := List.cons_ne_nil _ _
  have inert : ∀ i, kept i = false → ∃ visit,
      (Engine.erasureTrial.registry.walk ctx Playbook.erasureTrial.steps).visits[i]? = some visit ∧
        visit.IsInert Engine.erasureTrial.registry := by
    intro i left_out
    have early : i < 2 := by simpa [kept] using left_out
    match i, early with
    | 0, _ => exact ⟨⟨Step.blank, ctx⟩, rfl, .inl rfl⟩
    | 1, _ =>
      refine ⟨⟨(Step.make "vain" "set_variable").ignoringErrors, ctx⟩, rfl, .inr ⟨rfl, _, rfl, ?_⟩⟩
      exact ⟨Action.setVariable, by simp [Registry.serviceless, Registry.inMemory], rfl⟩
  exact ⟨remain, inert,
    (Engine.erasureTrial.execute_picked savings savings Playbook.erasureTrial ctx .none .none kept remain
      inert).2⟩

end Stepwise
