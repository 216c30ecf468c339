import Stepwise.Proofs.Run.Halting
import Stepwise.Proofs.Table

/-!
# What a run keeps of answers

A step may keep the answer of its action twice: in a variable, for the steps that follow, and under its own
name among the results, for the summary. Both are set after the action, so that the answer wins over what
the action itself wrote, and only if the action completed. Provided that actions leave the results alone,
the summary has the names of the completed steps that asked for it, and under each name the answer to the
last of them.
-/

set_option autoImplicit false

namespace Stepwise

/-- No action of the registry changes the results of the run. -/
def Registry.LeavesResults (registry : Registry) : Prop :=
  ∀ name fields ctx, (registry.dispatch name fields ctx).2.results = ctx.results

namespace Visit

variable {registry : Registry} {visit : Visit}

/-- The step completed, and keeps the answer of its action under its name. -/
structure Tracks (registry : Registry) (visit : Visit) (name : String) (value : Value) : Prop where
  completed : visit.outcome registry = .ok .completed
  asked : visit.step.trackResult = true
  named : visit.step.name = some name
  answered : visit.answer? registry = some (.ok value)

/-- The entry that the visit adds to the results. -/
def tracked? (registry : Registry) (visit : Visit) : Option (String × Value) :=
  match visit.step.name, visit.answer? registry with
  | some name, some (.ok value) => if visit.step.trackResult then some (name, value) else none
  | _, _ => none

/-- A step whose action answered is completed. -/
theorem completed_of_answered {value : Value} (answered : visit.answer? registry = some (.ok value)) :
    visit.outcome registry = .ok .completed := by
  cases visit.course registry with
  | skipped uncalled _ _ => simp [answer?, uncalled] at answered
  | completed _ _ outcome => exact outcome
  | failed _ _ _ _ called dispatched _ => simp [answer?, called, dispatched] at answered

/-- What a visit tracks is what `Tracks` says of it. -/
theorem tracked?_eq_some_iff {name : String} {value : Value} :
    visit.tracked? registry = some (name, value) ↔ visit.Tracks registry name value := by
  constructor
  · intro tracked
    unfold tracked? at tracked
    split at tracked
    · rename_i named answered
      split at tracked
      · rename_i asked
        cases tracked
        exact ⟨completed_of_answered answered, asked, named, answered⟩
      · cases tracked
    · cases tracked
  · rintro ⟨-, asked, named, answered⟩
    simp [tracked?, asked, named, answered]

/-- The answer is kept in the context that the action leaves. -/
theorem after_of_answered {value : Value} (answered : visit.answer? registry = some (.ok value)) :
    ∃ name action fields left, visit.step.name = some name ∧ visit.call? = some (action, fields) ∧
      registry.dispatch action fields visit.ctx = (.ok value, left) ∧
      visit.after registry = left.keepAnswer visit.step name value := by
  have course := visit.step.process_course registry 0 visit.ctx
  have after_eq : visit.after registry = (visit.step.process registry 0 visit.ctx).2.1 := rfl
  generalize visit.step.process registry 0 visit.ctx = result at course after_eq
  cases course with
  | unshaped shapeless => simp [answer?, call?, shapeless] at answered
  | unguarded name action shaped refused => simp [answer?, call?, shaped, refused] at answered
  | completed name action other left duration shaped allowed dispatched =>
    have called : visit.call? = some (action, visit.ctx.resolveFields visit.step.params) := by
      simp [call?, shaped, allowed]
    obtain rfl : other = value := by simpa [answer?, called, dispatched] using answered
    exact ⟨name, action, _, left, Step.name_of_runnable? shaped, called, dispatched, after_eq⟩
  | failed name action cause left duration shaped allowed dispatched =>
    simp [answer?, call?, shaped, allowed, dispatched] at answered

/-- A step that was skipped leaves the context as it was. -/
theorem after_of_skipped (outcome : visit.outcome registry = .ok .skipped) :
    visit.after registry = visit.ctx := by
  cases visit.course registry with
  | skipped _ _ after => exact after
  | completed _ _ completed => simp [completed] at outcome
  | failed name _ _ cause _ _ failed =>
    rcases visit.step.statusOfError_cases name cause with ⟨-, status⟩ | ⟨-, status | ⟨_, -, status⟩⟩
    all_goals simp [failed, status] at outcome

/-- Of a step that fails there is what its action leaves. -/
theorem after_of_failed {action : String} {fields : Fields} {cause : ActionError} {left : Context}
    (called : visit.call? = some (action, fields))
    (dispatched : registry.dispatch action fields visit.ctx = (.error cause, left)) :
    visit.after registry = left := by
  cases visit.course registry with
  | skipped uncalled _ _ => simp [uncalled] at called
  | completed _ answered _ => simp [answer?, called, dispatched] at answered
  | failed _ _ _ _ calledHere dispatchedHere _ =>
    rw [called] at calledHere
    cases calledHere
    rw [dispatched] at dispatchedHere
    exact (Prod.mk.inj dispatchedHere).2.symm

/-- The variable that keeps the answer holds it, whatever the action wrote there. -/
theorem get?_register {value : Value} {target : String}
    (answered : visit.answer? registry = some (.ok value)) (asked : visit.step.register = some target)
    (nonempty : target ≠ "") : Table.get? (visit.after registry).vars target = some value := by
  obtain ⟨name, -, -, left, -, -, -, after_eq⟩ := after_of_answered answered
  rw [after_eq]
  simp [Context.keepAnswer, asked, Option.filter_some, nonempty]

/-- Where actions leave the results alone, a visit adds the entry that it tracks. -/
theorem results_after (leaves : registry.LeavesResults) :
    (visit.after registry).results = Table.putAll visit.ctx.results (visit.tracked? registry).toList := by
  cases visit.course registry with
  | skipped uncalled _ after =>
    simp [after, tracked?, answer?, uncalled]
  | completed value answered _ =>
    obtain ⟨name, action, fields, left, named, -, dispatched, after_eq⟩ := after_of_answered answered
    have kept : left.results = visit.ctx.results := by simpa [dispatched] using leaves action fields visit.ctx
    rw [after_eq]
    cases asked : visit.step.trackResult with
    | false => simp [Context.keepAnswer, tracked?, named, answered, asked, kept]
    | true => simp [Context.keepAnswer, tracked?, named, answered, asked, kept]
  | failed _ action fields cause called dispatched _ =>
    have kept : (visit.after registry).results = visit.ctx.results := by
      simpa [dispatched] using leaves action fields visit.ctx
    simp [kept, tracked?, answer?, called, dispatched]

end Visit

/-! ## Over a walk -/

namespace Registry

variable {registry : Registry} {ctx : Context} {steps : List Step} {visit : Visit}

/-- The results after a walk are those that its visits track, set one after another. -/
theorem walk_results (leaves : registry.LeavesResults) :
    (registry.walk ctx steps).ctx.results =
      Table.putAll ctx.results ((registry.walk ctx steps).visits.filterMap (Visit.tracked? registry)) := by
  induction steps generalizing ctx with
  | nil => rfl
  | cons step rest ih =>
    have here : (Visit.after registry ⟨step, ctx⟩).results =
        Table.putAll ctx.results (Visit.tracked? registry ⟨step, ctx⟩).toList := Visit.results_after leaves
    rcases registry.walk_cases ctx step with ⟨reason, halted⟩ | ⟨live, error, failed⟩ | ⟨live, _, passed⟩
    · rw [registry.walk_cancelled halted]
      rfl
    · rw [registry.walk_error live failed]
      cases tracked : Visit.tracked? registry ⟨step, ctx⟩ <;> simp [here, tracked]
    · -- what the visit tracks is set before anything that the rest of the walk tracks
      rw [registry.walk_ok live passed]
      cases tracked : Visit.tracked? registry ⟨step, ctx⟩ <;> simp [ih, here, tracked]

end Registry

/-- The last visit to track something under the name tracks the value. -/
def Visit.LastTracks (registry : Registry) (visits : List Visit) (name : String) (value : Value) : Prop :=
  ∃ before visit after, visits = before ++ visit :: after ∧ visit.Tracks registry name value ∧
    ∀ later ∈ after, ∀ other, ¬ later.Tracks registry name other

namespace Visit

variable {registry : Registry} {visits : List Visit} {name : String}

/-- The tracked names are those of the visits that track something. -/
theorem mem_names_tracked_iff : name ∈ Table.names (visits.filterMap (tracked? registry)) ↔
    ∃ visit ∈ visits, ∃ value, visit.Tracks registry name value := by
  simp only [Table.names, List.mem_map, List.mem_filterMap, Prod.exists, tracked?_eq_some_iff]
  constructor
  · rintro ⟨_, value, ⟨visit, member, tracks⟩, rfl⟩
    exact ⟨visit, member, value, tracks⟩
  · rintro ⟨visit, member, value, tracks⟩
    exact ⟨name, value, ⟨visit, member, tracks⟩, rfl⟩

/-- What visits track, set one after another from nothing on, is what the last of each name tracks. -/
theorem get?_putAll_tracked_iff {value : Value} :
    Table.get? (Table.putAll [] (visits.filterMap (tracked? registry))) name = some value ↔
      LastTracks registry visits name value := by
  have untracked (visits : List Visit) : name ∉ Table.names (visits.filterMap (tracked? registry)) ↔
      ∀ later ∈ visits, ∀ other, ¬ later.Tracks registry name other := by
    rw [mem_names_tracked_iff]
    push Not
    rfl
  simp only [Table.get?_putAll_eq_some_iff, Table.get?_nil, reduceCtorEq, and_false, or_false]
  constructor
  · -- visits that track nothing may stand before the one that tracks the last entry
    rintro ⟨earlier, later, split, last⟩
    obtain ⟨front, back, rfl, -, tail⟩ := List.filterMap_eq_append_iff.mp split
    obtain ⟨silent, visit, after, rfl, -, tracked, rfl⟩ := List.filterMap_eq_cons_iff.mp tail
    exact ⟨front ++ silent, visit, after, by simp, tracked?_eq_some_iff.mp tracked, (untracked after).mp last⟩
  · rintro ⟨before, visit, after, rfl, tracks, last⟩
    refine ⟨before.filterMap (tracked? registry), after.filterMap (tracked? registry), ?_,
      (untracked after).mpr last⟩
    simp [tracked?_eq_some_iff.mpr tracks]

end Visit

/-- A report of a run that keeps the answers of its actions, by the visits of the run. -/
structure Report.KeepsAnswers (report : Report) (registry : Registry) (steps : List Step) (ctx : Context)
    (visits : List Visit) : Prop where
  /-- The run comes to its first step in the context from which it starts, to every other step in the
  context that the step before leaves, and ends with the variables that the last step leaves. -/
  first : ∀ visit, visits[0]? = some visit → visit.ctx = ctx
  next : ∀ k visit next, visits[k]? = some visit → visits[k + 1]? = some next →
    next.ctx = visit.after registry
  last : report.ctx.vars = ((visits.getLast?.map (Visit.after registry)).getD ctx).vars
  /-- An answer that is registered is in its variable when the run comes to the next step. -/
  registered : ∀ (k : Nat) visit value target, visits[k]? = some visit →
    visit.answer? registry = some (.ok value) → visit.step.register = some target → target ≠ "" →
      Table.get? (visit.after registry).vars target = some value ∧
      ∀ next, visits[k + 1]? = some next → Table.get? next.ctx.vars target = some value
  /-- A step that is skipped changes nothing, -/
  skipped : ∀ visit ∈ visits, visit.outcome registry = .ok .skipped → visit.after registry = visit.ctx
  /-- and of one that fails there is only what its action leaves. -/
  failed : ∀ visit ∈ visits, ∀ action fields cause after, visit.call? = some (action, fields) →
    registry.dispatch action fields visit.ctx = (.error cause, after) → visit.after registry = after
  /-- A run that comes to its end has visited every step. Its summary has the names of those that track
  their answers, each with the answer that was tracked last. -/
  tracked : registry.LeavesResults → ctx.results = [] → ∀ summary, report.outcome = .ok summary →
    visits.map Visit.step = steps ∧
    (∀ name, name ∈ Table.names summary.results ↔
      ∃ visit ∈ visits, ∃ value, visit.Tracks registry name value) ∧
    ∀ name value, Table.get? summary.results name = some value ↔ Visit.LastTracks registry visits name value

/-- A report keeps the answers of the visits of a walk if it has the variables that the walk leaves and, in the
summary of a run that came to its end, the results. -/
theorem Registry.keepsAnswers_of_walk (registry : Registry) {report : Report} {steps : List Step} {ctx : Context}
    (vars_eq : report.ctx.vars = (registry.walk ctx steps).ctx.vars)
    (results_eq : ∀ summary, report.outcome = .ok summary → (registry.walk ctx steps).ending = none ∧
      summary.results = (registry.walk ctx steps).ctx.results) :
    report.KeepsAnswers registry steps ctx (registry.walk ctx steps).visits := by
  constructor
  case first => exact fun visit found => Registry.walk_first found
  case next => exact fun k visit next found foundNext => Registry.walk_next found foundNext
  case last => exact vars_eq.trans (congrArg Context.vars Registry.walk_ctx)
  case registered =>
    intro k visit value target found answered asked nonempty
    have kept := Visit.get?_register answered asked nonempty
    refine ⟨kept, ?_⟩
    intro next foundNext
    rw [Registry.walk_next found foundNext]
    exact kept
  case skipped => exact fun visit _ outcome => Visit.after_of_skipped outcome
  case failed => exact fun visit _ action fields cause left => Visit.after_of_failed
  case tracked =>
    intro leaves fresh summary completed
    obtain ⟨ending, results_eq⟩ := results_eq summary completed
    rw [Registry.walk_results leaves, fresh] at results_eq
    refine ⟨Registry.walk_complete ending, ?_, ?_⟩
    · intro name
      rw [results_eq, Table.mem_names_putAll_iff, Visit.mem_names_tracked_iff]
      simp [Table.names]
    · intro name value
      rw [results_eq]
      exact Visit.get?_putAll_tracked_iff

/-- A run that has gone the way of the walk over its steps keeps the answers of its actions. -/
theorem Report.Follows.keepsAnswers {report : Report} {registry : Registry} {playbook : Playbook} {ctx : Context}
    (follows : report.Follows registry playbook ctx (registry.walk ctx playbook.steps)) :
    report.KeepsAnswers registry playbook.steps ctx (registry.walk ctx playbook.steps).visits :=
  registry.keepsAnswers_of_walk follows.ctx_kept.1 fun _ completed =>
    ⟨follows.ending_of_outcome completed, follows.results_of_outcome completed⟩

/-- Every run keeps the answers of its actions. -/
theorem Engine.execute_keepsAnswers (engine : Engine) (savings : Nat → Saving) (playbook : Playbook)
    (ctx : Context) (files : ProgressFiles) :
    (engine.execute savings playbook ctx files).KeepsAnswers engine.registry playbook.steps ctx
      (engine.registry.walk ctx playbook.steps).visits := by
  by_cases empty : playbook.steps = []
  · rw [engine.execute_without_steps savings playbook ctx files empty, empty]
    exact engine.registry.keepsAnswers_of_walk rfl fun _ completed => (by cases completed)
  · exact (engine.execute_follows savings playbook ctx files empty).keepsAnswers

/-- Actions: one fails, one answers with its parameters, and one writes a variable. -/
def Registry.trackingTrial : Registry :=
  Table.ofList [("break", Action.failing "broken"), ("say", fun fields ctx => (.ok (.record fields), ctx)),
    ("write", fun _ ctx =>
      (.ok (.text "answered"), { ctx with vars := Table.put ctx.vars "x" (.text "written") }))]

/-- A playbook that answers twice under one name, with a failure of that name between them, and registers an
answer over what the action wrote. A step with an answer to track is skipped. -/
def Playbook.trackingTrial : Playbook :=
  { Playbook.blank with
    steps := [(Step.make "a" "say").tracked,
      (Step.make "a" "break").tracked.ignoringErrors,
      ((Step.make "a" "say").withParams (.record [("n", .count 2)])).tracked,
      { (Step.make "b" "say").tracked with guard := some (.fixed false) },
      (Step.make "c" "write").withRegister "x",
      (Step.make "d" "say").tracked] }

/-- The actions of the trial leave results alone, and its run keeps the second answer of the two. -/
theorem Engine.execute_keepsAnswers_trial :
    let engine : Engine := ⟨Registry.trackingTrial, Settings.default⟩
    let visits := (engine.registry.walk Context.trial Playbook.trackingTrial.steps).visits
    let report := engine.execute (fun _ => ⟨true, true⟩) Playbook.trackingTrial Context.trial .none
    engine.registry.LeavesResults ∧ Context.trial.results = [] ∧
      ∃ summary, report.outcome = .ok summary ∧ Table.names summary.results = ["a", "d"] ∧
        ∃ answer, Table.get? summary.results "a" = some answer ∧ answer.compact = "\x7b\"n\":2\x7d" ∧
          Visit.LastTracks engine.registry visits "a" answer ∧
          (Table.get? report.ctx.vars "x").bind Value.asText? = some "answered" := by
  intro engine visits report
  have leaves : engine.registry.LeavesResults := by
    intro name fields ctx
    unfold Registry.dispatch
    split
    · rename_i action found
      have member := Table.mem_of_get?_ofList found
      simp only [List.mem_cons, Prod.mk.injEq, List.not_mem_nil, or_false] at member
      rcases member with ⟨-, rfl⟩ | ⟨-, rfl⟩ | ⟨-, rfl⟩
      all_goals rfl
    · rfl
  have came : (report.outcome.toOption.map fun summary => Table.names summary.results) = some ["a", "d"] := by
    decide +kernel
  have said : (report.outcome.toOption.bind fun summary =>
      (Table.get? summary.results "a").map Value.compact) = some "\x7b\"n\":2\x7d" := by
    decide +kernel
  refine ⟨leaves, rfl, ?_⟩
  have keeps : report.KeepsAnswers engine.registry Playbook.trackingTrial.steps Context.trial visits :=
    engine.execute_keepsAnswers _ Playbook.trackingTrial Context.trial .none
  cases ended : report.outcome with
  | error cause => simp [ended, Except.toOption] at came
  | ok summary =>
    obtain ⟨-, -, last⟩ := keeps.tracked leaves rfl summary ended
    rw [ended] at came said
    obtain ⟨answer, found, compact⟩ := Option.map_eq_some_iff.mp said
    exact ⟨summary, rfl, Option.some.inj came, answer, found, compact, (last "a" answer).mp found,
      by decide +kernel⟩

end Stepwise
