import Stepwise.Proofs.Run.Closing

/-!
# A cancelled run halts

A run looks whether it is cancelled before every step, so the action in progress when that happens is the
last: no further step is started, skipped or called. The run then ends as cancelled for the reason that
was given first, unless that action ends it in its own right: by a failure that is not ignored, or by
saying itself that it was interrupted, which no step can ignore. Only a run that has visited every step
comes to its end.

That nothing is called beyond the visits is said of the context. An action works on the context alone, so each
visit starts in the context that the one before leaves, and the run itself leaves the context of its last visit,
with the calls noted there and no more, but for the stores that it drops at the end.
-/

set_option autoImplicit false

namespace Stepwise

/-- The state of a run's cancellation after some requests, in the order in which they were made. -/
def Cancellation.ofRequests (reasons : List String) : Cancellation :=
  reasons.foldl Cancellation.request none

/-- The reason that was given first stays, whatever is requested later. -/
theorem Cancellation.ofRequests_cons (first : String) (later : List String) :
    Cancellation.ofRequests (first :: later) = some first := by
  show later.foldl Cancellation.request (some first) = some first
  induction later with
  | nil => rfl
  | cons reason rest ih => exact ih

namespace Visit

/-- The reason for which the action says that it was interrupted, if it says so. -/
def interruption? (registry : Registry) (visit : Visit) : Option String :=
  match visit.answer? registry with
  | some (.error (.cancelled reason)) => some reason
  | _ => none

/-- The action fails, and the step does not ignore it. -/
def Fails (registry : Registry) (visit : Visit) : Prop :=
  ∃ cause, visit.answer? registry = some (.error cause) ∧ cause.isCancellation = false ∧
    visit.step.ignoreErrors = false

/-- What a visit comes to, by what its action answers. -/
theorem outcome_cases (registry : Registry) (visit : Visit) :
    (∃ reason, visit.interruption? registry = some reason ∧
        visit.outcome registry = .error (.cancelled reason)) ∨
      visit.interruption? registry = none ∧
        (visit.Fails registry ∨ ∃ status, visit.outcome registry = .ok status) := by
  cases visit.course registry with
  | skipped uncalled outcome _ =>
    have unanswered : visit.answer? registry = none := by simp [answer?, uncalled]
    exact .inr ⟨by simp [interruption?, unanswered], .inr ⟨_, outcome⟩⟩
  | completed value answered outcome =>
    exact .inr ⟨by simp [interruption?, answered], .inr ⟨_, outcome⟩⟩
  | failed name action fields cause called dispatched outcome =>
    have answered : visit.answer? registry = some (.error cause) := by simp [answer?, called, dispatched]
    cases cause with
    | cancelled reason => exact .inl ⟨reason, by simp [interruption?, answered], outcome⟩
    | _ =>
      refine .inr ⟨by simp [interruption?, answered], ?_⟩
      cases ignores : visit.step.ignoreErrors with
      | false => exact .inl ⟨_, answered, rfl, ignores⟩
      | true => exact .inr ⟨.failedIgnored, by simp [outcome, Step.statusOfError, ignores]⟩

/-- An event of visits in a row is told under the number of one of them. -/
theorem number?_lt_of_mem_tell {registry : Registry} {event : Event} {number : Nat} {visits : List Visit}
    (member : event ∈ tell registry number visits) {other : Nat} (numbered : event.number? = some other) :
    other < number + visits.length := by
  induction visits generalizing number with
  | nil => cases member
  | cons visit rest ih =>
    rcases List.mem_append.mp member with here | later
    · obtain ⟨episode, events_eq, -⟩ := (visit.step.process_course registry number visit.ctx).told
      have inside : event ∈ episode.events number := by rwa [← events_eq]
      rw [Episode.number?_of_mem_events inside] at numbered
      cases numbered
      simp
    · have within := ih later
      rw [List.length_cons]
      omega

end Visit

namespace Registry

variable {registry : Registry} {ctx : Context} {steps : List Step} {visit : Visit}

/-- A visit that leaves the run cancelled is the last, and if it lets the run go on and more steps are to
come, the walk ends for the reason of the cancellation. -/
theorem walk_halts {k : Nat} {reason : String}
    (found : (registry.walk ctx steps).visits[k]? = some visit)
    (stopped : (visit.after registry).cancelled = some reason) :
    (registry.walk ctx steps).visits.length = k + 1 ∧
      ∀ status, visit.outcome registry = .ok status → k + 1 < steps.length →
        (registry.walk ctx steps).ending = some (.cancelled reason) := by
  induction steps generalizing ctx k with
  | nil => simp [walk] at found
  | cons step rest ih =>
    rcases registry.walk_cases ctx step with ⟨other, halted⟩ | ⟨live, error, failed⟩ | ⟨live, _, passed⟩
    · simp [registry.walk_cancelled halted] at found
    · -- the visit that ends the run is the only one
      rw [registry.walk_error live failed] at found ⊢
      obtain ⟨rfl, rfl⟩ : k = 0 ∧ ⟨step, ctx⟩ = visit := by
        simpa [List.getElem?_singleton] using found
      refine ⟨rfl, ?_⟩
      intro status passed
      rw [failed] at passed
      cases passed
    · rw [registry.walk_ok live passed] at found ⊢
      cases k with
      | zero =>
        obtain rfl : ⟨step, ctx⟩ = visit := by simpa using found
        cases rest with
        | nil => simp [walk]
        | cons next rest => simp [registry.walk_cancelled stopped]
      | succ k =>
        obtain ⟨length_eq, ending⟩ := ih (by simpa using found)
        refine ⟨by simp [length_eq], ?_⟩
        intro status passed more
        exact ending status passed (by simpa using more)

/-- A visit that ends the run gives the walk its ending. -/
theorem walk_ending_of_error {error : RunError} (member : visit ∈ (registry.walk ctx steps).visits)
    (failed : visit.outcome registry = .error error) :
    (registry.walk ctx steps).ending = some error := by
  induction steps generalizing ctx with
  | nil => simp [walk] at member
  | cons step rest ih =>
    rcases registry.walk_cases ctx step with ⟨_, halted⟩ | ⟨live, other, broken⟩ | ⟨live, _, passed⟩
    · simp [registry.walk_cancelled halted] at member
    · rw [registry.walk_error live broken] at member ⊢
      obtain rfl : visit = ⟨step, ctx⟩ := by simpa using member
      rw [broken] at failed
      cases failed
      rfl
    · rw [registry.walk_ok live passed] at member ⊢
      rcases List.mem_cons.mp member with rfl | later
      · rw [passed] at failed
        cases failed
      · exact ih later

/-- A walk that comes to the end of the steps has visited each of them. -/
theorem walk_complete (ending : (registry.walk ctx steps).ending = none) :
    (registry.walk ctx steps).visits.map Visit.step = steps := by
  induction steps generalizing ctx with
  | nil => rfl
  | cons step rest ih =>
    rcases registry.walk_cases ctx step with ⟨_, halted⟩ | ⟨live, _, failed⟩ | ⟨live, _, passed⟩
    · simp [registry.walk_cancelled halted] at ending
    · simp [registry.walk_error live failed] at ending
    · rw [registry.walk_ok live passed] at ending ⊢
      simp [ih ending]

end Registry

/-- A report of a run that halts when it is cancelled, by the visits of the run. -/
structure Report.HeedsCancellation (report : Report) (registry : Registry) (steps : List Step)
    (ctx : Context) (visits : List Visit) : Prop where
  /-- The visits are to the first steps, in order: to the first of them in the context from which the run
  starts, to every other in the context that the visit before leaves. -/
  inOrder : visits.map Visit.step <+: steps
  first : ∀ visit, visits[0]? = some visit → visit.ctx = ctx
  next : ∀ (k : Nat) visit next, visits[k]? = some visit → visits[k + 1]? = some next →
    next.ctx = visit.after registry
  /-- A run that fails leaves what its visits leave, but for the collections and the buffers. -/
  failed : steps ≠ [] → ∀ error, report.outcome = .error error →
    report.ctx = (Visit.leave registry ctx visits).cleanUp
  /-- Between its start and its end the run tells of its visits. -/
  story : steps ≠ [] → ∃ start last, report.events = start :: (Visit.tell registry 1 visits ++ [last]) ∧
    start.number? = none ∧ last.number? = none
  /-- So no event is about a step that was not visited. -/
  told : ∀ event ∈ report.events, ∀ number, event.number? = some number → number ≤ visits.length
  /-- A run that is cancelled before it starts comes to no step, and does nothing but drop what is stored. -/
  before : ∀ first later, ctx.cancelled = .ofRequests (first :: later) →
    visits = [] ∧
      (steps ≠ [] → report.outcome = .error (.cancelled first) ∧ report.ctx = ctx.cleanUp)
  /-- A run that is cancelled during an action comes to no further step, and nothing outside changes from the
  end of that step on: no call is made, no line logged. If there is a further step, and the action did not fail
  for good, the run ends as cancelled. -/
  during : ∀ (k : Nat) visit first later, visits[k]? = some visit →
    (visit.after registry).cancelled = .ofRequests (first :: later) →
      visits.length = k + 1 ∧
      report.ctx.outside = (visit.after registry).outside ∧
      (k + 1 < steps.length → ¬ visit.Fails registry →
        report.outcome = .error (.cancelled ((visit.interruption? registry).getD first)))
  /-- An action that says that it was interrupted ends the run, whatever its step ignores. -/
  interrupted : ∀ visit ∈ visits, ∀ reason, visit.interruption? registry = some reason →
    report.outcome = .error (.cancelled reason)
  /-- A run that comes to its end has visited every step, and leaves what its visits leave, but for the
  collections, the buffers and the results. -/
  complete : ∀ summary, report.outcome = .ok summary → visits.map Visit.step = steps ∧
    report.ctx = { (Visit.leave registry ctx visits).cleanUp with results := [] }

namespace Report.Follows

variable {report : Report} {registry : Registry} {playbook : Playbook} {ctx : Context}

/-- No event of the report is about a step that was not visited. -/
theorem number_le_of_mem_events {walk : Walk} (follows : report.Follows registry playbook ctx walk)
    {event : Event} {number : Nat} (member : event ∈ report.events) (numbered : event.number? = some number) :
    number ≤ walk.visits.length := by
  obtain ⟨start, last, events_eq, start_unnumbered, last_unnumbered⟩ := follows.events_of_visits
  rw [events_eq, List.mem_cons, List.mem_append, List.mem_singleton] at member
  rcases member with rfl | inside | rfl
  · rw [start_unnumbered] at numbered
    cases numbered
  · have within := Visit.number?_lt_of_mem_tell inside numbered
    omega
  · rw [last_unnumbered] at numbered
    cases numbered

/-- A run that has gone the way of the walk over its steps halts when it is cancelled. -/
theorem heedsCancellation (follows : report.Follows registry playbook ctx (registry.walk ctx playbook.steps)) :
    report.HeedsCancellation registry playbook.steps ctx (registry.walk ctx playbook.steps).visits := by
  constructor
  case inOrder => exact Registry.walk_steps
  case first => exact fun visit found => Registry.walk_first found
  case next => exact fun k visit next found foundNext => Registry.walk_next found foundNext
  case failed =>
    intro nonempty error failed
    rw [← Registry.walk_ctx]
    exact follows.ctx_of_outcome.1 error failed
  case story => exact fun _ => follows.events_of_visits
  case told => exact fun event member number numbered => follows.number_le_of_mem_events member numbered
  case before =>
    intro first later cancelled
    rw [Cancellation.ofRequests_cons] at cancelled
    cases steps_eq : playbook.steps with
    | nil => exact ⟨rfl, fun nonempty => absurd rfl nonempty⟩
    | cons step rest =>
      have halted : registry.walk ctx (step :: rest) = ⟨[], ctx, some (.cancelled first)⟩ :=
        registry.walk_cancelled cancelled
      rw [steps_eq, halted] at follows
      refine ⟨by rw [halted], fun _ => ?_⟩
      have outcome : report.outcome = .error (.cancelled first) := follows.outcome_of_ending rfl
      exact ⟨outcome, follows.ctx_of_outcome.1 _ outcome⟩
  case during =>
    intro k visit first later found cancelled
    rw [Cancellation.ofRequests_cons] at cancelled
    obtain ⟨length_eq, ending⟩ := Registry.walk_halts found cancelled
    have last : (registry.walk ctx playbook.steps).visits.getLast? = some visit := by
      rw [List.getLast?_eq_getElem?, length_eq]
      exact found
    refine ⟨length_eq, ?outside, ?ending⟩
    case outside =>
      rw [follows.ctx_kept.2, Registry.walk_ctx, Visit.leave, last]
      rfl
    intro more lasting
    apply follows.outcome_of_ending
    rcases visit.outcome_cases registry with
      ⟨reason, interrupted, outcome⟩ | ⟨uninterrupted, failed | ⟨status, outcome⟩⟩
    · rw [interrupted]
      exact Registry.walk_ending_of_error (List.mem_of_getElem? found) outcome
    · exact absurd failed lasting
    · rw [uninterrupted]
      exact ending status outcome more
  case interrupted =>
    intro visit member reason interrupted
    apply follows.outcome_of_ending
    rcases visit.outcome_cases registry with ⟨_, found, outcome⟩ | ⟨uninterrupted, -⟩
    · rw [interrupted] at found
      cases found
      exact Registry.walk_ending_of_error member outcome
    · rw [interrupted] at uninterrupted
      cases uninterrupted
  case complete =>
    intro summary completed
    refine ⟨Registry.walk_complete (follows.ending_of_outcome completed), ?_⟩
    rw [← Registry.walk_ctx]
    exact follows.ctx_of_outcome.2 summary completed

end Report.Follows

/-- A playbook without steps is turned away without a visit. -/
theorem Report.heedsCancellation_of_turned_away (registry : Registry) (ctx : Context) (files : ProgressFiles) :
    Report.HeedsCancellation ⟨.error (.load .noSteps), .failed, ctx, [], files⟩ registry [] ctx [] where
  inOrder := List.nil_prefix
  first _ found := by cases found
  next _ _ _ found := by cases found
  failed nonempty := absurd rfl nonempty
  story nonempty := absurd rfl nonempty
  told _ member := by cases member
  before _ _ _ := ⟨rfl, fun nonempty => absurd rfl nonempty⟩
  during _ _ _ _ found := by cases found
  interrupted _ member := by cases member
  complete _ completed := by cases completed

/-- Whatever the actions do and whenever the run is cancelled, the run halts: no step is started, skipped
or called after that, and the context stays as the last visit leaves it until the run drops what is stored. -/
theorem Engine.execute_heedsCancellation (engine : Engine) (savings : Nat → Saving) (playbook : Playbook)
    (ctx : Context) (files : ProgressFiles) :
    (engine.execute savings playbook ctx files).HeedsCancellation engine.registry playbook.steps ctx
      (engine.registry.walk ctx playbook.steps).visits := by
  by_cases empty : playbook.steps = []
  · rw [engine.execute_without_steps savings playbook ctx files empty, empty]
    exact Report.heedsCancellation_of_turned_away engine.registry ctx files
  · exact (engine.execute_follows savings playbook ctx files empty).heedsCancellation

/-- An engine with an action that cancels the run twice and answers, and one that notes that it was called. -/
def Engine.haltingTrial : Engine :=
  ⟨[("note", Action.recording "note"),
      ("stop", fun _ ctx => (.ok .null, (ctx.cancel "enough").cancel "more"))],
    Settings.default⟩

/-- A playbook whose first step cancels the run. -/
def Playbook.haltingTrial : Playbook :=
  { Playbook.blank with steps := [Step.make "first" "stop", Step.make "second" "note"] }

/-- The trial halts after its first step, for the reason that was given first, and the second step notes
nothing. -/
theorem Engine.execute_heedsCancellation_trial :
    let ctx := Context.trial
    let visit : Visit := ⟨Step.make "first" "stop", ctx⟩
    let visits := (Engine.haltingTrial.registry.walk ctx Playbook.haltingTrial.steps).visits
    let report := Engine.haltingTrial.execute (fun _ => ⟨true, true⟩) Playbook.haltingTrial ctx .none
    visits[0]? = some visit ∧
      (visit.after Engine.haltingTrial.registry).cancelled = .ofRequests ["enough", "more"] ∧
      ¬ visit.Fails Engine.haltingTrial.registry ∧
      visits.length = 1 ∧ report.outcome = .error (.cancelled "enough") ∧ report.ctx.outside.calls = [] := by
  intro ctx visit visits report
  have found : visits[0]? = some visit := rfl
  have cancelled :
      (visit.after Engine.haltingTrial.registry).cancelled = .ofRequests ["enough", "more"] := rfl
  have lasting : ¬ visit.Fails Engine.haltingTrial.registry := by
    rintro ⟨cause, answered, -⟩
    cases answered
  have heeds := Engine.haltingTrial.execute_heedsCancellation (fun _ => ⟨true, true⟩)
    Playbook.haltingTrial ctx .none
  obtain ⟨length_eq, outside_eq, outcome⟩ := heeds.during 0 visit "enough" ["more"] found cancelled
  refine ⟨found, cancelled, lasting, length_eq, outcome (by decide) lasting, ?_⟩
  rw [outside_eq]
  rfl

end Stepwise
