import Stepwise.Action.StandIn
import Stepwise.Proofs.Run.Stepping

/-!
# The chronicle of a run

A run leaves three records: its events, the tally in its summary, and the phase and outcome it ends with.
They agree. The events are the start of the run, one episode for each step processed, numbered from one
without a gap, and the end of the run; an episode is a skipped step, or a start and right after it the
completion or the failure of the same step. Whether the last event is a completion decides the outcome
and the phase, and the tally counts the episodes. This holds of every run, whatever its actions do.
-/

set_option autoImplicit false

namespace Stepwise

/-- What a run tells of one step. -/
inductive Episode where
  | skipped (name : Option String)
  | completed (name action : String) (duration : Nat)
  | failed (name action error : String) (ignored : Bool) (duration : Nat)

/-- The kind of the event that reports what became of a step. -/
def StepStatus.eventKind : StepStatus → String
  | .completed => "step.completed"
  | .skipped => "step.skipped"
  | .failedIgnored => "step.failed"

/-- The number of steps with one outcome. -/
def Tally.countOf (tally : Tally) : StepStatus → Nat
  | .completed => tally.completed
  | .skipped => tally.skipped
  | .failedIgnored => tally.failedIgnored

/-- The tally of steps in a row. -/
def Tally.ofStatuses (statuses : List StepStatus) : Tally := statuses.foldl Tally.record Tally.zero

/-- The number of events of a kind. -/
def Report.countOf (report : Report) (kind : String) : Nat := (report.events.map Event.kind).count kind

/-- The number of the step that an event is about. -/
def Event.number? : Event → Option Nat
  | .stepSkipped number _ => some number
  | .stepStarted number _ _ => some number
  | .stepCompleted number _ _ => some number
  | .stepFailed number _ _ _ _ => some number
  | _ => none

/-! ## Tallies -/

/-- The tally of one status more is the tally so far with that status recorded. -/
theorem Tally.ofStatuses_concat (statuses : List StepStatus) (status : StepStatus) :
    Tally.ofStatuses (statuses ++ [status]) = (Tally.ofStatuses statuses).record status := by
  simp [ofStatuses]

/-- Counting a step adds one to the count of its outcome and leaves the others. -/
theorem Tally.countOf_record (tally : Tally) (status other : StepStatus) :
    (tally.record status).countOf other = tally.countOf other + if status = other then 1 else 0 := by
  cases status <;> cases other <;> rfl

/-- A tally counts how often each outcome occurs. -/
theorem Tally.countOf_foldl_record (statuses : List StepStatus) (tally : Tally) (status : StepStatus) :
    (statuses.foldl Tally.record tally).countOf status = tally.countOf status + statuses.count status := by
  induction statuses generalizing tally with
  | nil => simp
  | cons first rest ih =>
    rw [List.foldl_cons, ih, countOf_record, List.count_cons]
    by_cases same : first = status
    · simp only [same, if_true, beq_self_eq_true]
      omega
    · simp [same]

/-- The tally counts each status as often as it occurs. -/
theorem Tally.countOf_ofStatuses (statuses : List StepStatus) (status : StepStatus) :
    (Tally.ofStatuses statuses).countOf status = statuses.count status := by
  rw [ofStatuses, countOf_foldl_record]
  cases status <;> simp [zero, countOf]

/-- A tally counts every step once. -/
theorem Tally.total_foldl_record (statuses : List StepStatus) (tally : Tally) :
    (statuses.foldl Tally.record tally).total = tally.total + statuses.length := by
  induction statuses generalizing tally with
  | nil => rfl
  | cons first rest ih =>
    rw [List.foldl_cons, ih, total_record, List.length_cons]
    omega

/-- The tally's total is the number of statuses. -/
theorem Tally.total_ofStatuses (statuses : List StepStatus) :
    (Tally.ofStatuses statuses).total = statuses.length := by
  rw [ofStatuses, total_foldl_record]
  simp [zero, total]

/-! ## Episodes -/

namespace Episode

/-- The events of a step: one if it is skipped, else its start and at once its end. -/
def events (number : Nat) : Episode → List Event
  | .skipped name => [.stepSkipped number name]
  | .completed name action duration =>
    [.stepStarted number name action, .stepCompleted number name duration]
  | .failed name action error ignored duration =>
    [.stepStarted number name action, .stepFailed number name error ignored duration]

/-- What became of a step; none if it ended the run. -/
def status? : Episode → Option StepStatus
  | .skipped _ => some .skipped
  | .completed .. => some .completed
  | .failed _ _ _ ignored _ => if ignored then some .failedIgnored else none

/-- The events of steps in a row, numbered from a number on. -/
def tell (number : Nat) : List Episode → List Event
  | [] => []
  | episode :: rest => episode.events number ++ tell (number + 1) rest

/-- The telling of one episode more goes on with that episode's events, numbered by its place. -/
theorem tell_concat (number : Nat) (episodes : List Episode) (episode : Episode) :
    tell number (episodes ++ [episode]) =
      tell number episodes ++ episode.events (number + episodes.length) := by
  induction episodes generalizing number with
  | nil => simp [tell]
  | cons first rest ih =>
    simp only [List.cons_append, tell, ih, List.length_cons, List.append_assoc]
    rw [show number + 1 + rest.length = number + (rest.length + 1) by omega]

/-- An event of steps in a row is an event of one of them, under its number. -/
theorem exists_of_mem_tell {event : Event} {number : Nat} {episodes : List Episode}
    (member : event ∈ tell number episodes) :
    ∃ (i : Nat) (episode : Episode),
      episodes[i]? = some episode ∧ event ∈ episode.events (number + i) := by
  induction episodes generalizing number with
  | nil => cases member
  | cons first rest ih =>
    rcases List.mem_append.mp member with here | later
    · exact ⟨0, first, rfl, here⟩
    · obtain ⟨i, episode, found, inside⟩ := ih later
      refine ⟨i + 1, episode, found, ?_⟩
      rwa [show number + (i + 1) = number + 1 + i by omega]

/-- Of a step that did not end the run one event says what became of it, by its kind. -/
theorem count_kind_events {episode : Episode} {outcome : StepStatus} (known : episode.status? = some outcome)
    (number : Nat) (status : StepStatus) :
    ((episode.events number).map Event.kind).count status.eventKind =
      if outcome = status then 1 else 0 := by
  cases episode with
  | skipped name =>
    obtain rfl : StepStatus.skipped = outcome := by simpa [status?] using known
    cases status <;> simp [events, Event.kind, StepStatus.eventKind]
  | completed name action duration =>
    obtain rfl : StepStatus.completed = outcome := by simpa [status?] using known
    cases status <;> simp [events, Event.kind, StepStatus.eventKind]
  | failed name action error ignored duration =>
    obtain ⟨rfl, rfl⟩ : ignored = true ∧ StepStatus.failedIgnored = outcome := by
      simpa [status?] using known
    cases status <;> simp [events, Event.kind, StepStatus.eventKind]

/-- The events of steps none of which ended the run tell how often each outcome occurred. -/
theorem count_kind_tell {episodes : List Episode} (known : ∀ episode ∈ episodes, episode.status?.isSome)
    (number : Nat) (status : StepStatus) :
    ((tell number episodes).map Event.kind).count status.eventKind =
      (episodes.filterMap status?).count status := by
  induction episodes generalizing number with
  | nil => rfl
  | cons first rest ih =>
    obtain ⟨outcome, outcome_eq⟩ := Option.isSome_iff_exists.mp (known first (by simp))
    have later := ih (fun episode member => known episode (by simp [member])) (number + 1)
    rw [tell, List.map_append, List.count_append, later, count_kind_events outcome_eq,
      List.filterMap_cons_some outcome_eq, List.count_cons, Nat.add_comm]
    simp

/-- Steps none of which ended the run have an outcome each. -/
theorem length_filterMap_status? {episodes : List Episode}
    (known : ∀ episode ∈ episodes, episode.status?.isSome) :
    (episodes.filterMap status?).length = episodes.length := by
  rw [List.length_filterMap_eq_countP]
  exact List.countP_eq_length.mpr known

end Episode

/-! ## What a run tells while it is on its way -/

/-- A step is told as one episode. If it goes wrong in a way that ends the run, the episode is a failure
that was not ignored, told under the name of the step. -/
theorem Step.Course.told {registry : Registry} {number : Nat} {step : Step} {ctx : Context}
    {result : Except RunError StepStatus × Context × List Event}
    (course : Step.Course registry number step ctx result) :
    ∃ episode : Episode, result.2.2 = episode.events number ∧
      ((∃ status, result.1 = .ok status ∧ episode.status? = some status) ∨
        ∃ error, result.1 = .error error ∧ episode.status? = none ∧
          ∀ name cause, error = .stepFailed name cause →
            step.name = some name ∧
              ∃ action duration, episode = .failed name action cause.message false duration) := by
  cases course with
  | unshaped => exact ⟨.skipped none, rfl, .inl ⟨_, rfl, rfl⟩⟩
  | unguarded name => exact ⟨.skipped (some name), rfl, .inl ⟨_, rfl, rfl⟩⟩
  | completed name action _ _ duration => exact ⟨.completed name action duration, rfl, .inl ⟨_, rfl, rfl⟩⟩
  | failed name action cause after duration shaped =>
    refine ⟨.failed name action cause.message _ duration, rfl, ?_⟩
    rcases step.statusOfError_cases name cause with
      ⟨ignored, outcome⟩ | ⟨ignored, outcome | ⟨reason, -, outcome⟩⟩
    · exact .inl ⟨_, outcome, by simp [Episode.status?, ignored]⟩
    · refine .inr ⟨_, outcome, by simp [Episode.status?, ignored], ?_⟩
      rintro failedName failedCause ⟨rfl, rfl⟩
      exact ⟨step.name_of_runnable? shaped, action, duration, by rw [ignored]⟩
    · exact .inr ⟨_, outcome, by simp [Episode.status?, ignored], by rintro _ _ ⟨⟩⟩

/-- The records of a run that has come past some steps of a playbook agree on these episodes. -/
structure Run.Tells (playbook : Playbook) (runId : String) (seen : List Step) (run : Run)
    (episodes : List Episode) : Prop where
  runId_eq : run.runId = runId
  /-- The start of the run, and then the episodes. -/
  events_eq : run.events.reverse =
    .runStarted runId playbook.displayName playbook.steps.length :: Episode.tell 1 episodes
  number_eq : run.number = episodes.length
  tally_eq : run.tally = Tally.ofStatuses (episodes.filterMap Episode.status?)
  length_le : episodes.length ≤ seen.length
  /-- A run that goes on has an episode for every step, and none of them ended it. -/
  going : run.ending = none →
    episodes.length = seen.length ∧ ∀ episode ∈ episodes, episode.status?.isSome
  /-- A run that failed at a step tells of that failure last. -/
  failed : ∀ name cause, run.ending = some (.stepFailed name cause) →
    ∃ before action duration, episodes = before ++ [.failed name action cause.message false duration] ∧
      ∃ step, seen[before.length]? = some step ∧ step.name = some name

namespace Run.Tells

variable {playbook : Playbook} {runId : String} {seen : List Step} {run : Run} {episodes : List Episode}

/-- Taking the outcome of a step into the account adds its episode to the story. -/
theorem take (told : Run.Tells playbook runId seen run episodes) (going : run.ending = none)
    {registry : Registry} {step : Step} {ctx : Context}
    {result : Except RunError StepStatus × Context × List Event}
    (course : Step.Course registry (run.number + 1) step ctx result) :
    ∃ episode, Run.Tells playbook runId (seen ++ [step]) (run.take result) (episodes ++ [episode]) := by
  obtain ⟨length_eq, known⟩ := told.going going
  obtain ⟨outcome, after, events⟩ := result
  obtain ⟨episode, rfl, outcomes⟩ := course.told
  refine ⟨episode, ?_⟩
  have events_eq : ((episode.events (run.number + 1)).reverse ++ run.events).reverse =
      .runStarted runId playbook.displayName playbook.steps.length ::
        Episode.tell 1 (episodes ++ [episode]) := by
    rw [Episode.tell_concat, List.reverse_append, List.reverse_reverse, told.events_eq, told.number_eq,
      Nat.add_comm 1]
    rfl
  rcases outcomes with ⟨status, rfl, status_eq⟩ | ⟨error, rfl, status_eq, failure⟩
  · exact {
      runId_eq := told.runId_eq
      events_eq
      number_eq := by simp [Run.take, told.number_eq]
      tally_eq := by simp [Run.take, told.tally_eq, status_eq, Tally.ofStatuses_concat]
      length_le := by simp [length_eq]
      going := by
        intro _
        refine ⟨by simp [length_eq], ?_⟩
        intro one member
        rcases List.mem_append.mp member with earlier | last
        · exact known one earlier
        · simp [List.mem_singleton.mp last, status_eq]
      failed := by
        intro name cause ended
        simp [Run.take, going] at ended }
  · exact {
      runId_eq := told.runId_eq
      events_eq
      number_eq := by simp [Run.take, told.number_eq]
      tally_eq := by simp [Run.take, told.tally_eq, status_eq]
      length_le := by simp [length_eq]
      going := by simp [Run.take]
      failed := by
        intro name cause ended
        obtain ⟨named, action, duration, rfl⟩ := failure name cause (by simpa [Run.take] using ended)
        exact ⟨episodes, action, duration, rfl, step, by simp [length_eq], named⟩ }

/-- An advance over a step adds an episode, or none if the run has ended or is cancelled. -/
theorem advance (engine : Engine) (told : Run.Tells playbook runId seen run episodes) (step : Step) :
    ∃ episodes', Run.Tells playbook runId (seen ++ [step]) (run.advance engine step).1 episodes' := by
  have advanced := run.advance_advanced engine step
  generalize (run.advance engine step).1 = next at advanced
  cases advanced with
  | halted error ended =>
    refine ⟨episodes, { told with length_le := ?_, going := ?_, failed := ?_ }⟩
    · simpa using Nat.le_succ_of_le told.length_le
    · simp [ended]
    · intro name cause failure
      obtain ⟨before, action, duration, rfl, failing, found, named⟩ := told.failed name cause failure
      have earlier : before.length < seen.length := (List.getElem?_eq_some_iff.mp found).1
      exact ⟨before, action, duration, rfl, failing, by rwa [List.getElem?_append_left earlier], named⟩
  | cancelled reason =>
    refine ⟨episodes, { told with length_le := ?_, going := ?_, failed := ?_ }⟩
    · simpa using Nat.le_succ_of_le told.length_le
    · simp
    · simp
  | processed monitor going =>
    obtain ⟨episode, next⟩ :=
      told.take going (step.process_course engine.registry (run.number + 1) run.ctx)
    exact ⟨_, { next with }⟩

/-- At its start a run has told of no step. -/
theorem start (settings : Settings) (playbook : Playbook) (ctx : Context) :
    Run.Tells playbook ctx.runId [] (Run.start settings playbook ctx) [] where
  runId_eq := rfl
  events_eq := rfl
  number_eq := rfl
  tally_eq := rfl
  length_le := Nat.le_refl _
  going _ := ⟨rfl, by simp⟩
  failed := by rintro _ _ ⟨⟩

/-- Noting that a snapshot was written changes nothing of the story. -/
theorem acknowledge (told : Run.Tells playbook runId seen run episodes) (saved : Bool) :
    Run.Tells playbook runId seen (run.acknowledge saved) episodes := by
  cases saved
  · exact told
  · exact { told with }

/-- Nor do other files outside. -/
theorem withFiles (told : Run.Tells playbook runId seen run episodes)
    (files : String → Except String (List UInt8)) :
    Run.Tells playbook runId seen (run.withFiles files) episodes := { told with }

end Run.Tells

/-! ## What a run has told in the end -/

/-- The events of a report tell the episodes of a run of a playbook and how it ended, and the outcome, the
phase and the summary agree with them. -/
structure Report.IsChronicle (report : Report) (playbook : Playbook) (runId : String)
    (episodes : List Episode) (last : Event) : Prop where
  /-- The run starts, its steps follow from the first on, it ends, and nothing comes after that. -/
  events_eq : report.events = .runStarted runId playbook.displayName playbook.steps.length ::
    (Episode.tell 1 episodes ++ [last])
  last_kind : last.kind = "run.completed" ∨ last.kind = "run.failed"
  length_le : episodes.length ≤ playbook.steps.length
  outcome_iff : (∃ summary, report.outcome = .ok summary) ↔ last.kind = "run.completed"
  phase_iff : report.phase = .completed ↔ last.kind = "run.completed"
  /-- A run that comes to its end has told of every step, and its summary counts the events. -/
  completed : ∀ summary, report.outcome = .ok summary →
    episodes.length = playbook.steps.length ∧
    summary.tally.completed = report.countOf "step.completed" ∧
    summary.tally.skipped = report.countOf "step.skipped" ∧
    summary.tally.failedIgnored = report.countOf "step.failed" ∧
    (∀ number name error ignored duration,
      .stepFailed number name error ignored duration ∈ report.events → ignored = true) ∧
    summary.tally.completed + summary.tally.skipped + summary.tally.failedIgnored = playbook.steps.length
  /-- A run that fails at a step tells last of the failure of that step, and of no later step. -/
  failed : ∀ name cause, report.outcome = .error (.stepFailed name cause) →
    ∃ number duration, report.events.dropLast.getLast? =
        some (.stepFailed number name cause.message false duration) ∧
      (∃ step, playbook.steps[number - 1]? = some step ∧ step.name = some name) ∧
      ∀ event ∈ report.events, ∀ other, event.number? = some other → other ≤ number

/-- An event of an episode has the number of the step. -/
theorem Episode.number?_of_mem_events {event : Event} {number : Nat} {episode : Episode}
    (member : event ∈ episode.events number) : event.number? = some number := by
  cases episode <;> simp only [events, List.mem_cons, List.not_mem_nil, or_false] at member
  · rw [member]
    rfl
  all_goals
    rcases member with rfl | rfl <;> rfl

/-- Of steps none of which ended the run every failure was ignored. -/
theorem Episode.ignored_of_mem_tell {episodes : List Episode} {start number duration : Nat}
    {name error : String} {ignored : Bool} (known : ∀ episode ∈ episodes, episode.status?.isSome)
    (member : .stepFailed number name error ignored duration ∈ tell start episodes) : ignored = true := by
  obtain ⟨i, episode, found, inside⟩ := exists_of_mem_tell member
  have outcome := known episode (List.mem_of_getElem? found)
  cases episode with
  | skipped => simp [events] at inside
  | completed => simp [events] at inside
  | failed _ _ _ wasIgnored _ =>
    have same : ignored = wasIgnored := by
      simp only [events, List.mem_cons, reduceCtorEq, false_or, Event.stepFailed.injEq,
        List.not_mem_nil, or_false] at inside
      exact inside.2.2.2.1
    cases wasIgnored
    · simp [status?] at outcome
    · exact same

namespace Run.Tells

variable {playbook : Playbook} {runId : String} {run : Run} {episodes : List Episode}

/-- The report of a run that came to its end tells its story. -/
theorem finish_completed (told : Run.Tells playbook runId playbook.steps run episodes)
    (files : ProgressFiles) (ending : run.ending = none) :
    ∃ last, (run.finish playbook files).IsChronicle playbook runId episodes last := by
  obtain ⟨length_eq, known⟩ := told.going ending
  have total : run.tally.total = playbook.steps.length := by
    rw [told.tally_eq, Tally.total_ofStatuses, Episode.length_filterMap_status? known, length_eq]
  let last := Event.runCompleted runId run.tally.completed run.tally.skipped run.tally.failedIgnored
    (run.elapsed / Context.millisecond)
  have report_eq : run.finish playbook files =
      ⟨.ok (run.summary playbook), .completed, { run.ctx.cleanUp with results := [] },
        .runStarted runId playbook.displayName playbook.steps.length :: (Episode.tell 1 episodes ++ [last]),
        files⟩ := by
    simp [Run.finish, ending, told.runId_eq, told.events_eq, last]
  have counts : ∀ status, run.tally.countOf status =
      (run.finish playbook files).countOf status.eventKind := by
    intro status
    have inside := Episode.count_kind_tell known 1 status
    rw [told.tally_eq, Tally.countOf_ofStatuses, ← inside, report_eq]
    cases status <;> simp [Report.countOf, StepStatus.eventKind, Event.kind, last]
  refine ⟨last, ?_⟩
  rw [report_eq] at counts ⊢
  exact {
    events_eq := rfl
    last_kind := .inl rfl
    length_le := told.length_le
    outcome_iff := ⟨fun _ => rfl, fun _ => ⟨_, rfl⟩⟩
    phase_iff := ⟨fun _ => rfl, fun _ => rfl⟩
    completed := by
      rintro summary ⟨rfl⟩
      refine ⟨length_eq, counts .completed, counts .skipped, counts .failedIgnored, ?_, total⟩
      intro number name error ignored duration member
      have inside : .stepFailed number name error ignored duration ∈ Episode.tell 1 episodes := by
        simpa [last] using member
      exact Episode.ignored_of_mem_tell known inside
    failed := by rintro name cause ⟨⟩ }

/-- The report of a run that was broken off tells its story. -/
theorem finish_failed (told : Run.Tells playbook runId playbook.steps run episodes)
    (files : ProgressFiles) {error : RunError} (ending : run.ending = some error) :
    ∃ last, (run.finish playbook files).IsChronicle playbook runId episodes last := by
  let last := Event.runFailed runId error.step? error.message
  have report_eq : run.finish playbook files =
      ⟨.error error, .failed, run.ctx.cleanUp,
        .runStarted runId playbook.displayName playbook.steps.length :: (Episode.tell 1 episodes ++ [last]),
        files⟩ := by
    simp [Run.finish, ending, told.runId_eq, told.events_eq, last]
  refine ⟨last, ?_⟩
  rw [report_eq]
  exact {
    events_eq := rfl
    last_kind := .inr rfl
    length_le := told.length_le
    outcome_iff := by simp [last, Event.kind]
    phase_iff := by simp [last, Event.kind]
    completed := by rintro summary ⟨⟩
    failed := by
      rintro name cause ⟨rfl⟩
      obtain ⟨before, action, duration, rfl, step, found, named⟩ := told.failed name cause ending
      refine ⟨before.length + 1, duration, ?_, ⟨step, by simpa using found, named⟩, ?_⟩
      · -- the last episode is the failure, and the end of the run is dropped
        rw [← List.cons_append, List.dropLast_concat, Episode.tell_concat, Nat.add_comm 1]
        simp [Episode.events, List.getLast?_cons, List.getLast?_append]
      · intro event member other number_eq
        rcases List.mem_cons.mp member with rfl | member
        · cases number_eq
        · rcases List.mem_append.mp member with inside | ending
          · obtain ⟨i, episode, position, member⟩ := Episode.exists_of_mem_tell inside
            have within := (List.getElem?_eq_some_iff.mp position).1
            rw [Episode.number?_of_mem_events member] at number_eq
            simp only [List.length_append, List.length_singleton, Option.some.injEq] at within number_eq
            omega
          · rw [List.mem_singleton.mp ending] at number_eq
            cases number_eq }

/-- A run is finished with its chronicle, whether or not it came to its end. -/
theorem finish (told : Run.Tells playbook runId playbook.steps run episodes) (files : ProgressFiles) :
    ∃ last, (run.finish playbook files).IsChronicle playbook runId episodes last := by
  cases ending : run.ending with
  | none => exact told.finish_completed files ending
  | some error => exact told.finish_failed files ending

end Run.Tells

/-- Whatever the actions do, the run of a playbook with steps tells its story: its events start with the
start of the run, report every processed step in order, each as skipped or as started and at once
completed or failed, and close with the end of the run; and outcome, phase and summary agree with them. -/
theorem Engine.execute_isChronicle (engine : Engine) (savings : Nat → Saving) (playbook : Playbook)
    (ctx : Context) (files : ProgressFiles) (nonempty : playbook.steps ≠ []) :
    ∃ episodes last,
      (engine.execute savings playbook ctx files).IsChronicle playbook ctx.runId episodes last := by
  obtain ⟨run, files', execute_eq, episodes, told⟩ :=
    Engine.execute_induction engine savings playbook ctx files
      (fun seen run => ∃ episodes, Run.Tells playbook ctx.runId seen run episodes)
      ⟨[], .start engine.settings playbook ctx⟩
      (fun seen run step ⟨_, told⟩ => told.advance engine step)
      (fun seen run saved ⟨episodes, told⟩ => ⟨episodes, told.acknowledge saved⟩)
      nonempty
  rw [execute_eq]
  exact ⟨episodes, told.finish files'⟩

/-- On a machine, too, a run is finished whose records agree on episodes. -/
theorem Engine.executeOn_tells (engine : Engine) (view : FileView) (savings : Nat → Saving)
    (playbook : Playbook) (ctx : Context) (files : ProgressFiles) (nonempty : playbook.steps ≠ []) :
    ∃ run files' episodes, engine.executeOn view savings playbook ctx files = run.finish playbook files' ∧
      Run.Tells playbook ctx.runId playbook.steps run episodes := by
  obtain ⟨run, files', executeOn_eq, episodes, told⟩ :=
    engine.executeOn_induction view savings playbook ctx files
      (fun seen run => ∃ episodes, Run.Tells playbook ctx.runId seen run episodes)
      ⟨[], .start engine.settings playbook ctx⟩
      (fun seen run step ⟨_, told⟩ => told.advance engine step)
      (fun seen run saved ⟨episodes, told⟩ => ⟨episodes, told.acknowledge saved⟩)
      (fun seen run files ⟨episodes, told⟩ => ⟨episodes, told.withFiles files⟩)
      nonempty
  exact ⟨run, files', episodes, executeOn_eq, told⟩

/-- So a run on a machine tells its story, whatever files its steps find there. -/
theorem Engine.executeOn_isChronicle (engine : Engine) (view : FileView) (savings : Nat → Saving)
    (playbook : Playbook) (ctx : Context) (files : ProgressFiles) (nonempty : playbook.steps ≠ []) :
    ∃ episodes last,
      (engine.executeOn view savings playbook ctx files).IsChronicle playbook ctx.runId episodes last := by
  obtain ⟨run, files', episodes, executeOn_eq, told⟩ :=
    engine.executeOn_tells view savings playbook ctx files nonempty
  rw [executeOn_eq]
  exact ⟨episodes, told.finish files'⟩

/-- An engine with an action that fails and one that does nothing. -/
def Engine.trial : Engine :=
  ⟨[("break", Action.failing "broken"), ("idle", Action.fixed .null)], Settings.default⟩

/-- A playbook with a step that cannot run, a failure that is ignored, a success, a failure that ends the
run, and a step that is never reached. -/
def Playbook.trial : Playbook :=
  { Playbook.blank with
    steps := [Step.blank, (Step.make "try" "break").ignoringErrors, Step.make "rest" "idle",
      Step.make "stop" "break", Step.make "never" "idle"] }

/-- An empty context. -/
def Context.trial : Context :=
  Context.start [] [] ⟨0, none, fun _ => .null, fun _ => .error "", (0, 0), [], []⟩

/-- The run of the trial tells its story. -/
theorem Engine.execute_isChronicle_trial :
    Playbook.trial.steps ≠ [] ∧
      ∃ episodes last,
        (Engine.trial.execute (fun _ => ⟨true, true⟩) Playbook.trial Context.trial .none).IsChronicle
          Playbook.trial Context.trial.runId episodes last :=
  have nonempty : Playbook.trial.steps ≠ [] := List.cons_ne_nil _ _
  ⟨nonempty, Engine.execute_isChronicle _ _ _ _ _ nonempty⟩

example : (Engine.trial.execute (fun _ => ⟨true, true⟩) Playbook.trial Context.trial .none).events.map
    Event.kind = ["run.started", "step.skipped", "step.started", "step.failed", "step.started",
      "step.completed", "step.started", "step.failed", "run.failed"] := by
  decide +kernel

end Stepwise
