import Stepwise.FileTree
import Stepwise.Proofs.Progress.Influence
import Stepwise.Proofs.Run.Erasure

/-!
# The account of snapshots

A run counts the snapshots that were written, and its progress file holds the last of them. Which ones they are
can be told from the number of steps that were processed: a step is processed if it is skipped or if its
action is called, whatever the action answers, and a snapshot is due after every step whose number is a
multiple of the cadence.
-/

set_option autoImplicit false

namespace Stepwise

/-! ## The steps after which a snapshot is written -/

namespace Checkpoints

/-- The numbers of the steps, up to a number, after which a snapshot is due and both its draft and its
replacement succeed. -/
def savedSteps (every : Nat) (savings : Nat → Saving) (processed : Nat) : List Nat :=
  (List.range' 1 processed).filter fun step =>
    isDue every step && (savings step).drafted && (savings step).replaced

variable {every : Nat} {savings : Nat → Saving}

/-- One step more is one saved step more when a save is due after it and both halves of the save
succeed. -/
theorem savedSteps_succ (every : Nat) (savings : Nat → Saving) (processed : Nat) :
    savedSteps every savings (processed + 1) = savedSteps every savings processed ++
      if isDue every (processed + 1) && (savings (processed + 1)).drafted &&
          (savings (processed + 1)).replaced then [processed + 1] else [] := by
  rw [savedSteps, List.range'_1_concat, List.filter_append, Nat.add_comm 1 processed, List.filter_cons, List.filter_nil]
  rfl

/-- The steps at which a snapshot is due are those at which the quotient by the cadence grows. -/
theorem isDue_succ_iff (every number : Nat) :
    isDue every (number + 1) = true ↔ every ∣ number + 1 ∧ 0 < every := by
  simp [isDue, Nat.dvd_iff_mod_eq_zero, and_comm]

/-- If every writing succeeds, a snapshot is written once in every cadence, and the last one after the
greatest multiple of the cadence. -/
theorem savedSteps_of_success (processed : Nat)
    (success : ∀ step ≤ processed, isDue every step = true → savings step = ⟨true, true⟩) :
    (savedSteps every savings processed).length = processed / every ∧
      (savedSteps every savings processed).getLast? =
        if processed / every = 0 then none else some (processed / every * every) := by
  induction processed with
  | zero => simp [savedSteps]
  | succ processed ih =>
    obtain ⟨length, last⟩ := ih fun step within => success step (Nat.le_succ_of_le within)
    rw [savedSteps_succ]
    by_cases due : isDue every (processed + 1) = true
    · obtain ⟨divides, positive⟩ := (isDue_succ_iff every processed).mp due
      have grows : (processed + 1) / every = processed / every + 1 := by rw [Nat.succ_div, if_pos divides]
      have whole : (processed / every + 1) * every = processed + 1 := by
        rw [← grows]
        exact Nat.div_mul_cancel divides
      rw [success _ (Nat.le_refl _) due, due, grows, whole]
      simp [length]
    · have stays : (processed + 1) / every = processed / every := by
        rw [Nat.succ_div]
        split
        · rename_i divides
          rcases Nat.eq_zero_or_pos every with rfl | positive
          · exact absurd (Nat.eq_zero_of_zero_dvd divides) (by simp)
          · exact absurd ((isDue_succ_iff every processed).mpr ⟨divides, positive⟩) due
        · rfl
      simp [due, length, last, stays]

end Checkpoints

/-- After some snapshots the progress file holds the last, or what it held before if there was none. -/
def ProgressFiles.HoldsLast (before after : ProgressFiles) (saved : List Nat) : Prop :=
  match saved.getLast? with
  | .none => after.current = before.current
  | .some step => ∃ snapshot : Snapshot, after.current = some snapshot.text ∧ snapshot.stepsProcessed = step

/-- A snapshot that is written becomes the last. -/
theorem ProgressFiles.HoldsLast.append {before files after : ProgressFiles} {saved : List Nat} {written : Bool}
    {snapshot : Snapshot} {step : Nat} (holds : before.HoldsLast files saved)
    (stepsProcessed : snapshot.stepsProcessed = step)
    (current : after.current = if written then some snapshot.text else files.current) :
    before.HoldsLast after (saved ++ if written then [step] else []) := by
  cases written with
  | false => simpa [HoldsLast, current] using holds
  | true => simpa [HoldsLast] using ⟨snapshot, current, stepsProcessed⟩

/-! ## Steps that are processed -/

/-- An event with which a run begins to tell of a step. -/
def Event.opensStep : Event → Bool
  | .stepSkipped .. => true
  | .stepStarted .. => true
  | _ => false

/-- The number of steps that a report tells of: those that were skipped, and those whose action was
called. -/
def Report.processed (report : Report) : Nat := report.events.countP Event.opensStep

/-- Every course of a step opens the step in exactly one event. -/
theorem Step.Course.countP_opensStep {registry : Registry} {number : Nat} {step : Step} {ctx : Context}
    {result : Except RunError StepStatus × Context × List Event}
    (course : Step.Course registry number step ctx result) : result.2.2.countP Event.opensStep = 1 := by
  cases course <;> rfl

/-! ## Runs -/

/-- A run that has come past some steps has counted those that were processed and the snapshots that were
written, and its progress file holds the last of these. -/
structure Run.Accounts (engine : Engine) (savings : Nat → Saving) (before : ProgressFiles) (seen : List Step)
    (state : Run × ProgressFiles) : Prop where
  number_eq : state.1.number = state.1.events.countP Event.opensStep
  written_eq : state.1.written =
    (Checkpoints.savedSteps engine.settings.checkpointEvery savings state.1.number).length
  holdsLast : before.HoldsLast state.2
    (Checkpoints.savedSteps engine.settings.checkpointEvery savings state.1.number)
  /-- A run that goes on has processed every step. -/
  going : state.1.ending = none → state.1.number = seen.length

/-- A save replaces the progress file when both of its halves succeed, and else leaves it as it was.
-/
theorem ProgressFiles.save_spec (files : ProgressFiles) (saving : Saving) (text : String) :
    let saved := saving.drafted && saving.replaced
    (files.save saving text).1 = saved ∧
      (files.save saving text).2.current = if saved then some text else files.current := by
  rcases saving with ⟨_ | _, _ | _⟩ <;> exact ⟨rfl, rfl⟩

/-- What a run that goes on makes of a step, and whether it writes a snapshot after it. -/
theorem Run.advanceSaving_of_live (engine : Engine) (savings : Nat → Saving) {run : Run}
    (files : ProgressFiles) (step : Step) (going : run.ending = none) (live : run.ctx.cancelled = none) :
    let saved := Checkpoints.isDue engine.settings.checkpointEvery (run.number + 1) &&
      (savings (run.number + 1)).drafted && (savings (run.number + 1)).replaced
    ∃ (monitor : Monitor) (files' : ProgressFiles) (snapshot : Snapshot),
      snapshot.stepsProcessed = run.number + 1 ∧
        files'.current = (if saved then some snapshot.text else files.current) ∧
        advanceSaving engine savings (run, files) step =
          ({ run.take (step.process engine.registry (run.number + 1) run.ctx) with
              monitor, written := run.written + saved.toNat }, files') := by
  have advanced := advance_of_live engine step going live
  generalize step.process engine.registry (run.number + 1) run.ctx = result at advanced ⊢
  have number_eq : (run.take result).number = run.number + 1 := by
    rcases result with ⟨_ | _, _, _⟩ <;> rfl
  have written_eq : (run.take result).written = run.written := by
    rcases result with ⟨_ | _, _, _⟩ <;> rfl
  generalize run.take result = next at advanced number_eq written_eq ⊢
  simp only [advanceSaving, advanced, number_eq, ← written_eq]
  refine ⟨next.monitor.afterStep (run.number + 1) next.ctx, ?_⟩
  cases due : Checkpoints.isDue engine.settings.checkpointEvery (run.number + 1) with
  | false => exact ⟨files, next.snapshot step, number_eq, rfl, rfl⟩
  | true =>
    obtain ⟨saved_eq, current_eq⟩ := files.save_spec (savings (run.number + 1)) (next.snapshot step).text
    refine ⟨_, next.snapshot step, number_eq, current_eq, ?_⟩
    simp only [if_true, saved_eq, Bool.true_and]
    cases (savings (run.number + 1)).drafted && (savings (run.number + 1)).replaced <;> rfl

namespace Run.Accounts

variable {engine : Engine} {savings : Nat → Saving} {before : ProgressFiles} {seen : List Step}
  {state : Run × ProgressFiles}

/-- A run that has just started accounts for no step. -/
theorem start (engine : Engine) (savings : Nat → Saving) (playbook : Playbook) (ctx : Context)
    (files : ProgressFiles) :
    Run.Accounts engine savings files [] (Run.start engine.settings playbook ctx, files) :=
  ⟨rfl, rfl, rfl, fun _ => rfl⟩

/-- A step that is advanced and saved is accounted for with those before it. -/
theorem advanceSaving (accounts : Run.Accounts engine savings before seen state) (step : Step) :
    Run.Accounts engine savings before (seen ++ [step]) (Run.advanceSaving engine savings state step) := by
  obtain ⟨run, files⟩ := state
  cases ended : run.ending with
  | some error =>
    rw [Run.advanceSaving, Run.advance_of_ended engine step ended]
    exact { accounts with going := fun going => absurd (ended.symm.trans going) (by simp) }
  | none =>
    cases live : run.ctx.cancelled with
    | some reason =>
      rw [Run.advanceSaving, Run.advance_of_cancelled engine step ended live]
      exact { accounts with going := fun going => by cases going }
    | none =>
      obtain ⟨monitor, files', snapshot, stepsProcessed, current, next_eq⟩ :=
        Run.advanceSaving_of_live engine savings files step ended live
      have opened := (step.process_course engine.registry (run.number + 1) run.ctx).countP_opensStep
      rw [next_eq]
      generalize step.process engine.registry (run.number + 1) run.ctx = result at opened
      have number_eq : (run.take result).number = run.number + 1 := by
        rcases result with ⟨_ | _, _, _⟩ <;> rfl
      have events_eq : (run.take result).events = result.2.2.reverse ++ run.events := by
        rcases result with ⟨_ | _, _, _⟩ <;> rfl
      have counted : run.number = run.events.countP Event.opensStep := accounts.number_eq
      have written : run.written = _ := accounts.written_eq
      have holds : before.HoldsLast files _ := accounts.holdsLast
      have passed : run.number = seen.length := accounts.going ended
      constructor
      · simp only [number_eq, events_eq, List.countP_append, List.countP_reverse, opened]
        omega
      · simp only [number_eq, Checkpoints.savedSteps_succ, List.length_append, written]
        split
        · rename_i saved
          simp [saved]
        · rename_i unsaved
          simp [unsaved]
      · simp only [number_eq, Checkpoints.savedSteps_succ]
        exact holds.append stepsProcessed current
      · intro _
        simp [number_eq, passed]

/-- The files that a run sees have no say in its account. -/
theorem withFiles (accounts : Run.Accounts engine savings before seen state)
    (files : String → Except String (List UInt8)) :
    Run.Accounts engine savings before seen (state.1.withFiles files, state.2) :=
  ⟨accounts.number_eq, accounts.written_eq, accounts.holdsLast, accounts.going⟩

/-- So are any number of steps, whatever files each of them sees: by induction on the steps. -/
theorem foldl_advanceOn (view : FileView) (steps : List Step)
    (accounts : Run.Accounts engine savings before seen state) :
    Run.Accounts engine savings before (seen ++ steps)
      (steps.foldl (Run.advanceOn engine view savings) state) := by
  induction steps generalizing seen state with
  | nil => simpa using accounts
  | cons step rest ih =>
    have next : Run.Accounts engine savings before (seen ++ [step])
        (Run.advanceOn engine view savings state step) :=
      (accounts.withFiles (view state.2)).advanceSaving step
    simpa using ih next

/-- The report counts as many steps as the run has taken up. -/
theorem processed_finish (accounts : Run.Accounts engine savings before seen state) (playbook : Playbook) :
    (state.1.finish playbook state.2).processed = state.1.number := by
  rw [accounts.number_eq, Report.processed, Run.finish]
  cases state.1.ending <;> simp [Event.opensStep]

end Run.Accounts

/-- The account of snapshots that a report gives, for a playbook of so many steps. -/
structure Report.Accounts (report : Report) (every : Nat) (savings : Nat → Saving) (before : ProgressFiles)
    (steps : Nat) : Prop where
  /-- A run that comes to its end has processed every step, and counts the snapshots that were written. -/
  counts : ∀ summary, report.outcome = .ok summary → report.processed = steps ∧
    summary.checkpointsWritten = (Checkpoints.savedSteps every savings steps).length
  holdsLast : before.HoldsLast report.files (Checkpoints.savedSteps every savings report.processed)

/-- A run that ends gives account of its snapshots. -/
theorem Run.Accounts.finish {engine : Engine} {savings : Nat → Saving} {before : ProgressFiles}
    {seen : List Step} {state : Run × ProgressFiles} (accounts : Run.Accounts engine savings before seen state)
    (playbook : Playbook) :
    (state.1.finish playbook state.2).Accounts engine.settings.checkpointEvery savings before seen.length := by
  have processed := accounts.processed_finish playbook
  constructor
  · intro summary came
    cases ended : state.1.ending with
    | some error => simp [Run.finish, ended] at came
    | none =>
      have number_eq := accounts.going ended
      have written_eq := accounts.written_eq
      simp only [Run.finish, ended, Except.ok.injEq] at came
      rw [← came, processed, ← number_eq]
      exact ⟨rfl, written_eq⟩
  · rw [processed]
    have files_eq : (state.1.finish playbook state.2).files = state.2 := by
      unfold Run.finish
      cases state.1.ending <;> rfl
    rw [files_eq]
    exact accounts.holdsLast

/-- If every writing that is due succeeds, the progress file holds the snapshot after the greatest multiple of
the cadence. -/
theorem Report.Accounts.of_success {report : Report} {every steps : Nat} {savings : Nat → Saving}
    {before : ProgressFiles} (accounts : report.Accounts every savings before steps)
    (success : ∀ step ≤ report.processed, Checkpoints.isDue every step = true → savings step = ⟨true, true⟩) :
    (∀ summary, report.outcome = .ok summary → summary.checkpointsWritten = steps / every) ∧
      if report.processed / every = 0 then report.files.current = before.current
      else ∃ snapshot : Snapshot, report.files.current = some snapshot.text ∧
        snapshot.stepsProcessed = report.processed / every * every := by
  obtain ⟨length, last⟩ := Checkpoints.savedSteps_of_success report.processed success
  constructor
  · intro summary came
    obtain ⟨processed, counted⟩ := accounts.counts summary came
    rw [counted, ← processed, length]
  · have holds := accounts.holdsLast
    unfold ProgressFiles.HoldsLast at holds
    rw [last] at holds
    split
    · rename_i none_due
      simpa [none_due] using holds
    · rename_i some_due
      simpa [some_due] using holds

/-- A run whose visits are blind goes the same way, whatever comes of writing its snapshots, as if it wrote
none. And whether it is blind or not, it counts the snapshots that were written, and its progress file holds
the last of them: if all are written, the one after the greatest multiple of the cadence that is not above the
number of steps processed. -/
theorem Engine.executeOn_saving (engine : Engine) (view : FileView) (savings : Nat → Saving) (playbook : Playbook)
    (ctx : Context) (files : ProgressFiles) :
    let every := engine.settings.checkpointEvery
    let report := engine.executeOn view savings playbook ctx files
    ((∀ visit ∈ engine.registry.visitsAmong (view files) ctx playbook.steps,
        visit.IsBlind engine.registry view) →
      (engine.unsaving.executeOn view savings playbook ctx files).SameButSaving report) ∧
    report.Accounts every savings files playbook.steps.length ∧
    ((∀ step ≤ report.processed, Checkpoints.isDue every step = true → savings step = ⟨true, true⟩) →
      (∀ summary, report.outcome = .ok summary →
        summary.checkpointsWritten = playbook.steps.length / every) ∧
      if report.processed / every = 0 then report.files.current = files.current
      else ∃ snapshot : Snapshot, report.files.current = some snapshot.text ∧
        snapshot.stepsProcessed = report.processed / every * every) := by
  intro every report
  have accounts : report.Accounts every savings files playbook.steps.length := by
    unfold report Engine.executeOn
    split
    · rename_i stepless
      exact ⟨fun summary came => (by cases came), rfl⟩
    · exact ((Run.Accounts.start engine savings playbook ctx files).foldl_advanceOn view playbook.steps).finish
        playbook
  exact ⟨engine.executeOn_unsaving view savings playbook ctx files, accounts, accounts.of_success⟩

/-- The standard actions without services, and snapshots so often. -/
def Engine.savingTrial (every : Nat) : Engine :=
  ⟨Registry.standard Services.none, Settings.default.withCheckpointEvery every⟩

/-- A machine that holds a table where the draft of a progress file is written. -/
def FileTree.draftTrial : FileTree := ⟨[(["p.json.tmp"], .file "a\n1\n".toUTF8.toList)], []⟩

/-- What runs find there, given what the progress file and its draft hold. -/
def FileTree.draftView : FileView := fun files => (FileTree.draftTrial.withProgress "p.json" files).contents

/-- A run with a step that is skipped, one whose failure is ignored, and one that logs reads no file. With a
snapshot after every second step it writes one, the one after the second step. -/
theorem Engine.executeOn_saving_trial :
    let engine := Engine.savingTrial 2
    let view := FileTree.draftView
    let savings : Nat → Saving := fun _ => ⟨true, true⟩
    let files := FileTree.draftTrial.progress "p.json"
    let report := engine.executeOn view savings Playbook.erasureTrial Context.trial files
    (∀ visit ∈ engine.registry.visitsAmong (view files) Context.trial Playbook.erasureTrial.steps,
        visit.IsBlind engine.registry view) ∧
      (engine.unsaving.executeOn view savings Playbook.erasureTrial Context.trial files).SameButSaving report ∧
      (∃ summary, report.outcome = .ok summary ∧ summary.checkpointsWritten = 1) ∧
      ∃ snapshot : Snapshot, report.files.current = some snapshot.text ∧ snapshot.stepsProcessed = 2 := by
  intro engine view savings files report
  have blind : ∀ visit ∈ engine.registry.visitsAmong (view files) Context.trial Playbook.erasureTrial.steps,
      visit.IsBlind engine.registry view := by
    intro visit member
    refine Visit.isBlind_standard Services.none fun action fields file called read => ?_
    have step_mem := engine.registry.step_mem_of_mem_visitsAmong member
    obtain ⟨name, shaped⟩ := Visit.runnable?_of_call? called
    simp only [Playbook.erasureTrial, List.mem_cons, List.not_mem_nil, or_false] at step_mem
    rcases step_mem with step_eq | step_eq | step_eq <;> rw [step_eq] at shaped <;> cases shaped
    -- the step that says nothing calls nothing, and the others no action that reads
    · cases read
    · cases read
  obtain ⟨same, accounts, saved⟩ :=
    engine.executeOn_saving view savings Playbook.erasureTrial Context.trial files
  obtain ⟨counted, holds⟩ := saved fun _ _ _ => rfl
  have completes : report.outcome.toOption.isSome = true := by decide +kernel
  cases came : report.outcome with
  | error error => simp [came, Except.toOption] at completes
  | ok summary =>
    have processed : report.processed = 3 := (accounts.counts summary came).1
    have once : Playbook.erasureTrial.steps.length / engine.settings.checkpointEvery = 1 := by decide
    have last : 3 / engine.settings.checkpointEvery = 1 := once
    rw [processed, last] at holds
    exact ⟨blind, same blind, ⟨summary, rfl, (counted summary came).trans once⟩, holds⟩

-- a step that is skipped, a failure that is ignored, a success, and the failure that ends the run
example : (Engine.trial.executeOn FileTree.draftView (fun _ => ⟨true, true⟩) Playbook.trial Context.trial
    .none).processed = 4 := by
  decide +kernel

/-- A playbook that logs, and then reads the table. -/
def Playbook.draftTrial : Playbook :=
  { Playbook.blank with
    steps := [Step.make "first" "log",
      (Step.make "second" "read_csv").withParams (.record [("file", .text "p.json.tmp")])] }

/-- A run that reads where its draft is written takes notice of its snapshots: it completes if it writes none,
and fails if the draft has taken the place of the progress file before. -/
theorem Engine.executeOn_draft :
    let view := FileTree.draftView
    let savings : Nat → Saving := fun _ => ⟨true, true⟩
    let files := FileTree.draftTrial.progress "p.json"
    let engine := Engine.savingTrial 1
    (engine.unsaving.executeOn view savings Playbook.draftTrial Context.trial files).phase = .completed ∧
      (engine.executeOn view savings Playbook.draftTrial Context.trial files).phase = .failed := by
  decide +kernel

end Stepwise
