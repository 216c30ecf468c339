import Stepwise.Progress.Snapshot

/-!
# Checkpoints

Every so many steps a snapshot is written to the progress file. It is written to a draft beside the file
first, which then takes the place of the file, so the file never holds half a snapshot. Either may fail;
then the file stays as it was, and the run goes on.
-/

set_option autoImplicit false

namespace Stepwise

/-- How the writing of a snapshot goes. -/
structure Saving where
  /-- The draft can be written. -/
  drafted : Bool
  /-- The draft can take the place of the file. -/
  replaced : Bool
deriving DecidableEq, Repr

/-- The texts of the progress file and of the draft beside it, if they exist. -/
structure ProgressFiles where
  current : Option String
  draft : Option String
deriving DecidableEq, Repr

namespace ProgressFiles

/-- The path of the draft beside a progress file. -/
def draftPath (path : String) : String := path ++ ".tmp"

/-- Neither the file nor a draft exists. -/
def none : ProgressFiles := ⟨.none, .none⟩

/-- Writes a text to the progress file, and tells whether that succeeds. -/
def save (files : ProgressFiles) (saving : Saving) (text : String) : Bool × ProgressFiles :=
  if !saving.drafted then (false, files)
  else if !saving.replaced then (false, { files with draft := some text })
  else (true, ⟨some text, .none⟩)

/-- The snapshot that the progress file holds, if it holds one. -/
def snapshot? (files : ProgressFiles) : Option Snapshot := files.current.bind Snapshot.ofText?

end ProgressFiles

/-- The progress file, how often it is written, and how often it has been. -/
structure Checkpoints where
  every : Nat
  writes : Nat
  files : ProgressFiles

namespace Checkpoints

/-- A step at which a snapshot is due: each whose number is a multiple of the cadence; none if the
cadence is zero. -/
def isDue (every step : Nat) : Bool := decide (0 < every ∧ 0 < step ∧ step % every = 0)

/-- Writes a snapshot if it is due, and tells whether it was written. -/
def record (checkpoints : Checkpoints) (step : Nat) (saving : Saving) (snapshot : Snapshot) :
    Bool × Checkpoints :=
  if isDue checkpoints.every step then
    match checkpoints.files.save saving snapshot.text with
    | (true, files) => (true, { checkpoints with files, writes := checkpoints.writes + 1 })
    | (false, files) => (false, { checkpoints with files })
  else (false, checkpoints)

/-- What a snapshot of a run says about the step it was taken after. -/
def stepDetails (name : String) (step total : Nat) : Value :=
  .object [("current_step", .text name), ("step_index", .count step), ("total_steps", .count total)]

end Checkpoints

/-- What is known when a step has been processed, and how the writing of a snapshot would go then. -/
structure Occasion where
  timestamp : String
  /-- The number of the step, and how many there are. -/
  step : Nat
  total : Nat
  name : String
  recordsProcessed : Nat
  elapsedMs : Nat
  memory : MemoryStats
  saving : Saving

/-- The snapshot of an occasion. -/
def Occasion.snapshot (occasion : Occasion) : Snapshot :=
  { timestamp := occasion.timestamp
    stepsProcessed := occasion.step
    recordsProcessed := occasion.recordsProcessed
    elapsedMs := occasion.elapsedMs
    memory := occasion.memory
    details := Checkpoints.stepDetails occasion.name occasion.step occasion.total }

namespace Checkpoints

/-- Nothing written yet, with the files as they are found. -/
def start (every : Nat) (files : ProgressFiles) : Checkpoints := ⟨every, 0, files⟩

/-- Writes the snapshot of an occasion if one is due, and tells whether it was written. -/
def offer (checkpoints : Checkpoints) (occasion : Occasion) : Bool × Checkpoints :=
  checkpoints.record occasion.step occasion.saving occasion.snapshot

/-- Goes through occasions one after another, and tells of each whether a snapshot was written. -/
def offerAll (checkpoints : Checkpoints) : List Occasion → List Bool × Checkpoints
  | [] => ([], checkpoints)
  | occasion :: rest =>
    let (written, after) := checkpoints.offer occasion
    let (others, final) := after.offerAll rest
    (written :: others, final)

end Checkpoints

end Stepwise
