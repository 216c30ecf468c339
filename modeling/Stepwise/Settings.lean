import Stepwise.Table
import Stepwise.Text.Numeral

/-!
# Settings

How runs are carried out, rather than what they do. The environment may set some of it; what it says is
ignored where it cannot be read.
-/

set_option autoImplicit false

namespace Stepwise

/-- The settings of an engine. -/
structure Settings where
  /-- The file that snapshots are written to. -/
  progressFile : String
  /-- The number of steps between snapshots; zero means none are written. -/
  checkpointEvery : Nat
  /-- The least time between tidying the stores, in milliseconds. -/
  compactIntervalMs : Nat
  /-- The number of steps between lines about memory; zero means none are logged. -/
  telemetryEvery : Nat
deriving DecidableEq, Repr

namespace Settings

/-- The settings when nothing is said. -/
def default : Settings := ⟨"workflow-progress.json", 5, 30000, 10⟩

/-- What a variable of the environment says, without blanks around it, if it says anything. -/
def said? (environment : Table String) (name : String) : Option String :=
  ((Table.get? environment name).map Text.trimmed).filter (!·.isEmpty)

/-- The count that a variable of the environment says, if it is one. -/
def saidCount? (environment : Table String) (name : String) : Option Nat :=
  (said? environment name).bind fun text => Text.count? text.toList

/-- The settings that an environment asks for. -/
def ofEnvironment (environment : Table String) : Settings :=
  { default with
    progressFile := (said? environment "PLAYBOOK_PROGRESS_FILE").getD default.progressFile
    checkpointEvery := (saidCount? environment "PLAYBOOK_CHECKPOINT_EVERY").getD default.checkpointEvery
    compactIntervalMs :=
      (saidCount? environment "PLAYBOOK_COMPACT_INTERVAL_MS").getD default.compactIntervalMs }

/-- Sets the file that snapshots are written to. -/
def withProgressFile (settings : Settings) (file : String) : Settings :=
  { settings with progressFile := file }

/-- Sets the number of steps between snapshots. -/
def withCheckpointEvery (settings : Settings) (every : Nat) : Settings :=
  { settings with checkpointEvery := every }

/-- Sets the least time between tidying the stores. -/
def withCompactInterval (settings : Settings) (milliseconds : Nat) : Settings :=
  { settings with compactIntervalMs := milliseconds }

/-- Sets the number of steps between lines about memory. -/
def withTelemetryEvery (settings : Settings) (every : Nat) : Settings :=
  { settings with telemetryEvery := every }

end Settings

end Stepwise
