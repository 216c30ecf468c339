import Stepwise.Command.Arguments
import Stepwise.Command.EnvironmentFile
import Stepwise.Action.Standard
import Stepwise.FileTree
import Stepwise.Request.Client
import Stepwise.Run.Pipeline
import Stepwise.Text.Utf8

/-!
# Sessions

A session is one use of the command: the arguments and the environment say what is to be done, a playbook
is run, and what comes of it is told to whoever gave the command.
-/

set_option autoImplicit false

namespace Stepwise

/-- What a session leaves: an exit code, and a text for the output or for the errors. -/
structure Ending where
  code : Nat
  output : Option String
  complaint : Option String
deriving DecidableEq, Repr

namespace Ending

/-- How the command is used. -/
def usage : String := "Usage: playbook [OPTIONS] <PATH>"

/-- What the command is. -/
def version : String := "playbook 0.1.0"

/-- The ending when there is no run. -/
def ofRefusal : Refusal → Ending
  | .help => ⟨0, some usage, none⟩
  | .version => ⟨0, some version, none⟩
  | .misuse => ⟨2, none, some usage⟩

/-- The ending after a run. -/
def ofReport (report : Report) : Ending :=
  match report.outcome with
  | .ok summary => ⟨0, some summary.text, none⟩
  | .error error => ⟨1, none, some error.message⟩

end Ending

/-- The text of a file, or why there is none. -/
def Outside.fileText (outside : Outside) (path : String) : Except String String := do
  match Text.ofUtf8 (← outside.files path) with
  | .ok text => .ok (String.ofList text)
  | .error _ => .error "stream did not contain valid UTF-8"

/-- A session that was understood. -/
structure Session where
  invocation : Invocation
  /-- The environment, with what the environment file adds. -/
  environment : Table String

namespace Session

/-- The name of the environment file. -/
def environmentFile : String := ".env"

/-- Understands the arguments in an environment. The environment file, if it can be read, adds to the
environment of the run, but has no say in the arguments. -/
def open? (environment : Table String) (arguments : List String) (outside : Outside) :
    Except Refusal Session :=
  (Invocation.read environment arguments).map fun invocation =>
    match invocation.noDotenv, outside.fileText environmentFile with
    | false, .ok text => ⟨invocation, EnvironmentFile.extend environment text⟩
    | _, _ => ⟨invocation, environment⟩

/-- The file of the playbook. -/
def path (session : Session) : String := session.invocation.playbook.getD ""

/-- The settings of a session. -/
def settings (session : Session) : Settings := session.invocation.settings session.environment

/-- The engine of a session, given how requests get replies. -/
def engine (session : Session) (send : Sender) : Engine :=
  ⟨Registry.standard (Services.online send session.environment), session.settings⟩

/-- The playbook of a session. -/
def playbook (session : Session) (outside : Outside) : Except LoadError Playbook :=
  Playbook.load session.path (outside.fileText session.path)

/-- Runs the playbook of a session on a machine. -/
def report (session : Session) (send : Sender) (view : FileView) (savings : Nat → Saving)
    (outside : Outside) (files : ProgressFiles) : Report :=
  match session.playbook outside with
  | .error error => Engine.loadFailure error (Context.start session.environment [] outside) files
  | .ok playbook =>
    (session.engine send).executeOn view savings playbook
      (Engine.freshContext playbook session.environment none outside) files

/-- The file that a step reads, if it reads one. -/
def fileOfStep? (ctx : Context) (step : Step) : Option String :=
  match step.runnable? with
  | some (_, "read_csv") => (Table.get? (ctx.resolveFields step.params) "file").bind Value.asText?
  | _ => none

/-- The word for how grave a line of the log is. -/
def levelName : Level → String
  | .debug => "DEBUG"
  | .info => "INFO"
  | .warn => "WARN"
  | .error => "ERROR"

/-- A line of the log as it is shown, if it is grave enough for the verbosity asked for. -/
def logLine? (invocation : Invocation) (level : Level) (line : String) : Option String :=
  if level == .debug && invocation.verbosity == 0 then none
  else if invocation.json then
    some (Value.object [("level", .text (levelName level)), ("message", .text line)]).compact
  else some (levelName level ++ " " ++ line)

end Session

/-- One use of the command from beginning to end, on a file tree. -/
def command (send : Sender) (environment : Table String) (arguments : List String) (outside : Outside)
    (tree : FileTree) : Ending × FileTree :=
  let outside := { outside with files := tree.contents }
  match Session.open? environment arguments outside with
  | .error refusal => (Ending.ofRefusal refusal, tree)
  | .ok session =>
    let path := session.settings.progressFile
    let view (files : ProgressFiles) := (tree.withProgress path files).contents
    let report := session.report send view (fun _ => tree.saving path) outside (tree.progress path)
    (Ending.ofReport report, tree.withProgress path report.files)

end Stepwise
