import Stepwise.Command.Session
import Stepwise.Time.Moment
import Std.Time.DateTime.Timestamp

/-!
# The program

Runs a playbook from the command line. Everything that a run needs to know about the machine is looked up
here, step by step; what follows from it is computed by `Session` and `Run`. No requests are sent: every
request fails as one that gets no reply.
-/

set_option autoImplicit false

namespace Stepwise.Program

/-- The wording of a failure to read or to write a file. -/
def fileFailure (error : IO.Error) : String :=
  match error with
  | .noFileOrDirectory .. => FileFault.missing.message
  | .permissionDenied .. => "Permission denied (os error 13)"
  | .inappropriateType .. => FileFault.directory.message
  | error => toString error

/-- The bytes of a file, or why there are none. -/
def readFile (path : String) : IO (Except String (List UInt8)) := do
  try
    return .ok (← IO.FS.readBinFile path).toList
  catch error =>
    return .error (fileFailure error)

/-- The environment of the program. -/
def environment : IO (Table String) := do
  let bytes := match ← readFile "/proc/self/environ" with
    | .ok bytes => bytes
    | .error _ => []
  let text := match Text.ofUtf8 bytes with
    | .ok text => text
    | .error _ => []
  return Table.ofList ((Text.split ['\x00'] text).filterMap (Text.breakAt ['='])
    |>.map fun entry => (String.ofList entry.1, String.ofList entry.2))

/-- A random identifier. -/
def identifier : IO String := do
  let bytes := (← IO.getRandomBytes 16).toList
  let marked := bytes.mapIdx fun i byte =>
    if i == 6 then byte % 16 + 0x40 else if i == 8 then byte % 64 + 0x80 else byte
  let digits (byte : UInt8) : List Char :=
    [hexDigit (byte.toNat / 16), hexDigit (byte.toNat % 16)]
  let chars := marked.flatMap digits
  let part (start count : Nat) : List Char := (chars.drop start).take count
  return String.ofList (Text.join ['-'] [part 0 8, part 8 4, part 12 4, part 16 4, part 20 12])

/-- The time on the calendar. -/
def moment : IO Moment := do
  let now ← Std.Time.Timestamp.now
  let total := now.toNanosecondsSinceUnixEpoch.val
  let second : Int := Summary.second
  return ⟨total / second, (total % second).toNat⟩

/-- What the tokens of templates stand for now. -/
def current : IO (Template.Token → Value) := do
  let now ← moment
  let id ← identifier
  return fun
    | .timestamp => .text now.iso
    | .date => .text now.date.text
    | .epochMillis => .number (.whole now.milliseconds)
    | .uuid => .text id

/-- The machine as it is now, as far as some files of it matter. -/
def observe (before : Outside) (paths : List String) : IO Outside := do
  let contents ← paths.mapM fun path => do return (path, ← readFile path)
  let clock ← IO.monoNanosNow
  return { before with
    clock, current := ← current
    files := fun path =>
      ((contents.find? fun entry => entry.1 == path).map Prod.snd).getD
        (.error FileFault.missing.message) }

/-- Nothing is known of the machine. -/
def unknown : Outside := ⟨0, none, fun _ => .null, fun _ => .error "", (0, 0), [], []⟩

/-- Writes a snapshot, and tells whether that succeeds. -/
def save (path : String) (snapshot : Snapshot) : IO Bool := do
  try
    IO.FS.writeFile (ProgressFiles.draftPath path) snapshot.text
    IO.FS.rename (ProgressFiles.draftPath path) path
    return true
  catch _ =>
    return false

/-- Processes a step: waits as long as the run has waited, and writes what it has logged. -/
def step (session : Session) (engine : Engine) (run : Run) (step : Step) : IO Run := do
  let outside ← observe { run.ctx.outside with logged := [] } (Session.fileOfStep? run.ctx step).toList
  let (run, due) := Run.advance engine { run with ctx := { run.ctx with outside } } step
  for (level, line) in run.ctx.outside.logged.reverse do
    if let some shown := Session.logLine? session.invocation level line then IO.println shown
  IO.sleep ((run.ctx.outside.clock - outside.clock) / Context.millisecond).toUInt32
  match due with
  | none => return run
  | some snapshot => return run.acknowledge (← save engine.settings.progressFile snapshot)

/-- Runs the playbook of a session. -/
def report (session : Session) : IO Report := do
  let outside ← observe unknown [session.path]
  let engine := session.engine fun _ => none
  match session.playbook outside with
  | .error error =>
    return Engine.loadFailure error (Context.start session.environment [] outside) ProgressFiles.none
  | .ok playbook =>
    let fresh := Engine.freshContext playbook session.environment none outside
    let ctx := { fresh with runId := ← identifier }
    let mut run := Run.start engine.settings playbook ctx
    for next in playbook.steps do
      run ← step session engine run next
    return run.finish playbook ProgressFiles.none

/-- Tells what came of a session. -/
def tell (ending : Ending) : IO UInt32 := do
  if let some text := ending.output then IO.println text
  if let some text := ending.complaint then IO.eprintln text
  return ending.code.toUInt32

end Stepwise.Program

open Stepwise in
/-- Runs the playbook that the command line names. -/
def main (arguments : List String) : IO UInt32 := do
  let outside ← Program.observe Program.unknown [Session.environmentFile]
  match Session.open? (← Program.environment) arguments outside with
  | .error refusal => Program.tell (Ending.ofRefusal refusal)
  | .ok session => Program.tell (Ending.ofReport (← Program.report session))
