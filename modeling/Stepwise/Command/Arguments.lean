import Stepwise.Settings

/-!
# The command line

The command takes the file of a playbook and some options, which may come in any order. What an option
does not say, a variable of the environment may say in its place; there it is read as strictly as on the
command line. Anything else is a misuse.
-/

set_option autoImplicit false

namespace Stepwise

/-- An option that has a value. -/
inductive ValueOption where
  | progressFile
  | checkpointEvery
deriving DecidableEq, Repr

namespace ValueOption

/-- The name of an option on the command line. -/
def name : ValueOption → String
  | .progressFile => "progress-file"
  | .checkpointEvery => "checkpoint-every"

/-- The variable of the environment that may say the value. -/
def variableName : ValueOption → String
  | .progressFile => "PLAYBOOK_PROGRESS_FILE"
  | .checkpointEvery => "PLAYBOOK_CHECKPOINT_EVERY"

/-- The options that have a value. -/
def all : List ValueOption := [.progressFile, .checkpointEvery]

/-- The option of that name. -/
def ofName? (name : String) : Option ValueOption := all.find? fun option => option.name == name

end ValueOption

/-- What a command line asks for, as far as it is read. -/
structure Invocation where
  playbook : Option String
  verbosity : Nat
  progressFile : Option String
  checkpointEvery : Option Nat
  /-- The environment file is left alone. -/
  noDotenv : Bool
  /-- Log lines are written as JSON. -/
  json : Bool
deriving DecidableEq, Repr

/-- Why a command line asks for no run. -/
inductive Refusal where
  | help
  | version
  | misuse
deriving DecidableEq, Repr

namespace Invocation

/-- Nothing is asked for yet. -/
def blank : Invocation := ⟨none, 0, none, none, false, false⟩

/-- An option was given on the command line. -/
def sets (invocation : Invocation) : ValueOption → Bool
  | .progressFile => invocation.progressFile.isSome
  | .checkpointEvery => invocation.checkpointEvery.isSome

/-- Sets an option that was not set before. -/
def assign (invocation : Invocation) (option : ValueOption) (value : String) :
    Except Refusal Invocation :=
  if invocation.sets option then .error .misuse
  else
    match option with
    | .progressFile =>
      if value.isEmpty then .error .misuse else .ok { invocation with progressFile := some value }
    | .checkpointEvery =>
      match Text.count? value.toList with
      | some every => .ok { invocation with checkpointEvery := some every }
      | none => .error .misuse

/-- Takes the file of the playbook, unless there is one. -/
def takeFile (invocation : Invocation) (file : String) : Except Refusal Invocation :=
  if invocation.playbook.isSome || file.isEmpty then .error .misuse
  else .ok { invocation with playbook := some file }

/-- Takes an option without value, by its name. Only the one for more log lines may be repeated. -/
def takeFlag (invocation : Invocation) (name : String) : Except Refusal Invocation :=
  match name with
  | "verbose" => .ok { invocation with verbosity := invocation.verbosity + 1 }
  | "no-dotenv" => if invocation.noDotenv then .error .misuse else .ok { invocation with noDotenv := true }
  | "json" => if invocation.json then .error .misuse else .ok { invocation with json := true }
  | "help" => .error .help
  | "version" => .error .version
  | _ => .error .misuse

/-- Takes an option without value, by its letter. -/
def takeLetter (invocation : Invocation) (letter : Char) : Except Refusal Invocation :=
  match letter with
  | 'v' => invocation.takeFlag "verbose"
  | 'h' => .error .help
  | 'V' => .error .version
  | _ => .error .misuse

end Invocation

/-- How far a command line is read. -/
structure Reading where
  invocation : Invocation
  /-- The option whose value comes next. -/
  waiting : Option ValueOption
  /-- Everything that follows is a file. -/
  filesOnly : Bool
deriving DecidableEq, Repr

namespace Reading

/-- Nothing is read yet. -/
def start : Reading := ⟨Invocation.blank, none, false⟩

/-- Goes on with another invocation. -/
def keep (reading : Reading) (result : Except Refusal Invocation) : Except Refusal Reading :=
  result.map fun invocation => { reading with invocation, waiting := none }

/-- Reads an option by its name, with its value if one is attached. -/
def readName (reading : Reading) (text : List Char) : Except Refusal Reading :=
  let name := String.ofList (text.takeWhile (· != '='))
  match ValueOption.ofName? name, text.dropWhile (· != '=') with
  | some option, _ :: value => reading.keep (reading.invocation.assign option (String.ofList value))
  | some option, [] => .ok { reading with waiting := some option }
  | none, _ :: _ => .error .misuse
  | none, [] => reading.keep (reading.invocation.takeFlag name)

/-- Reads an argument. Where a value is awaited, nothing that looks like an option is taken for it. -/
def readArgument (reading : Reading) (argument : String) : Except Refusal Reading :=
  match reading.filesOnly, reading.waiting, argument.toList with
  | false, _, ['-', '-'] => .ok { reading with filesOnly := true }
  | false, none, '-' :: '-' :: text => reading.readName text
  | false, none, '-' :: letter :: letters =>
    reading.keep ((letter :: letters).foldlM Invocation.takeLetter reading.invocation)
  | false, some _, '-' :: _ :: _ => .error .misuse
  | false, some option, _ => reading.keep (reading.invocation.assign option argument)
  | _, none, _ => reading.keep (reading.invocation.takeFile argument)
  | true, some _, _ => .error .misuse

end Reading

namespace Invocation

/-- Lets the environment say what the command line does not. -/
def complete (environment : Table String) (invocation : Invocation) (option : ValueOption) :
    Except Refusal Invocation :=
  match Table.get? environment option.variableName with
  | some value => if invocation.sets option then .ok invocation else invocation.assign option value
  | none => .ok invocation

/-- What a command line asks for, given the environment. -/
def read (environment : Table String) (arguments : List String) : Except Refusal Invocation := do
  let reading ← arguments.foldlM Reading.readArgument Reading.start
  if reading.waiting.isSome then throw .misuse
  let invocation ← ValueOption.all.foldlM (complete environment) reading.invocation
  if invocation.playbook.isNone then throw .misuse
  return invocation

/-- The settings that a run is carried out with: those of the environment, where the command line says
nothing else. -/
def settings (environment : Table String) (invocation : Invocation) : Settings :=
  let base := Settings.ofEnvironment environment
  { base with
    progressFile := invocation.progressFile.getD base.progressFile
    checkpointEvery := invocation.checkpointEvery.getD base.checkpointEvery }

end Invocation

end Stepwise
