import Stepwise.Run.Context

/-!
# Playbooks

A playbook is a configuration and a list of steps. A step names an action and its parameters; it may
have a guard, a variable that keeps the answer, and flags. A step without name or action is part of the
document, but never runs.
-/

set_option autoImplicit false

namespace Stepwise

/-- The guard of a step: fixed, or an expression. -/
inductive StepGuard where
  | fixed (holds : Bool)
  | expression (text : String)
deriving DecidableEq, Repr

/-- A step of a playbook. -/
structure Step where
  name : Option String
  action : Option String
  params : Fields
  guard : Option StepGuard
  register : Option String
  trackResult : Bool
  ignoreErrors : Bool

/-- A playbook. -/
structure Playbook where
  name : Option String
  description : Option String
  config : Fields
  steps : List Step

/-- An optional text as a value. -/
def Value.optionalText (text : Option String) : Value :=
  match text with
  | some s => .text s
  | none => .null

/-- A guard as a value. -/
def StepGuard.toValue : StepGuard → Value
  | .fixed holds => .flag holds
  | .expression text => .text text

namespace Step

/-- The step that says nothing. -/
def blank : Step := ⟨none, none, [], none, none, false, false⟩

/-- A step that runs an action. -/
def make (name action : String) : Step := { blank with name := some name, action := some action }

/-- Sets the parameters; anything but a record means none. -/
def withParams (step : Step) (params : Value) : Step := { step with params := params.asFields?.getD [] }

/-- Sets the guard. -/
def withGuard (step : Step) (text : String) : Step := { step with guard := some (.expression text) }

/-- Sets the variable that keeps the answer. -/
def withRegister (step : Step) (name : String) : Step := { step with register := some name }

/-- Keeps the answer among the results. -/
def tracked (step : Step) : Step := { step with trackResult := true }

/-- Lets the run go on when the action fails. -/
def ignoringErrors (step : Step) : Step := { step with ignoreErrors := true }

/-- A text that is more than blanks. -/
def substantial? (text : Option String) : Option String := text.filter fun s => !Text.isAllBlank s

/-- The name and the action of a step that can run. -/
def runnable? (step : Step) : Option (String × String) :=
  match substantial? step.name, substantial? step.action with
  | some name, some action => some (name, action)
  | _, _ => none

/-- Whether the guard of a step lets it run. -/
def allowedBy (step : Step) (ctx : Context) : Bool :=
  match step.guard with
  | none => true
  | some (.fixed holds) => holds
  | some (.expression text) => ctx.allows text

/-- A step as a value, with every field. -/
def toValue (step : Step) : Value :=
  .object [("name", .optionalText step.name), ("action", .optionalText step.action),
    ("params", .record step.params), ("when", (step.guard.map StepGuard.toValue).getD .null),
    ("register", .optionalText step.register), ("track_result", .flag step.trackResult),
    ("ignore_errors", .flag step.ignoreErrors)]

end Step

namespace Playbook

/-- The playbook that says nothing. -/
def blank : Playbook := ⟨none, none, [], []⟩

/-- The name to show. -/
def displayName (playbook : Playbook) : String := playbook.name.getD "Unnamed"

/-- The configuration with the variables of the environment filled in. -/
def resolvedConfig (playbook : Playbook) (environment : Table String)
    (current : Template.Token → Value) : Fields :=
  Value.resolveFields (Context.environmentScope environment current) playbook.config

/-- A playbook as a value, with every field. -/
def toValue (playbook : Playbook) : Value :=
  .object [("name", .optionalText playbook.name), ("description", .optionalText playbook.description),
    ("config", .record playbook.config), ("steps", .list (playbook.steps.map Step.toValue))]

end Playbook

end Stepwise
