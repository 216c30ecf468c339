import Stepwise.Document.Reading
import Stepwise.Document.Format
import Stepwise.Json.Reader
import Stepwise.Yaml.Reader

/-!
# Loading playbooks

A text in one of the formats becomes a playbook if it says so and if it has a step.
-/

set_option autoImplicit false

namespace Stepwise

/-- Why there is no playbook. -/
inductive LoadError where
  | unreadable (path message : String)
  | malformed (format : Format) (detail : String)
  | noSteps

/-- What a malformed text of a format is reported with. -/
def Format.complaint : Format → String
  | .yaml => "Invalid YAML playbook: "
  | .json => "Invalid JSON playbook: "

/-- The wording of a load error. -/
def LoadError.message : LoadError → String
  | .unreadable path message => "Failed to read playbook " ++ path ++ ": " ++ message
  | .malformed format detail => format.complaint ++ detail
  | .noSteps => "Playbook has no steps"

namespace Playbook

/-- The document tree of a text. -/
def readText? (format : Format) (text : String) : Option Node :=
  match format with
  | .json => Json.read? Json.depthLimit text
  | .yaml => Yaml.read? wanted text

/-- Reads a playbook from a text. -/
def parse (format : Format) (text : String) : Except LoadError Playbook :=
  match readText? format text with
  | none => .error (.malformed format "not a document of this format")
  | some node =>
    match ofNode node with
    | .error mismatch => .error (.malformed format mismatch.message)
    | .ok playbook => if playbook.steps.isEmpty then .error .noSteps else .ok playbook

/-- Loads a playbook from a file, whose text or the reason why it cannot be read is given. -/
def load (path : String) (content : Except String String) : Except LoadError Playbook :=
  match content with
  | .error message => .error (.unreadable path message)
  | .ok text => parse (Format.ofPath path) text

end Playbook

end Stepwise
