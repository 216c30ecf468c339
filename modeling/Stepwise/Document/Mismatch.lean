import Stepwise.Document.Node
import Stepwise.Value.Writer
import Stepwise.Text.Literal

/-!
# Wording of mismatches, and plain data as a document

What a reader is told when a document does not have the wanted shape. A value that is already at hand is
read as a document too.
-/

set_option autoImplicit false

namespace Stepwise

/-- A value as a mismatch names it. -/
def Value.described : Value → String
  | .null => "null"
  | .flag b => "boolean `" ++ toString b ++ "`"
  | .number (.whole n) => "integer `" ++ toString n ++ "`"
  | .number (.real x) => "floating point `" ++ x.text ++ "`"
  | .text s => "string " ++ Text.literal s
  | .list _ => "sequence"
  | .record _ => "map"

/-- The wording of a mismatch. -/
def Mismatch.message : Mismatch → String
  | .wrongKind found wanted => "invalid type: " ++ found.described ++ ", expected " ++ wanted
  | .tooLong length => "invalid length " ++ toString length ++ ", expected fewer elements in array"
  | .missing field => "missing field `" ++ field ++ "`"
  | .repeated field => "duplicate field `" ++ field ++ "`"
  | .paramsNotMapping found => "params must be a mapping, got " ++ found.compact
  | .noGuard => "data did not match any variant of untagged enum WhenClause"
  | .unreadable => "a value cannot be represented"

namespace Node

/-- The style of data that is already at hand. -/
def plainStyle : Style := ⟨false, true⟩

/-- The tree of a scalar that is already at hand. -/
def ofScalar (value : Value) : Node :=
  .scalar (Scalar.ofValue value)

mutual

/-- The tree of a value. -/
def ofValue : Value → Node
  | .list items => .list plainStyle (ofItems items)
  | .record fields => .mapping plainStyle (ofFields fields)
  | .null => ofScalar .null
  | .flag b => ofScalar (.flag b)
  | .number n => ofScalar (.number n)
  | .text s => ofScalar (.text s)

/-- The trees of the items of a list. -/
def ofItems : List Value → List Node
  | [] => []
  | item :: rest => ofValue item :: ofItems rest

/-- The trees of the fields of a record. -/
def ofFields : List (String × Value) → List (Node × Node)
  | [] => []
  | (name, value) :: rest => (ofScalar (.text name), ofValue value) :: ofFields rest

end

end Node

end Stepwise
