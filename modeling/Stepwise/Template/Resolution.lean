import Stepwise.Template.Expression
import Stepwise.Value.Writer
import Stepwise.Value.Reading

/-!
# Resolving templates

A scope says which namespaces it serves and what their paths stand for. Holes that mention another
namespace, or that cannot be read, stay as they are written, so that a later pass may fill them. A
text that is one hole and nothing else becomes the value itself; else values are written into the
text.
-/

set_option autoImplicit false

namespace Stepwise

/-- What paths and tokens stand for. -/
structure Scope where
  serves : Namespace → Bool
  lookup : Path → Option Value
  current : Template.Token → Value

namespace Template

/-- What becomes of a hole: a value, nothing as the path is undefined, or the hole as it was. -/
inductive Outcome where
  | found (value : Value)
  | undefined
  | kept

/-- A text that is itself still a hole does not satisfy a chain. -/
def isBareHole : Value → Bool
  | .text s =>
    (Text.after? opening s.toList).isSome && (Text.before? ['}'] s.toList).isSome
  | _ => false

/-- The value of the first alternative of a chain that is a literal, a token, or a path to something
that counts as true; the empty text when there is none. -/
def firstUsable (scope : Scope) : Expression → Value
  | [] => .text ""
  | .literal text :: _ => .text text
  | .token token :: _ => scope.current token
  | .path path :: rest =>
    match scope.lookup path with
    | some value =>
      if value.isTruthy && !isBareHole value then value else firstUsable scope rest
    | none => firstUsable scope rest
  | .foreign _ :: rest => firstUsable scope rest

/-- An alternative that has to wait for a scope that serves its namespace. -/
def Alternative.waits (scope : Scope) : Alternative → Bool
  | .path named => !scope.serves named.root
  | _ => false

/-- Evaluates an expression. A single alternative gives its value; a chain looks for the first usable
one; nothing is evaluated while an alternative has to wait. -/
def Expression.evaluate (scope : Scope) (expression : Expression) : Outcome :=
  if expression.any (Alternative.waits scope) then .kept
  else
    match expression with
    | [.literal text] => .found (.text text)
    | [.token token] => .found (scope.current token)
    | [.foreign _] => .kept
    | [.path path] =>
      match scope.lookup path with
      | some value => .found value
      | none => .undefined
    | _ => .found (firstUsable scope expression)

/-- Evaluates the source of a hole; one that cannot be read is kept. -/
def fill (scope : Scope) (source : List Char) : Outcome :=
  match Expression.parse source with
  | .ok expression => expression.evaluate scope
  | .error _ => .kept

/-- The text that a segment contributes. -/
def Segment.resolved (scope : Scope) : Segment → List Char
  | .literal text => text
  | .hole source =>
    match fill scope source with
    | .found value => value.render.toList
    | .undefined => []
    | .kept => (Segment.hole source).text

/-- Resolves a text. A hole that is kept gives its raw text, by itself as well as inside a text. -/
def resolveText (scope : Scope) (text : String) : Value :=
  match parse text.toList with
  | [.hole source] =>
    match fill scope source with
    | .found value => value
    | .undefined => .text ""
    | .kept => .text (String.ofList (Segment.hole source).text)
  | segments => .text (String.ofList (segments.flatMap (Segment.resolved scope)))

end Template

namespace Value

mutual

/-- Resolves every text in a value; names of fields are left alone. -/
def resolve (scope : Scope) : Value → Value
  | .text s => Template.resolveText scope s
  | .list items => .list (resolveItems scope items)
  | .record fields => .record (resolveFields scope fields)
  | .null => .null
  | .flag b => .flag b
  | .number n => .number n

/-- Resolves every item. -/
def resolveItems (scope : Scope) : List Value → List Value
  | [] => []
  | item :: rest => resolve scope item :: resolveItems scope rest

/-- Resolves every field. -/
def resolveFields (scope : Scope) : List (String × Value) → List (String × Value)
  | [] => []
  | (name, value) :: rest => (name, resolve scope value) :: resolveFields scope rest

end

end Value

end Stepwise
