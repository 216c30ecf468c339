import Stepwise.Text.Split
import Stepwise.Text.Blank

/-!
# Paths of variables

A path names a value by its namespace and at least one segment, as in `vars.leads.0.email`. Segments
are parted by points, or given in brackets: `vars.leads[0].email` is the same path.
-/

set_option autoImplicit false

namespace Stepwise

/-- Where a path starts: the environment, the configuration, the variables of the run, the named
collections, or the record at hand. -/
inductive Namespace where
  | env
  | config
  | vars
  | collections
  | item
deriving DecidableEq, Repr

/-- Why an expression of a template cannot be read. -/
inductive TemplateError where
  | emptyExpression
  | unterminatedQuote (text : String)
  | unknownNamespace (text : String)
  | invalidPath (text : String)
deriving DecidableEq, Repr

/-- The wording of a template error. -/
def TemplateError.message : TemplateError → String
  | .emptyExpression => "empty expression"
  | .unterminatedQuote text => "unterminated string literal in '" ++ text ++ "'"
  | .unknownNamespace text => "unknown namespace '" ++ text ++ "'"
  | .invalidPath text => "invalid path '" ++ text ++ "'"

namespace Namespace

/-- The word for a namespace. -/
def text : Namespace → String
  | .env => "env"
  | .config => "config"
  | .vars => "vars"
  | .collections => "collections"
  | .item => "item"

/-- The namespace of a word. -/
def ofText? (word : String) : Option Namespace :=
  [env, config, vars, collections, item].find? fun root => root.text == word

/-- A word names exactly the namespace it is the word for. -/
theorem ofText?_text (root : Namespace) : ofText? root.text = some root := by
  cases root <;> decide

/-- A namespace is read only from its own word. -/
theorem text_of_ofText? {word : String} {root : Namespace} (named : ofText? word = some root) :
    root.text = word := by
  simpa using List.find?_some named

end Namespace

/-- A namespace and the segments below it, of which there is at least one. -/
structure Path where
  root : Namespace
  segments : List String
  nonempty : segments ≠ []
deriving DecidableEq

namespace Path

/-- The text of a path, with points between the segments. -/
def text (path : Path) : String :=
  ".".intercalate (path.root.text :: path.segments)

/-- The indices in brackets after a name. -/
def indices? (tail : List Char) : Option (List String) :=
  match tail with
  | [] => some []
  | c :: rest =>
    if c = '[' then
      match _found : Text.breakAt [']'] rest with
      | none => none
      | some (inside, next) =>
        let index := Text.trim inside
        if index.isEmpty then none
        else (indices? next).map (String.ofList index :: ·)
    else none
termination_by tail.length
decreasing_by
  have whole := Text.breakAt_eq_some _found
  rw [whole]
  simp only [List.length_cons, List.length_append]
  omega

/-- The segments of one part between points: a name without blanks, then indices in brackets. -/
def part? (part : List Char) : Option (List String) :=
  let name := part.takeWhile (· != '[')
  if name.isEmpty || name.any Text.isBlank then none
  else (indices? (part.dropWhile (· != '['))).map (String.ofList name :: ·)

/-- The segments of all parts, if every part is well formed. -/
def parts? (parts : List (List Char)) : Option (List String) :=
  match parts with
  | [] => some []
  | part :: rest =>
    match part? part, parts? rest with
    | some segments, some others => some (segments ++ others)
    | _, _ => none

/-- Reads a path. Every part has to be well formed before the namespace is looked at. -/
def parse (text : List Char) : Except TemplateError Path :=
  let trimmed := Text.trim text
  if trimmed.isEmpty then .error .emptyExpression
  else
    match parts? (trimmed.splitOn '.') with
    | none => .error (.invalidPath (String.ofList trimmed))
    | some [] => .error (.invalidPath (String.ofList trimmed))
    | some (head :: rest) =>
      match Namespace.ofText? head with
      | none => .error (.unknownNamespace head)
      | some root =>
        if nonempty : rest ≠ [] then .ok ⟨root, rest, nonempty⟩
        else .error (.invalidPath (String.ofList trimmed))

end Path

end Stepwise
