import Stepwise.Text.Split

/-!
# Formats of documents

The extension of a file's name tells the format of a document.
-/

set_option autoImplicit false

namespace Stepwise

/-- The notation of a document. -/
inductive Format where
  | yaml
  | json
deriving DecidableEq, Repr

/-- The last name of a path, if the path ends with a name. Empty parts are passed over, and so are single
points behind another part. -/
def lastName? (path : List Char) : Option (List Char) :=
  let parts := path.splitOn '/'
  let named := parts.filter fun part => part ≠ [] ∧ part ≠ ['.']
  match named.getLast? with
  | some name => if name = ['.', '.'] then none else some name
  | none => none

/-- What follows the last point of a name, if anything precedes the point. -/
def extension? (name : List Char) : Option (List Char) :=
  let tail := name.reverse.takeWhile (· ≠ '.')
  if tail.length + 1 < name.length then some tail.reverse else none

/-- The format of a file: JSON if the extension says so in whatever case, else YAML. -/
def Format.ofPath (path : String) : Format :=
  match (lastName? path.toList).bind extension? with
  | some found => if found.map Char.toLower = "json".toList then .json else .yaml
  | none => .yaml

end Stepwise
