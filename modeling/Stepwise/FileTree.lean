import Stepwise.Progress.Checkpoints
import Stepwise.Text.Split
import Stepwise.Text.Utf8

/-!
# File trees

A file tree holds directories and files, each at a place: the names that lead there from the root. A path
is followed name by name, and only a directory has names to follow. A file can be written where its directory
exists and it is no directory itself, so how the writing of a progress file goes can be told beforehand.
-/

set_option autoImplicit false

namespace Stepwise

/-- Why a file cannot be read or written. -/
inductive FileFault where
  | zeroByte
  | missing
  | notDirectory
  | directory
  | nameTooLong
deriving DecidableEq, Repr

/-- The wording of a fault. -/
def FileFault.message : FileFault → String
  | .zeroByte => "file name contained an unexpected NUL byte"
  | .missing => "No such file or directory (os error 2)"
  | .notDirectory => "Not a directory (os error 20)"
  | .directory => "Is a directory (os error 21)"
  | .nameTooLong => "File name too long (os error 36)"

/-- What a place holds. -/
inductive FileEntry where
  | directory
  | file (bytes : List UInt8)
  /-- A file that is always empty. -/
  | void
deriving DecidableEq, Repr

/-- The names that lead from the root to a file or a directory. -/
abbrev Place : Type := List String

/-- The places that hold something, and the place where paths start that do not start at the root. -/
structure FileTree where
  entries : List (Place × FileEntry)
  home : Place

namespace FileTree

/-- The greatest number of bytes in a name. -/
def longestName : Nat := 255

/-- The greatest number of bytes in a path. -/
def longestPath : Nat := 4095

/-- What a place holds. The root is a directory. -/
def lookup? (tree : FileTree) (place : Place) : Option FileEntry :=
  if place = [] then some .directory
  else (tree.entries.find? fun entry => entry.1 == place).map Prod.snd

/-- Whether a place is a directory. -/
def isDirectory (tree : FileTree) (place : Place) : Bool := tree.lookup? place == some .directory

/-- The place that names lead to from a place. Every place but the last has to be a directory; a name that
is empty leads to the same place, but still needs a directory. -/
def follow (tree : FileTree) (place : Place) : List String → Except FileFault Place
  | [] => .ok place
  | name :: rest =>
    match tree.lookup? place with
    | none => .error .missing
    | some .directory =>
      if name == "" || name == "." then tree.follow place rest
      else if name == ".." then tree.follow place.dropLast rest
      else if longestName < name.utf8ByteSize then .error .nameTooLong
      else tree.follow (place ++ [name]) rest
    | some _ => .error .notDirectory

/-- The names of a path. -/
def names (path : String) : List String := (Text.split ['/'] path.toList).map String.ofList

/-- The place that a path leads to. -/
def locate (tree : FileTree) (path : String) : Except FileFault Place :=
  if path.toList.contains '\x00' then .error .zeroByte
  else if path.isEmpty then .error .missing
  else if longestPath < path.utf8ByteSize then .error .nameTooLong
  else tree.follow (if path.toList.head? == some '/' then [] else tree.home) (names path)

/-- The bytes of a file. -/
def read (tree : FileTree) (path : String) : Except FileFault (List UInt8) := do
  match tree.lookup? (← tree.locate path) with
  | none => .error .missing
  | some .directory => .error .directory
  | some (.file bytes) => .ok bytes
  | some .void => .ok []

/-- The text of a file, if it has one. -/
def text? (tree : FileTree) (path : String) : Option String :=
  match (tree.read path).map Text.ofUtf8 with
  | .ok (.ok text) => some (String.ofList text)
  | _ => none

/-- The place at which a file can be written. -/
def target (tree : FileTree) (path : String) : Except FileFault Place := do
  let place ← tree.locate path
  if tree.isDirectory place then .error .directory else .ok place

/-- The tree with another entry at a place, or with none. -/
def set (tree : FileTree) (place : Place) (entry : Option FileEntry) : FileTree :=
  { tree with
    entries := (tree.entries.filter fun old => old.1 != place) ++ (entry.map fun new => (place, new)).toList }

/-- A place holds what was set there last. -/
theorem lookup?_set_self (tree : FileTree) {place : Place} (below : place ≠ []) (entry : Option FileEntry) :
    (tree.set place entry).lookup? place = entry := by
  have gone : (tree.entries.filter fun old => old.1 != place).find? (fun old => old.1 == place) = none := by
    simp
  cases entry <;> simp [lookup?, set, below, List.find?_append, gone]

/-- Other places hold what they held before. -/
theorem lookup?_set_of_ne (tree : FileTree) {place other : Place} (apart : other ≠ place)
    (entry : Option FileEntry) : (tree.set place entry).lookup? other = tree.lookup? other := by
  have kept : (tree.entries.filter fun old => old.1 != place).find? (fun old => old.1 == other) =
      tree.entries.find? (fun old => old.1 == other) := by
    rw [List.find?_filter]
    congr 1
    funext old
    by_cases same : old.1 = other <;> simp [same, apart]
  have absent : (place == other) = false := by simpa using fun same => apart same.symm
  cases entry <;> simp [lookup?, set, List.find?_append, kept, absent]

/-- Gives the file at a path a text, or takes it away. A file that has this text already stays as it is, and
where no file can be written nothing changes. -/
def put (tree : FileTree) (path : String) (text : Option String) : FileTree :=
  if tree.text? path = text then tree
  else
    match tree.target path with
    | .ok place => tree.set place (text.map fun t => .file t.toUTF8.toList)
    | .error _ => tree

/-- The names of what lies in a directory, in order. -/
def list (tree : FileTree) (place : Place) : List String :=
  let inside := (tree.entries.map Prod.fst).filter fun inner => inner != [] && inner.dropLast == place
  (inside.filterMap List.getLast?).mergeSort fun a b => decide (a < b) || a == b

/-- The tree with a directory at a place, and at each place on the way to it. -/
def withDirectory (tree : FileTree) (place : Place) : FileTree :=
  (List.range place.length).foldl
    (fun tree n => tree.set (place.take (n + 1)) (some .directory)) tree

/-- The tree with a file whose directory is made if need be. -/
def withFile (tree : FileTree) (path text : String) : FileTree :=
  let steps := (names path).filter fun name => name != "" && name != "."
  (tree.withDirectory (tree.home ++ steps.dropLast)).put path (some text)

/-- The directories that every machine has below its root. -/
def rootNames : List String :=
  ["bin", "boot", "dev", "etc", "home", "lib", "media", "mnt", "opt", "proc", "root", "run", "sbin", "srv",
    "sys", "tmp", "usr", "var"]

/-- The tree of a machine whose home is a directory without files. -/
def bare (home : Place) : FileTree :=
  let tree : FileTree := ⟨rootNames.map fun name => ([name], .directory), home⟩
  (tree.set ["dev", "null"] (some .void)).withDirectory home

/-- How the writing of the progress file at a path goes. -/
def saving (tree : FileTree) (path : String) : Saving :=
  ⟨(tree.target (ProgressFiles.draftPath path)).isOk, (tree.target path).isOk⟩

/-- The progress file at a path and its draft. -/
def progress (tree : FileTree) (path : String) : ProgressFiles :=
  ⟨tree.text? path, tree.text? (ProgressFiles.draftPath path)⟩

/-- The tree in which a progress file and its draft are as given. -/
def withProgress (tree : FileTree) (path : String) (files : ProgressFiles) : FileTree :=
  (tree.put path files.current).put (ProgressFiles.draftPath path) files.draft

/-- What a run reads of a tree. -/
def contents (tree : FileTree) (path : String) : Except String (List UInt8) :=
  (tree.read path).mapError FileFault.message

end FileTree

end Stepwise
