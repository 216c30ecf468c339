import Stepwise.Value.Basic

/-!
# Document trees

What a document says before anyone asks what it means. A scalar may read differently as a text, as a
value, as an optional field and as a container, and part of a document that nobody asks for need not
be readable at all. Entries keep their order and their duplicates.
-/

set_option autoImplicit false

namespace Stepwise

/-- What a scalar says where a field may be left out: there is one, there is none, or neither can be
said. -/
inductive Presence where
  | given
  | absent
  | refused
deriving DecidableEq, Repr

/-- The readings of a scalar. -/
structure Scalar where
  /-- The text it stands for where a text is wanted. -/
  text : Option String
  /-- The value it stands for where any value is wanted. -/
  value : Option Value
  /-- As an optional field it is there or not. -/
  presence : Presence
  /-- As a list or a mapping it is empty. -/
  hollow : Bool

/-- How a container is written. -/
structure Style where
  /-- It carries a tag of the writer's own, so it is not plain data. -/
  tagged : Bool
  /-- A list may give the fields of a structure by position. -/
  positional : Bool

/-- The readings of plain data: null is what is left out. -/
def Scalar.ofValue (value : Value) : Scalar :=
  ⟨value.asText?, some value, if value matches .null then .absent else .given, false⟩

/-- A document tree. -/
inductive Node where
  | scalar (readings : Scalar)
  | list (style : Style) (items : List Node)
  | mapping (style : Style) (entries : List (Node × Node))
  | unreadable

/-- Why a document does not have the wanted shape. -/
inductive Mismatch where
  | wrongKind (found : Value) (wanted : String)
  | tooLong (length : Nat)
  | missing (field : String)
  | repeated (field : String)
  | paramsNotMapping (found : Value)
  | noGuard
  | unreadable

namespace Node

mutual

/-- The value that a tree stands for. Of two entries of one name the later stays. -/
def value? : Node → Option Value
  | .scalar readings => readings.value
  | .list style items => if style.tagged then none else (values? items).map Value.list
  | .mapping style entries =>
    if style.tagged then none
    else (entryValues? entries).map fun fields => Value.record (Table.ofList fields)
  | .unreadable => none

/-- The values of a list of trees. -/
def values? : List Node → Option (List Value)
  | [] => some []
  | node :: rest =>
    match value? node, values? rest with
    | some value, some values => some (value :: values)
    | _, _ => none

/-- The names and values of a list of entries. -/
def entryValues? : List (Node × Node) → Option (List (String × Value))
  | [] => some []
  | (key, node) :: rest =>
    match key, value? node, entryValues? rest with
    | .scalar readings, some value, some entries => readings.text.map fun name => (name, value) :: entries
    | _, _, _ => none

end

/-- The value of a tree, where any value is wanted. -/
def any (node : Node) : Except Mismatch Value :=
  match node.value? with
  | some value => .ok value
  | none => .error .unreadable

/-- The error of finding this tree where something else is wanted. -/
def unexpected {α : Type} (node : Node) (wanted : String) : Except Mismatch α :=
  match node with
  | .scalar readings =>
    match readings.value with
    | some found => .error (.wrongKind found wanted)
    | none => .error .unreadable
  | .list _ _ => .error (.wrongKind (.list []) wanted)
  | .mapping _ _ => .error (.wrongKind (.record []) wanted)
  | .unreadable => .error .unreadable

/-- The text of a tree, where a text is wanted. -/
def text (node : Node) : Except Mismatch String :=
  match node with
  | .scalar ⟨some found, _, _, _⟩ => .ok found
  | _ => node.unexpected "a string"

/-- Whether a tree is there as an optional field. Containers always are. -/
def presence : Node → Presence
  | .scalar readings => readings.presence
  | _ => .given

/-- An optional part of a document. -/
def optional {α : Type} (read : Node → Except Mismatch α) (node : Node) : Except Mismatch (Option α) :=
  match node.presence with
  | .given => (read node).map some
  | .absent => .ok none
  | .refused => .error .unreadable

/-- The items of a tree, where a list is wanted. -/
def items (node : Node) : Except Mismatch (List Node) :=
  match node with
  | .list _ found => .ok found
  | .scalar ⟨_, _, _, true⟩ => .ok []
  | _ => node.unexpected "a sequence"

/-- The fields of a tree, where named values are wanted. -/
def fields (node : Node) : Except Mismatch Fields :=
  match node with
  | .mapping _ entries =>
    match entryValues? entries with
    | some found => .ok (Table.ofList found)
    | none => .error .unreadable
  | .scalar ⟨_, _, _, true⟩ => .ok []
  | _ => node.unexpected "a map"

/-- Reads the entries of a structure one after another, in the order of the document. An entry of
another name is passed over; a second entry of one name is refused. -/
def readEntries {α : Type} (names : List String) (read : α → String → Node → Except Mismatch α)
    (seen : List String) (start : α) : List (Node × Node) → Except Mismatch (α × List String)
  | [] => .ok (start, seen)
  | (key, node) :: rest => do
    let name ← key.text
    if names.contains name then
      if seen.contains name then .error (.repeated name)
      else readEntries names read (name :: seen) (← read start name node) rest
    else readEntries names read seen start rest

/-- Reads the items of a structure that is given by position. -/
def readItems {α : Type} (read : α → String → Node → Except Mismatch α) (total : Nat)
    (seen : List String) (start : α) : List String → List Node → Except Mismatch (α × List String)
  | _, [] => .ok (start, seen)
  | [], _ :: _ => .error (.tooLong total)
  | name :: names, node :: rest => do
    readItems read total (name :: seen) (← read start name node) names rest

/-- Reads a structure of named fields, from a mapping or, where the document allows it, from a list.
The answer tells which fields were given. -/
def structured {α : Type} (kind : String) (names : List String)
    (read : α → String → Node → Except Mismatch α) (start : α) (node : Node) :
    Except Mismatch (α × List String) :=
  match node with
  | .mapping _ entries => readEntries names read [] start entries
  | .scalar ⟨_, _, _, true⟩ => .ok (start, [])
  | .list ⟨_, true⟩ found => readItems read found.length [] start names found
  | _ => node.unexpected ("struct " ++ kind)

end Node

/-- Which parts of a document somebody asks for. -/
inductive Wanted where
  | everything
  | items (each : Wanted)
  | fields (named : List (String × Wanted))

namespace Wanted

/-- What is asked for of the items of a list. -/
def item : Wanted → Wanted
  | items each => each
  | _ => everything

/-- What is asked for of an entry of a mapping; none if nobody asks for it. -/
def entry? (wanted : Wanted) (key : Node) : Option Wanted :=
  match wanted, key with
  | fields named, .scalar ⟨some name, _, _, _⟩ => named.lookup name
  | _, _ => some everything

end Wanted

end Stepwise
