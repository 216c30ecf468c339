import Stepwise.Json.Token

/-!
# Reading JSON texts

The words of a text are read one by one; the containers that are still open lie on a stack. Containers
that nest deeper than a limit are read, but stand for nothing.
-/

set_option autoImplicit false

namespace Stepwise.Json

/-- A container that is still open, with what it holds so far, last first. -/
inductive Frame where
  | list (items : List Node)
  | record (entries : List (Node × Node)) (key : Option Node)

/-- What may come next. -/
inductive Expect where
  | value
  | valueOrClose
  | key
  | keyOrClose
  | colon
  | separator
  | finish
deriving DecidableEq

/-- The open containers, innermost first, what may come next, and the finished tree. -/
structure State where
  stack : List Frame
  expect : Expect
  result : Option Node

/-- The style of containers in JSON: never tagged, and lists may stand for structures. -/
def style : Style := ⟨false, true⟩

/-- The tree of a scalar word. -/
def scalarNode (value : Option Value) : Node :=
  match value with
  | none => .unreadable
  | some found => .scalar (Scalar.ofValue found)

/-- Hands a finished tree to the innermost open container. -/
def State.supply (state : State) (node : Node) : State :=
  match state.stack with
  | [] => { state with expect := .finish, result := some node }
  | .list items :: rest => { state with stack := .list (node :: items) :: rest, expect := .separator }
  | .record entries (some key) :: rest =>
    { state with stack := .record ((key, node) :: entries) none :: rest, expect := .separator }
  | .record entries none :: rest =>
    { state with stack := .record entries (some node) :: rest, expect := .colon }

/-- Closes the innermost container, which nests `depth` deep. -/
def State.close (limit : Nat) (state : State) (rest : List Frame) (node : Node) : State :=
  State.supply { state with stack := rest } (if limit ≤ rest.length then .unreadable else node)

/-- A value or a key may start here. -/
def Expect.isValue : Expect → Bool
  | .value => true
  | .valueOrClose => true
  | _ => false

/-- Reads one word. -/
def State.step (limit : Nat) (state : State) (token : Token) : Option State :=
  match token, state.expect, state.stack with
  | .scalar value, expect, _ =>
    if expect.isValue then some (state.supply (scalarNode value))
    else if expect = .key ∨ expect = .keyOrClose then
      match value with
      | some (.text _) => some (state.supply (scalarNode value))
      | none => some (state.supply .unreadable)
      | _ => none
    else none
  | .openList, expect, stack =>
    if expect.isValue then some { state with stack := .list [] :: stack, expect := .valueOrClose }
    else none
  | .openRecord, expect, stack =>
    if expect.isValue then some { state with stack := .record [] none :: stack, expect := .keyOrClose }
    else none
  | .closeList, expect, .list items :: rest =>
    if expect = .separator ∨ expect = .valueOrClose then
      some (state.close limit rest (.list style items.reverse))
    else none
  | .closeRecord, expect, .record entries none :: rest =>
    if expect = .separator ∨ expect = .keyOrClose then
      some (state.close limit rest (.mapping style entries.reverse))
    else none
  | .comma, .separator, .list _ :: _ => some { state with expect := .value }
  | .comma, .separator, .record _ _ :: _ => some { state with expect := .key }
  | .colon, .colon, _ => some { state with expect := .value }
  | _, _, _ => none

/-- The greatest depth to which a document may nest. -/
def depthLimit : Nat := 127

/-- The tree of a JSON text; none if the text is not JSON. -/
def read? (limit : Nat) (text : String) : Option Node := do
  let tokens ← tokens? text.toList
  let state ← tokens.foldlM (State.step limit) ⟨[], .value, none⟩
  state.result

end Stepwise.Json
