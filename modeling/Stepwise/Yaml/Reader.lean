import Stepwise.Yaml.Schema

/-!
# Reading YAML texts

The events of a document make a tree. An alias stands for the tree of its anchor. How deep a tree may
nest is limited, and so is how often aliases are followed; what goes beyond stands for nothing. Parts that
nobody asks for are passed over, and count for neither.
-/

set_option autoImplicit false

namespace Stepwise.Yaml

/-- The style of a container in YAML: it may be tagged, and a list never stands for a structure. -/
def containerStyle (properties : Properties) : Style := ⟨isOwnTag properties.tag, false⟩

/-- A tree, the events behind it, and how often aliases may still be followed. -/
abbrev Reading (α : Type) : Type := α × List (Event Nat) × Nat

/-- The events behind a container, of which some are still open. -/
def skipOpen : Nat → List (Event Nat) → List (Event Nat)
  | _, [] => []
  | depth, event :: rest =>
    match event with
    | .listStart _ => skipOpen (depth + 1) rest
    | .mappingStart _ => skipOpen (depth + 1) rest
    | .listEnd => if depth = 0 then rest else skipOpen (depth - 1) rest
    | .mappingEnd => if depth = 0 then rest else skipOpen (depth - 1) rest
    | _ => skipOpen depth rest

/-- The events behind a tree. -/
def skipTree : List (Event Nat) → List (Event Nat)
  | [] => []
  | .listStart _ :: rest => skipOpen 0 rest
  | .mappingStart _ :: rest => skipOpen 0 rest
  | _ :: rest => rest

/-- Reads trees up to the end of a list. -/
def readItems (read : List (Event Nat) → Nat → Reading Node) :
    Nat → List (Event Nat) → Nat → Reading (List Node)
  | _, [], jumps => ([], [], jumps)
  | _, .listEnd :: rest, jumps => ([], rest, jumps)
  | 0, events, jumps => ([], events, jumps)
  | bound + 1, events, jumps =>
    let (node, events, jumps) := read events jumps
    let (nodes, events, jumps) := readItems read bound events jumps
    (node :: nodes, events, jumps)

/-- Reads keys and values up to the end of a mapping. A value that nobody asks for is passed over. -/
def readEntries (read : Wanted → List (Event Nat) → Nat → Reading Node) (wanted : Wanted) :
    Nat → List (Event Nat) → Nat → Reading (List (Node × Node))
  | _, [], jumps => ([], [], jumps)
  | _, .mappingEnd :: rest, jumps => ([], rest, jumps)
  | 0, events, jumps => ([], events, jumps)
  | bound + 1, events, jumps =>
    let (key, events, jumps) := read .everything events jumps
    let (value, events, jumps) : Reading Node :=
      match wanted.entry? key with
      | some wanted => read wanted events jumps
      | none => (.unreadable, skipTree events, jumps)
    let (entries, events, jumps) := readEntries read wanted bound events jumps
    ((key, value) :: entries, events, jumps)

/-- The events that an event stands for, and those behind it, if it may be followed. -/
def follow (targets : Event.Targets) (events : List (Event Nat)) (jumps : Nat) :
    List (Event Nat) × Option (List (Event Nat)) × Nat :=
  match events with
  | .alias target :: rest =>
    if jumps = 0 then ([], some rest, 0) else ((targets.lookup target).getD [], some rest, jumps - 1)
  | _ => (events, none, jumps)

/-- Reads a tree that may nest as deep as is given, as far as it is asked for. -/
def readNode (targets : Event.Targets) : Nat → Wanted → List (Event Nat) → Nat → Reading Node
  | depth, wanted, events, jumps =>
    let (content, behind, jumps) := follow targets events jumps
    let (node, rest, jumps) : Reading Node :=
      match content, depth with
      | .scalar properties text plain :: rest, _ =>
        (.scalar (scalarReadings properties.tag text plain), rest, jumps)
      | .listStart properties :: rest, depth + 1 =>
        let (items, rest, jumps) := readItems (readNode targets depth wanted.item) rest.length rest jumps
        (.list (containerStyle properties) items, rest, jumps)
      | .mappingStart properties :: rest, depth + 1 =>
        let (entries, rest, jumps) := readEntries (readNode targets depth) wanted rest.length rest jumps
        (.mapping (containerStyle properties) entries, rest, jumps)
      | _, _ => (.unreadable, skipTree content, jumps)
    (node, behind.getD rest, jumps)

/-- The greatest depth to which a document may nest. -/
def depthLimit : Nat := 128

/-- How often aliases may be followed for each event of a document. -/
def jumpsPerEvent : Nat := 100

/-- A document without content. -/
def emptyDocument : Node := .scalar ⟨none, some .null, .absent, true⟩

/-- The tree of a YAML text, as far as it is asked for; none if the text is not YAML, or is more than one
document. -/
def read? (wanted : Wanted) (text : String) : Option Node := do
  let words ← tokens? text.toList
  let events ← Event.ofTokens? words
  let (events, targets) ← Event.link Table.empty events
  if events.isEmpty then return emptyDocument
  else return (readNode targets depthLimit wanted events (jumpsPerEvent * events.length)).1

end Stepwise.Yaml
