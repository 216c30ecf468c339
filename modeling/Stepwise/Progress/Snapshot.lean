import Stepwise.Document.Mismatch
import Stepwise.Json.Reader

/-!
# Snapshots of progress

What is known of a run after some step, as it is written to a file and read back. Fields that later
versions might add are passed over when a snapshot is read.
-/

set_option autoImplicit false

namespace Stepwise

/-- Memory in use: that of the process in mebibytes, and the records that wait and that are kept. -/
structure MemoryStats where
  resident : Nat
  virtual : Nat
  bufferedItems : Nat
  collectionItems : Nat
deriving DecidableEq, Repr

/-- The progress of a run. -/
structure Snapshot where
  timestamp : String
  stepsProcessed : Nat
  recordsProcessed : Nat
  elapsedMs : Nat
  memory : MemoryStats
  /-- What the writer of the snapshot adds. -/
  details : Value

namespace MemoryStats

/-- No memory in use. -/
def zero : MemoryStats := ⟨0, 0, 0, 0⟩

/-- Memory figures, in the order of the structure. -/
def entries (stats : MemoryStats) : List (String × Value) :=
  [("rss_mb", .count stats.resident), ("virtual_mb", .count stats.virtual),
    ("buffered_items", .count stats.bufferedItems), ("collection_items", .count stats.collectionItems)]

/-- Memory figures as a value. -/
def toValue (stats : MemoryStats) : Value := .object stats.entries

/-- The names of the fields, in order. -/
def fieldNames : List String := ["rss_mb", "virtual_mb", "buffered_items", "collection_items"]

end MemoryStats

/-- A count of 64 bits, where one is wanted. -/
def Node.count (node : Node) : Except Mismatch Nat :=
  match node.value? with
  | some (.number (.whole n)) => if 0 ≤ n then .ok n.toNat else node.unexpected "a count"
  | _ => node.unexpected "a count"

/-- Demands that some fields were given. -/
def Node.demand {α : Type} (wanted : List String) (read : α × List String) : Except Mismatch α :=
  match wanted.find? fun name => !read.2.contains name with
  | some name => .error (.missing name)
  | none => .ok read.1

namespace MemoryStats

/-- Reads a memory figure. -/
def readField (stats : MemoryStats) (name : String) (node : Node) : Except Mismatch MemoryStats :=
  match name with
  | "rss_mb" => node.count.map fun n => { stats with resident := n }
  | "virtual_mb" => node.count.map fun n => { stats with virtual := n }
  | "buffered_items" => node.count.map fun n => { stats with bufferedItems := n }
  | "collection_items" => node.count.map fun n => { stats with collectionItems := n }
  | _ => .ok stats

/-- Reads memory figures, all of which have to be given. -/
def ofNode (node : Node) : Except Mismatch MemoryStats := do
  Node.demand fieldNames (← node.structured "MemoryStats" fieldNames readField zero)

end MemoryStats

namespace Snapshot

/-- The names of the fields, in order. -/
def fieldNames : List String :=
  ["timestamp", "steps_processed", "records_processed", "elapsed_ms", "memory_stats", "custom_data"]

/-- The names of the fields that have to be given. -/
def demanded : List String := ["timestamp", "steps_processed", "elapsed_ms", "memory_stats"]

/-- The snapshot that says nothing. -/
def blank : Snapshot := ⟨"", 0, 0, 0, MemoryStats.zero, .null⟩

/-- Reads a field of a snapshot. -/
def readField (snapshot : Snapshot) (name : String) (node : Node) : Except Mismatch Snapshot :=
  match name with
  | "timestamp" => node.text.map fun timestamp => { snapshot with timestamp }
  | "steps_processed" => node.count.map fun n => { snapshot with stepsProcessed := n }
  | "records_processed" => node.count.map fun n => { snapshot with recordsProcessed := n }
  | "elapsed_ms" => node.count.map fun n => { snapshot with elapsedMs := n }
  | "memory_stats" => (MemoryStats.ofNode node).map fun memory => { snapshot with memory }
  | "custom_data" => node.any.map fun details => { snapshot with details }
  | _ => .ok snapshot

/-- Reads a snapshot. -/
def ofNode (node : Node) : Except Mismatch Snapshot := do
  Node.demand demanded (← node.structured "ProgressSnapshot" fieldNames readField blank)

/-- The snapshot that a text holds, if it holds one. -/
def ofText? (text : String) : Option Snapshot :=
  (Json.read? Json.depthLimit text).bind fun node => (ofNode node).toOption

/-- The fields of a snapshot in the order of the structure, given the value of the memory figures. -/
def entries (snapshot : Snapshot) (memory : Value) : List (String × Value) :=
  [("timestamp", .text snapshot.timestamp), ("steps_processed", .count snapshot.stepsProcessed),
    ("records_processed", .count snapshot.recordsProcessed), ("elapsed_ms", .count snapshot.elapsedMs),
    ("memory_stats", memory), ("custom_data", snapshot.details)]

/-- A snapshot as a value. -/
def toValue (snapshot : Snapshot) : Value := .object (snapshot.entries snapshot.memory.toValue)

/-- A snapshot as it is written, with the fields in the order of the structure. -/
def document (snapshot : Snapshot) : Value := .record (snapshot.entries (.record snapshot.memory.entries))

/-- The text of a snapshot, one field a line. -/
def text (snapshot : Snapshot) : String := snapshot.document.wide

end Snapshot

end Stepwise
