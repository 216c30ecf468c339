import Stepwise.Value.Basic

/-!
# Buffers

A buffer collects records under a name and hands them out in batches, oldest first. Its batch size is
chosen by the append that creates it. A flush takes out full batches, and with `everything` also what
is left over.
-/

set_option autoImplicit false

namespace Stepwise

/-- Records that wait for a batch. -/
structure Buffer where
  items : List Value
  batchSize : Nat
  batchesFlushed : Nat
  size_pos : 0 < batchSize

/-- Buffers by name. -/
abbrev Buffers : Type := Table Buffer

/-- A batch size of zero was asked of the named buffer. -/
structure InvalidBatchSize where
  buffer : String
deriving DecidableEq, Repr

/-- The wording of the error. -/
def InvalidBatchSize.message (e : InvalidBatchSize) : String :=
  "Buffer '" ++ e.buffer ++ "': batch size must be at least 1"

/-- What an append did. -/
structure Appended where
  buffered : Nat
  total : Nat
  batchSize : Nat

/-- What a flush took out and what it left. -/
structure Flushed where
  batches : List (List Value)
  count : Nat
  remaining : Nat
  batchesFlushed : Nat

/-- Cuts batches of the given size off the front, as long as a full one is there, or, with
`everything`, as long as anything is there. -/
def takeBatches (size : Nat) (everything : Bool) (items : List Value) :
    List (List Value) × List Value :=
  if _h : 0 < size ∧ items ≠ [] ∧ (size ≤ items.length ∨ everything = true) then
    let (batches, rest) := takeBatches size everything (items.drop size)
    (items.take size :: batches, rest)
  else ([], items)
termination_by items.length
decreasing_by
  have : 0 < items.length := List.length_pos_iff.mpr _h.2.1
  simp only [List.length_drop]
  omega

namespace Buffers

/-- The batch size of a buffer that is created without one. -/
def defaultBatchSize : Nat := 25

/-- The records that a value brings: the items of a list, or itself. -/
def recordsOf : Value → List Value
  | .list items => items
  | value => [value]

/-- The number of records that wait in all buffers. -/
def totalItems (buffers : Buffers) : Nat :=
  buffers.foldr (fun entry total => entry.2.items.length + total) 0

/-- Puts records at the end of a buffer, which is created if it does not exist. The batch size is
looked at only then. The buffers come back with an error, too. -/
def add (buffers : Buffers) (name : String) (data : Value) (batchSize : Nat) :
    Except InvalidBatchSize Appended × Buffers :=
  let records := recordsOf data
  let extend (buffer : Buffer) :=
    let items := buffer.items ++ records
    (.ok ⟨records.length, items.length, buffer.batchSize⟩, Table.put buffers name { buffer with items })
  match Table.get? buffers name with
  | some buffer => extend buffer
  | none =>
    if size_pos : 0 < batchSize then extend ⟨[], batchSize, 0, size_pos⟩
    else (.error ⟨name⟩, buffers)

/-- Takes batches out of a buffer; none if there is no such buffer. A size given here counts for this
flush only. The buffers come back with an error, too. -/
def drain (buffers : Buffers) (name : String) (batchSize : Option Nat) (everything : Bool) :
    Except InvalidBatchSize (Option Flushed) × Buffers :=
  match Table.get? buffers name with
  | none => (.ok none, buffers)
  | some buffer =>
    let size := batchSize.getD buffer.batchSize
    if size = 0 then (.error ⟨name⟩, buffers)
    else
      let (batches, rest) := takeBatches size everything buffer.items
      let flushed := buffer.batchesFlushed + batches.length
      (.ok (some ⟨batches, batches.flatten.length, rest.length, flushed⟩),
        Table.put buffers name { buffer with items := rest, batchesFlushed := flushed })

/-- An append that is refused has left the buffers as they were. -/
theorem add_error {buffers after : Buffers} {name : String} {data : Value} {batchSize : Nat}
    {cause : InvalidBatchSize} (refused : buffers.add name data batchSize = (.error cause, after)) :
    after = buffers := by
  unfold add at refused
  split at refused
  · cases (Prod.mk.inj refused).1
  · -- a buffer is created only with a size of at least one, and then the append is not refused
    split at refused
    · cases (Prod.mk.inj refused).1
    · exact (Prod.mk.inj refused).2.symm

/-- A flush that is refused has left the buffers as they were. -/
theorem drain_error {buffers after : Buffers} {name : String} {batchSize : Option Nat} {everything : Bool}
    {cause : InvalidBatchSize} (refused : buffers.drain name batchSize everything = (.error cause, after)) :
    after = buffers := by
  unfold drain at refused
  split at refused
  · cases (Prod.mk.inj refused).1
  · dsimp only at refused
    split at refused
    · exact (Prod.mk.inj refused).2.symm
    · cases (Prod.mk.inj refused).1

end Buffers

end Stepwise
