import Mathlib.Algebra.Order.Floor.Div
import Stepwise.Proofs.Store.Conservation

/-!
# The batches of a flush

A flush takes batches off the front of a buffer, one after another, as long as it wants one more: while a full
one is there, or, if everything is asked for, while anything is there. `Drains` is the course of such a flush.
From a size of at least one on, every course comes to an end, and to one end only, which is what the buffer
hands out. How many batches these are is a division: rounded down, with the rest left in the buffer, or, if
everything is asked for, rounded up, with nothing left.
-/

set_option autoImplicit false

namespace Stepwise

/-- Whether a flush goes on with one more batch. -/
def WantsBatch (size : Nat) (everything : Bool) (items : List Value) : Prop :=
  size ≤ items.length ∨ everything = true ∧ items ≠ []

/-- The course of a flush, with the batches that it takes and what it leaves. -/
inductive Drains (size : Nat) (everything : Bool) : List Value → List (List Value) → List Value → Prop
  | enough {items : List Value} (sated : ¬ WantsBatch size everything items) :
      Drains size everything items [] items
  | batch {items rest : List Value} {batches : List (List Value)} (wanted : WantsBatch size everything items)
      (later : Drains size everything (items.drop size) batches rest) :
      Drains size everything items (items.take size :: batches) rest

variable {size : Nat} {everything : Bool} {items rest : List Value} {batches : List (List Value)}

/-- Only items that are there are wanted as a batch. -/
theorem WantsBatch.nonempty (positive : 1 ≤ size) (wanted : WantsBatch size everything items) : items ≠ [] := by
  rcases wanted with full | ⟨-, nonempty⟩
  · apply List.ne_nil_of_length_pos
    omega
  · exact nonempty

/-! ## Every flush ends -/

/-- When no batch is wanted, none is taken. -/
theorem takeBatches_of_sated (sated : ¬ WantsBatch size everything items) :
    takeBatches size everything items = ([], items) := by
  rw [takeBatches, dif_neg]
  rintro ⟨-, nonempty, full | asked⟩
  · exact sated (.inl full)
  · exact sated (.inr ⟨asked, nonempty⟩)

/-- When one is wanted, the first items are taken and then the others are asked. -/
theorem takeBatches_of_wanted (positive : 1 ≤ size) (wanted : WantsBatch size everything items) :
    takeBatches size everything items =
      (items.take size :: (takeBatches size everything (items.drop size)).1,
        (takeBatches size everything (items.drop size)).2) := by
  have goesOn : 0 < size ∧ items ≠ [] ∧ (size ≤ items.length ∨ everything = true) :=
    ⟨positive, wanted.nonempty positive, wanted.imp_right And.left⟩
  rw [takeBatches, dif_pos goesOn]

/-- A flush comes to an end, whatever the buffer holds, and what it takes and leaves is decided. -/
theorem drains_iff (positive : 1 ≤ size) : Drains size everything items batches rest ↔
    takeBatches size everything items = (batches, rest) := by
  constructor
  · intro course
    induction course with
    | enough sated => exact takeBatches_of_sated sated
    | batch wanted later ih => rw [takeBatches_of_wanted positive wanted, ih]
  · intro cut
    -- the buffer gets shorter with every batch
    induction length : items.length using Nat.strongRecOn generalizing items batches with
    | ind n ih =>
      by_cases wanted : WantsBatch size everything items
      · rw [takeBatches_of_wanted positive wanted] at cut
        cases cut
        have here := List.length_pos_of_ne_nil (wanted.nonempty positive)
        apply Drains.batch wanted
        exact ih _ (by rw [List.length_drop]; omega) rfl rfl
      · rw [takeBatches_of_sated wanted] at cut
        cases cut
        exact .enough wanted

namespace Drains

/-! ## The size of the batches -/

/-- No item is lost: the batches and the rest are the items, in order. -/
theorem flatten_append (course : Drains size everything items batches rest) : batches.flatten ++ rest = items := by
  induction course with
  | enough => rfl
  | batch _ _ ih => rw [List.flatten_cons, List.append_assoc, ih, List.take_append_drop]

/-- No batch is empty or beyond the size. -/
theorem nonempty_and_length_le (positive : 1 ≤ size) (course : Drains size everything items batches rest) :
    ∀ batch ∈ batches, batch ≠ [] ∧ batch.length ≤ size := by
  induction course with
  | enough => simp
  | batch wanted _ ih =>
    rw [List.forall_mem_cons]
    refine ⟨⟨?_, List.length_take_le _ _⟩, ih⟩
    have here := List.length_pos_of_ne_nil (wanted.nonempty positive)
    apply List.ne_nil_of_length_pos
    rw [List.length_take]
    omega

/-- Only the last batch may be short. -/
theorem length_of_mem_dropLast (positive : 1 ≤ size) (course : Drains size everything items batches rest) :
    ∀ batch ∈ batches.dropLast, batch.length = size := by
  induction course with
  | enough => simp
  | batch wanted later ih =>
    cases later with
    | enough => simp
    | batch wantedNext _ =>
      rw [List.dropLast_cons_of_ne_nil (List.cons_ne_nil _ _)]
      rw [List.forall_mem_cons]
      refine ⟨?_, ih⟩
      -- something is left behind the first batch, so it is full
      have behind := List.length_pos_of_ne_nil (wantedNext.nonempty positive)
      rw [List.length_drop] at behind
      rw [List.length_take]
      omega

/-- Nothing more is wanted of the rest. -/
theorem sated (course : Drains size everything items batches rest) : ¬ WantsBatch size everything rest := by
  induction course with
  | enough sated => exact sated
  | batch _ _ ih => exact ih

/-- Without the order to hand out everything each batch has the full size. -/
theorem length_of_mem (course : Drains size false items batches rest) :
    ∀ batch ∈ batches, batch.length = size := by
  induction course with
  | enough => simp
  | batch wanted _ ih =>
    rw [List.forall_mem_cons]
    refine ⟨?_, ih⟩
    have full := by simpa [WantsBatch] using wanted
    exact List.length_take_of_le full

/-! ## The number of batches -/

/-- Full batches alone: as many as go into the buffer, and the remainder stays. -/
theorem length_eq_div (positive : 1 ≤ size) (course : Drains size false items batches rest) :
    batches.length = items.length / size ∧ rest.length = items.length % size := by
  induction course with
  | enough sated =>
    have short := by simpa [WantsBatch] using sated
    rw [Nat.div_eq_of_lt short, Nat.mod_eq_of_lt short]
    exact ⟨rfl, rfl⟩
  | batch wanted _ ih =>
    have full := by simpa [WantsBatch] using wanted
    rw [List.length_drop] at ih
    rw [List.length_cons, ih.1, ih.2, Nat.div_eq_sub_div positive full, Nat.mod_eq_sub_mod full]
    exact ⟨rfl, rfl⟩

/-- Everything: as many batches as it takes, and nothing stays. -/
theorem length_eq_ceilDiv (positive : 1 ≤ size) (course : Drains size true items batches rest) :
    batches.length = items.length ⌈/⌉ size ∧ rest = [] := by
  induction course with
  | enough sated =>
    have nothing := by simpa [WantsBatch] using sated
    simp [nothing.2]
  | @batch items _ _ wanted _ ih =>
    refine ⟨?_, ih.2⟩
    have here := List.length_pos_of_ne_nil (wanted.nonempty positive)
    rw [List.length_cons, ih.1, List.length_drop, Nat.ceilDiv_eq_add_pred_div, Nat.ceilDiv_eq_add_pred_div]
    by_cases full : size ≤ items.length
    · rw [← Nat.add_div_right _ positive]
      congr 1
      omega
    · have last : items.length - size = 0 := by omega
      have more : items.length + size - 1 = items.length - 1 + size := by omega
      rw [last, more, Nat.add_div_right _ positive, Nat.div_eq_of_lt (by omega), Nat.div_eq_of_lt (by omega)]

end Drains

/-! ## What a flush hands out -/

/-- What a flush of a buffer answers, and what becomes of the buffers. -/
structure HandsOut (before : Buffers) (name : String) (buffer : Buffer) (size : Nat) (everything : Bool)
    (done : Flushed) (after : Buffers) : Prop where
  course : Drains size everything buffer.items done.batches (after.waiting name)
  /-- The batches are the records at the front, in order. -/
  front : done.batches.flatten = buffer.items.take done.count
  behind : after.waiting name = buffer.items.drop done.count
  balanced : done.count + done.remaining = buffer.items.length
  /-- No batch is empty or too long, and only the last may be short. -/
  sizes : ∀ batch ∈ done.batches, batch ≠ [] ∧ batch.length ≤ size
  full : ∀ batch ∈ done.batches.dropLast, batch.length = size
  /-- Without `everything`, all batches are full, as many as there can be. -/
  inPart : everything = false → (∀ batch ∈ done.batches, batch.length = size) ∧
    done.batches.length = buffer.items.length / size ∧
    done.remaining = buffer.items.length % size ∧ done.remaining < size
  /-- With `everything`, nothing stays. -/
  inWhole : everything = true → done.batches.length = buffer.items.length ⌈/⌉ size ∧ done.remaining = 0
  counted : done.batchesFlushed = buffer.batchesFlushed + done.batches.length
  stored : Table.get? after name = some { buffer with
    items := buffer.items.drop done.count, batchesFlushed := done.batchesFlushed }
  frame : ∀ other, other ≠ name → Table.get? after other = Table.get? before other

/-- The buffer that is left when batches were taken out of it. -/
def Buffer.less (buffer : Buffer) (batches : List (List Value)) (rest : List Value) : Buffer :=
  { buffer with items := rest, batchesFlushed := buffer.batchesFlushed + batches.length }

namespace Buffers

variable {buffers : Buffers} {name : String} {buffer : Buffer} {batchSize : Option Nat}

/-- What waits in a buffer that was put is the buffer's items. -/
theorem waiting_put (buffers : Buffers) (name : String) (buffer : Buffer) :
    waiting (Table.put buffers name buffer) name = buffer.items := by
  rw [waiting, Table.get?_put_self, Option.map_some, Option.getD_some]

/-- What a flush of a buffer comes to, by its course. -/
theorem drain_of_drains (found : Table.get? buffers name = some buffer)
    (positive : 1 ≤ batchSize.getD buffer.batchSize)
    (course : Drains (batchSize.getD buffer.batchSize) everything buffer.items batches rest) :
    buffers.drain name batchSize everything =
      (.ok (some ⟨batches, batches.flatten.length, rest.length, buffer.batchesFlushed + batches.length⟩),
        Table.put buffers name (buffer.less batches rest)) := by
  have cut := (drains_iff positive).mp course
  have sized : batchSize.getD buffer.batchSize ≠ 0 := Nat.pos_iff_ne_zero.mp positive
  simp only [drain, found, sized, if_false, cut, Buffer.less]

/-- A buffer that drains hands its batches out, and the store keeps the rest with the batches
counted. -/
theorem handsOut_of_drains (positive : 1 ≤ size)
    (course : Drains size everything buffer.items batches rest) :
    HandsOut buffers name buffer size everything
      ⟨batches, batches.flatten.length, rest.length, buffer.batchesFlushed + batches.length⟩
      (Table.put buffers name (buffer.less batches rest)) := by
  have left : waiting (Table.put buffers name (buffer.less batches rest)) name = rest := waiting_put ..
  have parts := course.flatten_append
  have behind : rest = buffer.items.drop batches.flatten.length := by rw [← parts, List.drop_left]
  refine
    { course := by rwa [left]
      front := by rw [← parts, List.take_left]
      behind := by rw [left, behind]
      balanced := by rw [← parts, List.length_append]
      sizes := course.nonempty_and_length_le positive
      full := course.length_of_mem_dropLast positive
      inPart := ?_, inWhole := ?_
      counted := rfl
      stored := by rw [Table.get?_put_self, Buffer.less, ← behind]
      frame := fun other distinct => Table.get?_put_of_ne buffers _ distinct }
  · rintro rfl
    obtain ⟨count, remaining⟩ := course.length_eq_div positive
    exact ⟨course.length_of_mem, count, remaining, remaining ▸ Nat.mod_lt _ positive⟩
  · rintro rfl
    obtain ⟨count, nothing⟩ := course.length_eq_ceilDiv positive
    exact ⟨count, by rw [nothing, List.length_nil]⟩

/-- A flush of a buffer, by a size of at least one that is given or stored, hands out batches from its front:
full ones, as many as go into it, or with `everything` all that is there, where the last batch may be short.
The other buffers and the size of this one stay as they are, and flushing again in the same way finds nothing to
take and changes nothing. -/
theorem flush_handsOut (found : Table.get? buffers name = some buffer) (batchSize : Option Nat) (everything : Bool)
    (positive : 1 ≤ batchSize.getD buffer.batchSize) :
    ∃ done after, buffers.drain name batchSize everything = (.ok (some done), after) ∧
      HandsOut buffers name buffer (batchSize.getD buffer.batchSize) everything done after ∧
      after.drain name batchSize everything =
        (.ok (some ⟨[], 0, done.remaining, done.batchesFlushed⟩), after) := by
  rcases cut : takeBatches (batchSize.getD buffer.batchSize) everything buffer.items with ⟨batches, rest⟩
  have course := (drains_iff positive).mpr cut
  refine ⟨_, _, drain_of_drains found positive course, handsOut_of_drains positive course, ?_⟩
  have stored := Table.get?_put_self buffers name (buffer.less batches rest)
  rw [drain_of_drains stored positive (.enough course.sated), Table.put_put]
  rfl

/-- Two buffers, one of which was flushed before. -/
def flushTrial : Buffers :=
  [("leads", ⟨[.count 1, .count 2, .count 3, .count 4, .count 5], 4, 7, by decide⟩),
    ("other", ⟨[.null], 3, 0, by decide⟩)]

/-- Five records by two make three batches, the last of which is short. -/
theorem flush_handsOut_trial :
    (∃ buffer, Table.get? flushTrial "leads" = some buffer ∧ 1 ≤ (some 2).getD buffer.batchSize) ∧
    ∃ done after, flushTrial.drain "leads" (some 2) true = (.ok (some done), after) ∧
      done.batches.length = 3 ∧ done.count = 5 ∧ done.remaining = 0 ∧ done.batchesFlushed = 10 ∧
      Table.get? after "other" = Table.get? flushTrial "other" ∧
      after.drain "leads" (some 2) true = (.ok (some ⟨[], 0, 0, 10⟩), after) := by
  refine ⟨⟨_, rfl, by decide⟩, ?_⟩
  obtain ⟨done, after, flushed, out, again⟩ :=
    flush_handsOut (show Table.get? flushTrial "leads" = some _ from rfl) (some 2) true (by decide)
  obtain ⟨batches, remaining⟩ := out.inWhole rfl
  have three : done.batches.length = 3 := batches
  have ten : done.batchesFlushed = 10 := by rw [out.counted, three]
  have five : done.count = 5 := by simpa [remaining] using out.balanced
  refine ⟨done, after, flushed, three, five, remaining, ten, out.frame "other" (by decide), ?_⟩
  rwa [remaining, ten] at again

end Buffers

end Stepwise
