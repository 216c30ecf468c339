import Stepwise.Progress.Checkpoints
import Stepwise.Proofs.Document.Entries

/-!
# The progress file holds the last snapshot

A snapshot whose figures have 64 bits is read back from its text. Whatever becomes of the draft and of the
replacement, the progress file therefore holds the snapshot that was written last, or else what it held
before the first.
-/

set_option autoImplicit false

namespace Stepwise

/-! ## Snapshots are read back -/

/-- A count that fits into 64 bits is free of binary64 numbers. -/
theorem isExact_count {n : Nat} (fits : n ≤ Text.maxCount) : (Value.count n).isExact = true := by
  have least : Number.leastWhole ≤ (n : Int) :=
    Int.le_trans (show Number.leastWhole ≤ 0 by decide) (Int.natCast_nonneg n)
  have greatest : (n : Int) ≤ Number.greatestWhole := by
    have greatestEq : Number.greatestWhole = (Nat.pow 2 64 : Int) - 1 := rfl
    have countEq : Text.maxCount = Nat.pow 2 64 - 1 := rfl
    have positive : 0 < Nat.pow 2 64 := by decide
    omega
  simp [Value.count, Value.isExact, least, greatest]

/-- A count is read back as it was written. -/
theorem count_ofValue (n : Nat) : (Node.ofValue (.count n)).count = .ok n := by
  have positive : (0 : Int) ≤ n := Int.natCast_nonneg n
  simp only [Node.count, Value.count, Node.ofValue, Node.ofScalar, Node.value?, Scalar.ofValue, if_pos positive,
    Int.toNat_natCast]

/-- Nothing that is demanded is missing from what was given. -/
theorem demand_of_perm {α : Type} {wanted names given : List String} (perm : given.Perm names)
    (demanded : ∀ name ∈ wanted, name ∈ names) (read : α) : Node.demand wanted (read, given) = .ok read := by
  have nothing : (wanted.find? fun name => !given.contains name) = none := by
    rw [List.find?_eq_none]
    intro name member
    simpa using perm.mem_iff.mpr (demanded name member)
  simp only [Node.demand, nothing]

namespace MemoryStats

/-- Figures that have 64 bits. -/
structure Fits (stats : MemoryStats) : Prop where
  resident : stats.resident ≤ Text.maxCount
  virtual : stats.virtual ≤ Text.maxCount
  bufferedItems : stats.bufferedItems ≤ Text.maxCount
  collectionItems : stats.collectionItems ≤ Text.maxCount

/-- Takes one figure over from others. -/
def copyField (source stats : MemoryStats) (name : String) : MemoryStats :=
  match name with
  | "rss_mb" => { stats with resident := source.resident }
  | "virtual_mb" => { stats with virtual := source.virtual }
  | "buffered_items" => { stats with bufferedItems := source.bufferedItems }
  | "collection_items" => { stats with collectionItems := source.collectionItems }
  | _ => stats

/-- The order in which two fields are taken over does not matter. -/
theorem copyField_comm (source stats : MemoryStats) (a b : String) :
    source.copyField (source.copyField stats a) b = source.copyField (source.copyField stats b) a := by
  unfold copyField
  split <;> split <;> rfl

/-- Reading an entry of the memory figures takes that field over from them. -/
theorem readField_entries (source : MemoryStats) : ∀ entry ∈ source.entries, ∀ stats,
    readField stats entry.1 (Node.ofValue entry.2) = .ok (source.copyField stats entry.1) := by
  intro entry member stats
  simp only [entries, List.mem_cons, List.not_mem_nil, or_false] at member
  rcases member with rfl | rfl | rfl | rfl <;>
    · simp only [readField, count_ofValue]
      rfl

/-- The memory figures are read back from their entries. -/
theorem ofNode_entries (stats : MemoryStats) : ofNode (Node.ofValue (.record stats.entries)) = .ok stats := by
  obtain ⟨given, perm, read⟩ := Node.structured_ofValue "MemoryStats" fieldNames
    (Value.lists_record stats.entries) rfl (by decide) (copyField_comm stats) (readField_entries stats) zero
  rw [ofNode, read]
  exact demand_of_perm perm (fun _ member => member) _

/-- Figures that fit are written without binary64 numbers, on a single level. -/
theorem isReadable_entries {stats : MemoryStats} (fits : stats.Fits) :
    (Value.record stats.entries).isExact = true ∧ (Value.record stats.entries).depth = 1 := by
  refine ⟨?_, rfl⟩
  simp [entries, Value.isExact, Value.areExactFields, isExact_count fits.resident, isExact_count fits.virtual,
    isExact_count fits.bufferedItems, isExact_count fits.collectionItems]

end MemoryStats

namespace Snapshot

/-- A snapshot that its text holds without loss: its figures have 64 bits, and what its writer added is
plain. -/
structure Fits (snapshot : Snapshot) : Prop where
  stepsProcessed : snapshot.stepsProcessed ≤ Text.maxCount
  recordsProcessed : snapshot.recordsProcessed ≤ Text.maxCount
  elapsedMs : snapshot.elapsedMs ≤ Text.maxCount
  memory : snapshot.memory.Fits
  details : snapshot.details.isPlain = true
  detailsDepth : snapshot.details.depth + 1 ≤ Json.depthLimit

/-- Takes one field over from another snapshot. -/
def copyField (source snapshot : Snapshot) (name : String) : Snapshot :=
  match name with
  | "timestamp" => { snapshot with timestamp := source.timestamp }
  | "steps_processed" => { snapshot with stepsProcessed := source.stepsProcessed }
  | "records_processed" => { snapshot with recordsProcessed := source.recordsProcessed }
  | "elapsed_ms" => { snapshot with elapsedMs := source.elapsedMs }
  | "memory_stats" => { snapshot with memory := source.memory }
  | "custom_data" => { snapshot with details := source.details }
  | _ => snapshot

/-- The order in which two fields are taken over does not matter. -/
theorem copyField_comm (source snapshot : Snapshot) (a b : String) :
    source.copyField (source.copyField snapshot a) b = source.copyField (source.copyField snapshot b) a := by
  unfold copyField
  split <;> split <;> rfl

/-- Reading an entry of a snapshot takes that field over from the snapshot. -/
theorem readField_entries {source : Snapshot} (fits : source.Fits) :
    ∀ entry ∈ source.entries (.record source.memory.entries), ∀ snapshot,
      readField snapshot entry.1 (Node.ofValue entry.2) = .ok (source.copyField snapshot entry.1) := by
  have details := Node.value?_ofValue _ (Bool.and_eq_true_iff.mp fits.details).2
  intro entry member snapshot
  simp only [entries, List.mem_cons, List.not_mem_nil, or_false] at member
  rcases member with rfl | rfl | rfl | rfl | rfl | rfl
  · rfl
  · simp only [readField, count_ofValue]
    rfl
  · simp only [readField, count_ofValue]
    rfl
  · simp only [readField, count_ofValue]
    rfl
  · simp only [readField, MemoryStats.ofNode_entries]
    rfl
  · simp only [readField, Node.any, details]
    rfl

/-- A snapshot that fits is read back from its document. -/
theorem ofNode_document {snapshot : Snapshot} (fits : snapshot.Fits) :
    ofNode (Node.ofValue snapshot.document) = .ok snapshot := by
  obtain ⟨given, perm, read⟩ := Node.structured_ofValue "ProgressSnapshot" fieldNames
    (Value.lists_record _) rfl (by decide) (copyField_comm snapshot) (readField_entries fits) blank
  rw [ofNode, document, read]
  exact demand_of_perm perm (by decide) _

/-- The document of a snapshot that fits is free of binary64 numbers and within the limit of
nesting. -/
theorem isReadable_document {snapshot : Snapshot} (fits : snapshot.Fits) :
    snapshot.document.isExact = true ∧ snapshot.document.depth ≤ Json.depthLimit := by
  obtain ⟨exact, depth⟩ := MemoryStats.isReadable_entries fits.memory
  have deepest : snapshot.details.depth ≤ 126 := Nat.le_of_succ_le_succ fits.detailsDepth
  have entry : ∀ entry ∈ snapshot.entries (.record snapshot.memory.entries),
      entry.2.isExact = true ∧ entry.2.depth ≤ 126 := by
    intro entry member
    simp only [entries, List.mem_cons, List.not_mem_nil, or_false] at member
    rcases member with rfl | rfl | rfl | rfl | rfl | rfl
    · exact ⟨rfl, Nat.zero_le _⟩
    · exact ⟨isExact_count fits.stepsProcessed, Nat.zero_le _⟩
    · exact ⟨isExact_count fits.recordsProcessed, Nat.zero_le _⟩
    · exact ⟨isExact_count fits.elapsedMs, Nat.zero_le _⟩
    · exact ⟨exact, Nat.le_trans (Nat.le_of_eq depth) (by decide)⟩
    · exact ⟨(Bool.and_eq_true_iff.mp fits.details).1, deepest⟩
  have lists : snapshot.document.Lists _ := Value.lists_record _
  exact ⟨lists.isExact fun here member => (entry here member).1,
    lists.depth_le fun here member => (entry here member).2⟩

/-- A snapshot that fits is read back from its text. -/
theorem ofText?_text {snapshot : Snapshot} (fits : snapshot.Fits) : ofText? snapshot.text = some snapshot := by
  obtain ⟨exact, shallow⟩ := isReadable_document fits
  simp only [ofText?, text, Json.Layout.wide_eq, Json.read?_write _ exact shallow, Option.bind_some,
    ofNode_document fits, Except.toOption]

end Snapshot

/-! ## Occasions -/

namespace Occasion

/-- Figures that have 64 bits. -/
structure Fits (occasion : Occasion) : Prop where
  step : occasion.step ≤ Text.maxCount
  total : occasion.total ≤ Text.maxCount
  recordsProcessed : occasion.recordsProcessed ≤ Text.maxCount
  elapsedMs : occasion.elapsedMs ≤ Text.maxCount
  memory : occasion.memory.Fits

/-- A snapshot is due, and both its draft and its replacement succeed. -/
def isWritten (every : Nat) (occasion : Occasion) : Bool :=
  Checkpoints.isDue every occasion.step && occasion.saving.drafted && occasion.saving.replaced

/-- What fits on an occasion fits in the snapshot taken on it. -/
theorem Fits.snapshot {occasion : Occasion} (fits : occasion.Fits) : occasion.snapshot.Fits := by
  let entries : List (String × Value) :=
    [("current_step", .text occasion.name), ("step_index", .count occasion.step),
      ("total_steps", .count occasion.total)]
  have sorted : Table.Sorted entries :=
    show ["current_step", "step_index", "total_steps"].Pairwise (· < ·) by decide
  have details : occasion.snapshot.details = .record entries :=
    congrArg Value.record (Table.ofList_eq_self sorted)
  refine ⟨fits.step, fits.recordsProcessed, fits.elapsedMs, fits.memory, ?_, ?_⟩
  · rw [details, Value.isPlain, Bool.and_eq_true_iff]
    refine ⟨?_, Bool.and_eq_true_iff.mpr ⟨decide_eq_true sorted, rfl⟩⟩
    simp only [entries, Value.isExact, Value.areExactFields, isExact_count fits.step, isExact_count fits.total,
      Bool.and_true]
  · rw [details]
    show 2 ≤ Json.depthLimit
    decide

end Occasion

namespace Checkpoints

/-- What an occasion does: its text takes the place of the file and is counted, or the file stays. -/
theorem offer_spec (checkpoints : Checkpoints) (occasion : Occasion) :
    let written := occasion.isWritten checkpoints.every
    let after := (checkpoints.offer occasion).2
    (checkpoints.offer occasion).1 = written ∧ after.every = checkpoints.every ∧
      after.writes = checkpoints.writes + written.toNat ∧
      after.files.current = if written then some occasion.snapshot.text else checkpoints.files.current := by
  unfold offer record ProgressFiles.save Occasion.isWritten
  by_cases due : isDue checkpoints.every occasion.step
  · rcases occasion.saving with ⟨_ | _, _ | _⟩ <;> simp [due]
  · simp [due]

/-- What occasions do one after another: the text of the last that is written stays in the file. -/
theorem offerAll_spec (checkpoints : Checkpoints) (occasions : List Occasion) :
    let written := occasions.filter (Occasion.isWritten checkpoints.every)
    let after := (checkpoints.offerAll occasions).2
    (checkpoints.offerAll occasions).1 = occasions.map (Occasion.isWritten checkpoints.every) ∧
      after.writes = checkpoints.writes + written.length ∧
      after.files.current =
        (written.getLast?.map fun last => last.snapshot.text).or checkpoints.files.current := by
  -- by induction on the occasions: the first is done, and the rest start from the files that it leaves
  induction occasions generalizing checkpoints with
  | nil => simp [offerAll]
  | cons occasion rest ih =>
    obtain ⟨answer, every, writes, current⟩ := checkpoints.offer_spec occasion
    obtain ⟨answers, writesAfter, currentAfter⟩ := ih (checkpoints.offer occasion).2
    rw [every] at answers writesAfter currentAfter
    rw [writes] at writesAfter
    rw [current] at currentAfter
    cases written : occasion.isWritten checkpoints.every with
    | false => simp_all [offerAll]
    | true =>
      rw [written] at answer writesAfter currentAfter
      simp only [offerAll, answer, answers, writesAfter, currentAfter, List.map_cons, written, List.filter_cons,
        if_true, List.length_cons, Bool.toNat_true, List.getLast?_cons]
      refine ⟨trivial, by omega, ?_⟩
      cases (rest.filter (Occasion.isWritten checkpoints.every)).getLast? <;> rfl

end Checkpoints

/-- Whatever occasions come and however their writings go, what is read from the progress file afterwards is
the snapshot of the last occasion that was answered with success, or else what was read from it before. The
answer is success exactly where a snapshot is due and both writings succeed, and the successes are
counted. -/
theorem snapshot?_offerAll (every : Nat) (files : ProgressFiles) (occasions : List Occasion)
    (fits : ∀ occasion ∈ occasions, occasion.Fits) :
    let answers := ((Checkpoints.start every files).offerAll occasions).1
    let after := ((Checkpoints.start every files).offerAll occasions).2
    let written := occasions.filter (Occasion.isWritten every)
    answers = occasions.map (Occasion.isWritten every) ∧ after.writes = answers.count true ∧
      after.files.snapshot? = (written.getLast?.map Occasion.snapshot).or files.snapshot? := by
  obtain ⟨answers, writes, current⟩ := (Checkpoints.start every files).offerAll_spec occasions
  refine ⟨answers, ?_, ?_⟩
  · rw [writes, answers, List.count, List.countP_map, List.countP_eq_length_filter]
    simp [Checkpoints.start, Function.comp_def]
  · rw [ProgressFiles.snapshot?, current]
    cases last : (occasions.filter (Occasion.isWritten every)).getLast? with
    | none => simp [Checkpoints.start, last, ProgressFiles.snapshot?]
    | some occasion =>
      have member := (List.mem_filter.mp (List.mem_of_getLast? last)).1
      have read := Snapshot.ofText?_text (fits occasion member).snapshot
      simp [Checkpoints.start, last, read]

/-- Three occasions: none due, one written, and one whose draft does not take the place of the file. -/
def Occasion.trials : List Occasion :=
  [⟨"2024-01-01T00:00:00.000Z", 1, 4, "one", 0, 3, .zero, ⟨true, true⟩⟩,
    ⟨"2024-01-01T00:00:01.000Z", 2, 4, "tw\"\n", 18446744073709551615, 5, ⟨12, 40, 1, 2⟩, ⟨true, true⟩⟩,
    ⟨"2024-01-01T00:00:02.000Z", 4, 4, "four", 7, 9, .zero, ⟨true, false⟩⟩]

/-- Of three occasions the second is due and writes, and the file then holds its count of records.
-/
theorem snapshot?_offerAll_trial : (∀ occasion ∈ Occasion.trials, occasion.Fits) ∧
    ((Checkpoints.start 2 ⟨some "", none⟩).offerAll Occasion.trials).1 = [false, true, false] ∧
    (((Checkpoints.start 2 ⟨some "", none⟩).offerAll Occasion.trials).2.files.snapshot?).map
      Snapshot.recordsProcessed = some 18446744073709551615 := by
  have fits : ∀ occasion ∈ Occasion.trials, occasion.Fits := by
    intro occasion member
    simp only [Occasion.trials, List.mem_cons, List.not_mem_nil, or_false] at member
    rcases member with rfl | rfl | rfl <;>
      exact ⟨by decide, by decide, by decide, by decide, by decide, by decide, by decide, by decide⟩
  obtain ⟨answers, _, stored⟩ := snapshot?_offerAll 2 ⟨some "", none⟩ Occasion.trials fits
  refine ⟨fits, answers, ?_⟩
  rw [stored]
  rfl

end Stepwise
