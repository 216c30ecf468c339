import Stepwise.Action.Shaping
import Stepwise.Store.Deduplication
import Stepwise.Proofs.Selection
import Stepwise.Proofs.Value.Words

/-!
# Records that are kept

Deduplication keeps the records that are the first of their kind. Two records are alike without a key if
they are written alike, and under a key if their fields are, or if both lack the field. No value is written
as the identity of a missing field, so identities are equal exactly for records that are alike.

A deduplicator is told of one record after another, and what it has seen are the identities of the records
so far: `keepNew_eq_picked` says of every start which positions are kept, and `keepNew_eq_filter` that having
seen more only takes records away. The laws of `dedup` follow from these two.
-/

set_option autoImplicit false

namespace Stepwise

/-- Two records of one kind: written alike, or under a key with fields written alike, or both without the
field. -/
def Value.IsAlike (key : Option String) (a b : Value) : Prop :=
  match key with
  | none => a.compact = b.compact
  | some name => (Action.fieldOf? a name).map Value.compact = (Action.fieldOf? b name).map Value.compact

/-- Whether two records are alike can be decided. -/
instance (key : Option String) (a b : Value) : Decidable (a.IsAlike key b) :=
  match key with
  | none => inferInstanceAs (Decidable (_ = _))
  | some _ => inferInstanceAs (Decidable (_ = _))

/-- A record that no record before it is like. -/
def IsFirst (key : Option String) (records : List Value) (i : Nat) : Prop :=
  ∀ record ∈ records[i]?, ∀ earlier ∈ records.take i, ¬ earlier.IsAlike key record

/-- Whether a record is the first of its likes can be decided. -/
instance (key : Option String) (records : List Value) (i : Nat) : Decidable (IsFirst key records i) :=
  inferInstanceAs (Decidable (∀ _ ∈ _, ∀ _ ∈ _, ¬ _))

/-- A record whose mark no record before it has. -/
def IsFirstMarked {δ : Type} (mark : Value → δ) (records : List Value) (i : Nat) : Prop :=
  ∀ record ∈ records[i]?, ∀ earlier ∈ records.take i, mark earlier ≠ mark record

/-- Whether a record is the first with its mark can be decided. -/
instance {δ : Type} [DecidableEq δ] (mark : Value → δ) (records : List Value) (i : Nat) :
    Decidable (IsFirstMarked mark records i) :=
  inferInstanceAs (Decidable (∀ _ ∈ _, ∀ _ ∈ _, _ ≠ _))

/-! ## Identities -/

/-- A value begins with a quote, a bracket, a numeral or one of three words. -/
theorem Value.compact_ne_missing (value : Value) : value.compact ≠ Deduplicator.missing := by
  intro same
  have chars : value.compactChars = Deduplicator.missing.toList := by
    rw [← same, compact, String.toList_ofList]
  cases value with
  | null => cases chars
  | flag b => cases b <;> cases chars
  | number n =>
    have member : 'u' ∈ n.chars := by
      rw [show n.chars = Deduplicator.missing.toList from chars]
      decide
    exact absurd (n.isNumeral_of_mem_chars 'u' member) (by decide)
  | text s => cases chars
  | list items => cases chars
  | record fields => cases chars

namespace Deduplicator

/-- Records have one identity exactly if they are alike. -/
theorem identity_eq_iff {key : Option String} {a b : Value} :
    identity key a = identity key b ↔ a.IsAlike key b := by
  cases key with
  | none => exact Iff.rfl
  | some name =>
    simp only [identity, Value.IsAlike, ← Action.fieldOf?.eq_def]
    cases Action.fieldOf? a name <;> cases Action.fieldOf? b name
    · simp
    · rename_i y
      simpa using y.compact_ne_missing.symm
    · rename_i x
      simpa using x.compact_ne_missing
    · simp

/-! ## Meeting one record after another -/

variable {d : Deduplicator} {record : Value} {rest : List Value}

/-- The deduplicator that has seen the identity of a record too. -/
def noting (d : Deduplicator) (record : Value) : Deduplicator :=
  { d with seen := identity d.key record :: d.seen }

/-- Noting a record leaves the key as it was. -/
@[simp] theorem key_noting : (d.noting record).key = d.key := rfl

/-- Noting a record adds its identity to those that were seen. -/
@[simp] theorem seen_noting : (d.noting record).seen = identity d.key record :: d.seen := rfl

/-- A record whose identity was seen is turned away. -/
theorem insert_of_mem (met : identity d.key record ∈ d.seen) : d.insert record = (false, d) := by
  simp [insert, met]

/-- A record whose identity was not seen is taken and noted. -/
theorem insert_of_not_mem (unmet : identity d.key record ∉ d.seen) :
    d.insert record = (true, d.noting record) := by
  simp [insert, unmet, noting]

/-- A first record whose identity was seen is dropped. -/
theorem keepNew_cons_of_mem (met : identity d.key record ∈ d.seen) :
    d.keepNew (record :: rest) = d.keepNew rest := by
  simp [keepNew, insert_of_mem met]

/-- A first record whose identity was not seen is kept, and noted for the rest. -/
theorem keepNew_cons_of_not_mem (unmet : identity d.key record ∉ d.seen) :
    d.keepNew (record :: rest) =
      (record :: ((d.noting record).keepNew rest).1, ((d.noting record).keepNew rest).2) := by
  simp [keepNew, insert_of_not_mem unmet]

/-- The answers to records in a row, and the deduplicator that has met them all. -/
def insertAll (d : Deduplicator) : List Value → List Bool × Deduplicator
  | [] => ([], d)
  | record :: rest =>
    let (isNew, d) := d.insert record
    let (answers, d) := d.insertAll rest
    (isNew :: answers, d)

/-- A record that is new after what a deduplicator has seen and after the records before it. -/
def IsNew (d : Deduplicator) (records : List Value) (i : Nat) : Prop :=
  ∀ record ∈ records[i]?, identity d.key record ∉ d.seen ∧
    ∀ earlier ∈ records.take i, identity d.key earlier ≠ identity d.key record

/-- Whether a record is new to a deduplicator can be decided. -/
instance (d : Deduplicator) (records : List Value) (i : Nat) : Decidable (d.IsNew records i) :=
  inferInstanceAs (Decidable (∀ _ ∈ _, _ ∧ ∀ _ ∈ _, _ ≠ _))

/-- The first record is new when its identity was not seen. -/
theorem isNew_zero : d.IsNew (record :: rest) 0 ↔ identity d.key record ∉ d.seen := by
  simp [IsNew]

/-- Behind a record its identity counts as seen. -/
theorem isNew_succ (i : Nat) :
    d.IsNew (record :: rest) (i + 1) ↔ (d.noting record).IsNew rest i := by
  simp only [IsNew, List.getElem?_cons_succ, List.take_succ_cons, List.forall_mem_cons, key_noting,
    seen_noting]
  refine forall₂_congr fun other _ => ?_
  rw [List.mem_cons, not_or, ne_comm, and_left_comm, and_assoc]

/-- Noting an identity that was seen already makes no record old. -/
theorem isNew_noting (met : identity d.key record ∈ d.seen) (records : List Value) (i : Nat) :
    (d.noting record).IsNew records i ↔ d.IsNew records i := by
  have same : ∀ text, text ∈ (d.noting record).seen ↔ text ∈ d.seen := by
    intro text
    refine ⟨fun member => ?_, List.mem_cons_of_mem _⟩
    rcases List.mem_cons.mp member with rfl | member
    · exact met
    · exact member
  simp only [IsNew, same, key_noting]

/-- The records at the positions of new ones are kept. -/
theorem keepNew_eq_picked (d : Deduplicator) (records : List Value) :
    (d.keepNew records).1 = picked (fun i => decide (d.IsNew records i)) records := by
  induction records generalizing d with
  | nil => rfl
  | cons record rest ih =>
    by_cases met : identity d.key record ∈ d.seen
    · have first : decide (d.IsNew (record :: rest) 0) = false := by simpa [isNew_zero] using met
      rw [picked_cons_of_not_chosen record rest first, keepNew_cons_of_mem met, ih d]
      simp only [isNew_succ, isNew_noting met]
    · have first : decide (d.IsNew (record :: rest) 0) = true := by simpa [isNew_zero] using met
      rw [picked_cons_of_chosen record rest first, keepNew_cons_of_not_mem met]
      simp only [isNew_succ, ih]

/-- A record is answered by whether it is new. -/
theorem insertAll_eq (d : Deduplicator) (records : List Value) :
    d.insertAll records =
      ((List.range records.length).map fun i => decide (d.IsNew records i), (d.keepNew records).2) := by
  induction records generalizing d with
  | nil => rfl
  | cons record rest ih =>
    rw [List.length_cons, List.range_succ_eq_map, List.map_cons, List.map_map]
    by_cases met : identity d.key record ∈ d.seen
    · rw [keepNew_cons_of_mem met, insertAll, insert_of_mem met]
      simp [ih d, isNew_zero, met, Function.comp_def, isNew_succ, isNew_noting met]
    · rw [keepNew_cons_of_not_mem met, insertAll, insert_of_not_mem met]
      simp [ih, isNew_zero, met, Function.comp_def, isNew_succ]

/-! ## Digests in place of identities -/

section Digests

variable {δ : Type} [DecidableEq δ] (digest : String → δ)

/-- The answers to records in a row of a deduplicator that keeps the digests of identities. -/
def insertAllDigests (key : Option String) (seen : List δ) : List Value → List Bool × List δ
  | [] => ([], seen)
  | record :: rest =>
    let mark := digest (identity key record)
    let (answers, after) := insertAllDigests key (if mark ∈ seen then seen else mark :: seen) rest
    ((!decide (mark ∈ seen)) :: answers, after)

/-- As long as no two identities that are met collide, it answers as one that keeps the identities does, and
keeps their digests. -/
theorem insertAllDigests_eq (d : Deduplicator) (records : List Value)
    (collisionFree : ∀ a ∈ d.seen ++ records.map (identity d.key), ∀ b ∈ d.seen ++ records.map (identity d.key),
      digest a = digest b → a = b) :
    insertAllDigests digest d.key (d.seen.map digest) records =
      ((d.insertAll records).1, (d.insertAll records).2.seen.map digest) := by
  induction records generalizing d with
  | nil => rfl
  | cons record rest ih =>
    have met_iff : digest (identity d.key record) ∈ d.seen.map digest ↔ identity d.key record ∈ d.seen := by
      refine ⟨fun marked => ?_, List.mem_map_of_mem⟩
      obtain ⟨text, seen, same⟩ := List.mem_map.mp marked
      exact collisionFree text (by simp [seen]) _ (by simp) same ▸ seen
    by_cases met : identity d.key record ∈ d.seen
    · have later := ih d fun a left b right => collisionFree a (by grind) b (by grind)
      simp [insertAllDigests, insertAll, insert_of_mem met, met_iff, met, later]
    · -- the digest is kept beside the others, as the identity is
      have later := ih (d.noting record) fun a left b right =>
        collisionFree a (by grind [key_noting, seen_noting]) b (by grind [key_noting, seen_noting])
      rw [key_noting, seen_noting, List.map_cons] at later
      simp [insertAllDigests, insertAll, insert_of_not_mem met, met_iff, met, later]

end Digests

/-- Keeping the new records leaves the key as it was. -/
@[simp] theorem key_keepNew (d : Deduplicator) (records : List Value) : (d.keepNew records).2.key = d.key := by
  induction records generalizing d with
  | nil => rfl
  | cons record rest ih =>
    by_cases met : identity d.key record ∈ d.seen
    · rw [keepNew_cons_of_mem met, ih d]
    · rw [keepNew_cons_of_not_mem met, ih, key_noting]

/-- The identities seen afterwards are those seen before and those of the records. -/
theorem mem_seen_keepNew (d : Deduplicator) (records : List Value) (text : String) :
    text ∈ (d.keepNew records).2.seen ↔ text ∈ d.seen ∨ text ∈ records.map (identity d.key) := by
  induction records generalizing d with
  | nil => simp [keepNew]
  | cons record rest ih =>
    by_cases met : identity d.key record ∈ d.seen
    · rw [keepNew_cons_of_mem met, ih d, List.map_cons, List.mem_cons]
      have absorbed : text = identity d.key record → text ∈ d.seen := fun same => same ▸ met
      tauto
    · rw [keepNew_cons_of_not_mem met, ih, key_noting, seen_noting, List.map_cons, List.mem_cons,
        List.mem_cons]
      tauto

/-- Each record that is kept is one identity more. -/
theorem length_seen_keepNew (d : Deduplicator) (records : List Value) :
    (d.keepNew records).2.seen.length = d.seen.length + (d.keepNew records).1.length := by
  induction records generalizing d with
  | nil => rfl
  | cons record rest ih =>
    by_cases met : identity d.key record ∈ d.seen
    · rw [keepNew_cons_of_mem met, ih d]
    · rw [keepNew_cons_of_not_mem met, ih, seen_noting, List.length_cons, List.length_cons]
      omega

/-- Records kept after others are those new to what the others left behind. -/
theorem keepNew_append (d : Deduplicator) (records more : List Value) :
    (d.keepNew (records ++ more)).1 =
      (d.keepNew records).1 ++ ((d.keepNew records).2.keepNew more).1 := by
  induction records generalizing d with
  | nil => rfl
  | cons record rest ih =>
    by_cases met : identity d.key record ∈ d.seen
    · rw [List.cons_append, keepNew_cons_of_mem met, keepNew_cons_of_mem met, ih d]
    · rw [List.cons_append, keepNew_cons_of_not_mem met, keepNew_cons_of_not_mem met, ih]
      rfl

/-- No record that is kept had been seen. -/
theorem not_mem_seen_of_mem_keepNew {kept : Value} (d : Deduplicator) (records : List Value)
    (member : kept ∈ (d.keepNew records).1) : identity d.key kept ∉ d.seen := by
  induction records generalizing d with
  | nil => cases member
  | cons record rest ih =>
    by_cases met : identity d.key record ∈ d.seen
    · rw [keepNew_cons_of_mem met] at member
      exact ih d member
    · rw [keepNew_cons_of_not_mem met] at member
      rcases List.mem_cons.mp member with rfl | later
      · exact met
      · exact fun seen => ih (d.noting record) later (List.mem_cons_of_mem _ seen)

/-- Having seen more only takes records away: those with an identity that was seen. -/
theorem keepNew_eq_filter (d more : Deduplicator) (sameKey : more.key = d.key)
    (within : ∀ text ∈ d.seen, text ∈ more.seen) (records : List Value) :
    (more.keepNew records).1 =
      (d.keepNew records).1.filter fun kept => decide (identity d.key kept ∉ more.seen) := by
  induction records generalizing d more with
  | nil => rfl
  | cons record rest ih =>
    by_cases met : identity d.key record ∈ d.seen
    · have metToo : identity more.key record ∈ more.seen := sameKey ▸ within _ met
      rw [keepNew_cons_of_mem met, keepNew_cons_of_mem metToo]
      exact ih d more sameKey within
    · rw [keepNew_cons_of_not_mem met, List.filter_cons]
      by_cases metLater : identity d.key record ∈ more.seen
      · -- only the one that has seen more drops the record, and the filter drops it, too
        rw [keepNew_cons_of_mem (sameKey ▸ metLater), if_neg (by simpa using metLater)]
        refine ih (d.noting record) more sameKey ?_
        simpa using ⟨metLater, within⟩
      · rw [keepNew_cons_of_not_mem (sameKey ▸ metLater), if_pos (by simpa using metLater)]
        have later := ih (d.noting record) (more.noting record) sameKey (by
          simpa [sameKey] using fun text member => Or.inr (within text member))
        rw [later]
        -- what is kept behind the record is not like it, so it does not matter that the record was seen
        refine congrArg (record :: ·) (List.filter_congr ?_)
        intro kept member
        have apart := not_mem_seen_of_mem_keepNew (d.noting record) rest member
        simp only [key_noting, seen_noting, List.mem_cons, not_or] at apart
        simp [sameKey, apart.1]

/-- To a deduplicator that has seen nothing the first of its likes is new. -/
theorem isNew_start (key : Option String) (records : List Value) (i : Nat) :
    (start key).IsNew records i ↔ IsFirst key records i := by
  simp [IsNew, IsFirst, start, identity_eq_iff]

end Deduplicator

open Deduplicator

/-! ## The laws of deduplication -/

section Laws

variable (key : Option String)

/-- The first record is kept, and of the others those that are not like it. -/
theorem dedup_cons (record : Value) (rest : List Value) :
    dedup key (record :: rest) =
      record :: (dedup key rest).filter fun other => decide (¬ record.IsAlike key other) := by
  have unseen : identity (start key).key record ∉ (start key).seen := List.not_mem_nil
  rw [dedup, keepNew_cons_of_not_mem unseen,
    keepNew_eq_filter (start key) ((start key).noting record) rfl (by simp [start])]
  simp [start, dedup, ← identity_eq_iff, eq_comm]

/-- No two records that are kept are alike. -/
theorem pairwise_dedup (records : List Value) :
    (dedup key records).Pairwise fun a b => ¬ a.IsAlike key b := by
  induction records with
  | nil => exact .nil
  | cons record rest ih =>
    rw [dedup_cons]
    refine .cons ?_ (ih.filter _)
    intro other member
    simpa using (List.mem_filter.mp member).2

/-- Records of which no two are alike are all kept. -/
theorem dedup_eq_self {records : List Value} (apart : records.Pairwise fun a b => ¬ a.IsAlike key b) :
    dedup key records = records := by
  induction records with
  | nil => rfl
  | cons record rest ih =>
    obtain ⟨unlike, apartRest⟩ := List.pairwise_cons.mp apart
    rw [dedup_cons, ih apartRest, List.filter_eq_self.mpr (by simpa using unlike)]

/-- Of the records that are kept exactly one is like a given record. -/
theorem countP_dedup {records : List Value} {record : Value} (member : record ∈ records) :
    (dedup key records).countP (fun kept => decide (kept.IsAlike key record)) = 1 := by
  induction records with
  | nil => cases member
  | cons first rest ih =>
    rw [dedup_cons, List.countP_cons, List.countP_filter]
    simp only [← identity_eq_iff] at ih ⊢
    by_cases alike : identity key first = identity key record
    · have none : (dedup key rest).countP (fun kept =>
          decide (identity key kept = identity key record) &&
            decide (¬ identity key first = identity key kept)) = 0 := by
        simp [alike, eq_comm]
      rw [none, if_pos (by simpa using alike)]
    · have later : record ∈ rest := by
        rcases List.mem_cons.mp member with rfl | later
        · exact absurd rfl alike
        · exact later
      have unlike : ∀ kept, identity key kept = identity key record → identity key first ≠ identity key kept :=
        fun kept same first_eq => alike (first_eq.trans same)
      rw [if_neg (by simpa using alike), Nat.add_zero, ← ih later]
      apply List.countP_congr
      intro kept _
      simpa using unlike kept

/-- After some records, of more records those are kept that would be kept by themselves and that are like
none of the records before. -/
theorem dedup_append (records more : List Value) :
    dedup key (records ++ more) =
      dedup key records ++ (dedup key more).filter fun other =>
        decide (∀ record ∈ records, ¬ record.IsAlike key other) := by
  have seen : ∀ other, identity key other ∉ ((start key).keepNew records).2.seen ↔
      ∀ record ∈ records, ¬ record.IsAlike key other := by
    intro other
    rw [mem_seen_keepNew]
    simp [start, ← identity_eq_iff]
  have within : ∀ text ∈ (start key).seen, text ∈ ((start key).keepNew records).2.seen := by simp [start]
  rw [dedup, keepNew_append, keepNew_eq_filter (start key) _ (key_keepNew _ _) within]
  congr 1
  apply List.filter_congr
  intro other _
  exact decide_eq_decide.mpr (seen other)

/-- Deduplication picks the first of each kind. -/
theorem dedup_eq_picked (records : List Value) :
    dedup key records = picked (fun i => decide (IsFirst key records i)) records := by
  rw [dedup, keepNew_eq_picked]
  simp only [isNew_start]

/-- Marks that are equal for no two identities of the records tell which records are first. -/
theorem isFirstMarked_iff {δ : Type} (digest : String → δ) (records : List Value)
    (collisionFree : ∀ a ∈ records, ∀ b ∈ records,
      digest (identity key a) = digest (identity key b) → identity key a = identity key b) (i : Nat) :
    IsFirstMarked (fun record => digest (identity key record)) records i ↔ IsFirst key records i := by
  refine forall₂_congr fun record found => forall₂_congr fun earlier before => not_congr ?_
  rw [← identity_eq_iff]
  refine ⟨collisionFree earlier (List.mem_of_mem_take before) record ?_, congrArg digest⟩
  exact List.mem_of_getElem? found

/-- Deduplication keeps exactly the records that no earlier record is like, in their order, also if
identities are told apart by digests that do not collide. So it keeps one record of every kind, doing it
again changes nothing, what it makes of records in a row is made of the parts, and the answers and the
count of a deduplicator that meets the records one by one are those of the records that are kept. -/
theorem dedup_keepsFirsts {δ : Type} [DecidableEq δ] (digest : String → δ) (records more : List Value)
    (collisionFree : ∀ a ∈ records, ∀ b ∈ records,
      digest (identity key a) = digest (identity key b) → identity key a = identity key b) :
    dedup key records = picked (fun i => decide (IsFirst key records i)) records ∧
      dedup key records =
        picked (fun i => decide (IsFirstMarked (fun record => digest (identity key record)) records i))
          records ∧
      dedup key (dedup key records) = dedup key records ∧
      (∀ record ∈ records, (dedup key records).countP (fun kept => decide (kept.IsAlike key record)) = 1) ∧
      dedup key (records ++ more) =
        dedup key records ++ (dedup key more).filter (fun other =>
          decide (∀ record ∈ records, ¬ record.IsAlike key other)) ∧
      ((start key).insertAll records).1 =
        (List.range records.length).map (fun i => decide (IsFirst key records i)) ∧
      ((start key).insertAll records).2.seen.length = (dedup key records).length := by
  refine ⟨dedup_eq_picked key records, ?_, dedup_eq_self key (pairwise_dedup key records),
    fun record => countP_dedup key, dedup_append key records more, ?_, ?_⟩
  · simp only [isFirstMarked_iff key digest records collisionFree]
    exact dedup_eq_picked key records
  · simp only [insertAll_eq, isNew_start]
  · rw [insertAll_eq, length_seen_keepNew]
    simp [start, dedup]

end Laws

/-- Records under a key: two with one number, one without the field, and one whose field is the text that a
missing field is known by. -/
def Deduplicator.trial : List Value :=
  [.record [("id", .count 1)], .record [("name", .null)], .record [("id", .text "undefined")],
    .record [("id", .count 1), ("name", .null)]]

/-- Of the trial the last record is dropped: those without the field and with the text are told apart. -/
theorem dedup_keepsFirsts_trial :
    (∀ a ∈ Deduplicator.trial, ∀ b ∈ Deduplicator.trial,
      (identity (some "id") a).length = (identity (some "id") b).length →
        identity (some "id") a = identity (some "id") b) ∧
      ((start (some "id")).insertAll Deduplicator.trial).2.seen.length =
        (dedup (some "id") Deduplicator.trial).length ∧
      (dedup (some "id") Deduplicator.trial).map (fun record => (Action.fieldOf? record "id").map Value.compact) =
        [some "1", none, some "\"undefined\""] := by
  have collisionFree : ∀ a ∈ Deduplicator.trial, ∀ b ∈ Deduplicator.trial,
      (identity (some "id") a).length = (identity (some "id") b).length →
        identity (some "id") a = identity (some "id") b := by decide +kernel
  obtain ⟨-, -, -, -, -, -, counted⟩ :=
    dedup_keepsFirsts (some "id") String.length Deduplicator.trial [] collisionFree
  exact ⟨collisionFree, counted, by decide +kernel⟩

end Stepwise
