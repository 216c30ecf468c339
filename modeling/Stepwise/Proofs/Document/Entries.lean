import Stepwise.Proofs.Json.RoundTrip

/-!
# Structures are read from entries in any order

Every entry of a structure gives one field of its own, so the order in which the fields are filled in does
not matter. The same holds of the entries that a table is made of.
-/

set_option autoImplicit false

namespace Stepwise

namespace Value

/-- A list is free of binary64 numbers when its items are. -/
theorem areExact_iff {items : List Value} : areExact items = true ↔ ∀ item ∈ items, item.isExact = true := by
  induction items with
  | nil => simp [areExact]
  | cons item rest ih => simp [areExact, ih]

/-- Fields are free of binary64 numbers when their values are. -/
theorem areExactFields_iff {fields : List (String × Value)} :
    areExactFields fields = true ↔ ∀ field ∈ fields, field.2.isExact = true := by
  induction fields with
  | nil => simp [areExactFields]
  | cons field rest ih =>
    obtain ⟨name, value⟩ := field
    simp [areExactFields, ih]

/-- The depth of a list's items is bounded by what bounds each item's. -/
theorem depthOfItems_le_iff {items : List Value} {bound : Nat} :
    depthOfItems items ≤ bound ↔ ∀ item ∈ items, item.depth ≤ bound := by
  induction items with
  | nil => simp [depthOfItems]
  | cons item rest ih => rw [depthOfItems, Nat.max_le, ih, List.forall_mem_cons]

/-- The depth of a record's fields is bounded by what bounds each value's. -/
theorem depthOfFields_le_iff {fields : List (String × Value)} {bound : Nat} :
    depthOfFields fields ≤ bound ↔ ∀ field ∈ fields, field.2.depth ≤ bound := by
  induction fields with
  | nil => simp [depthOfFields]
  | cons field rest ih =>
    obtain ⟨name, value⟩ := field
    rw [depthOfFields, Nat.max_le, ih, List.forall_mem_cons]

/-- A value that lists the given entries in some order. -/
def Lists (value : Value) (entries : List (String × Value)) : Prop :=
  ∃ fields, value = .record fields ∧ fields.Perm entries

/-- The record of some entries lists them. -/
theorem lists_record (entries : List (String × Value)) : (Value.record entries).Lists entries :=
  ⟨entries, rfl, .refl _⟩

namespace Lists

variable {value : Value} {entries : List (String × Value)}

/-- A record of entries that are free of binary64 numbers is free of them too. -/
theorem isExact (lists : value.Lists entries) (exact : ∀ entry ∈ entries, entry.2.isExact = true) :
    value.isExact = true := by
  obtain ⟨fields, rfl, perm⟩ := lists
  exact areExactFields_iff.mpr fun field member => exact field (perm.mem_iff.mp member)

/-- A record is one level deeper than the deepest of its entries. -/
theorem depth_le (lists : value.Lists entries) {bound : Nat}
    (shallow : ∀ entry ∈ entries, entry.2.depth ≤ bound) : value.depth ≤ bound + 1 := by
  obtain ⟨fields, rfl, perm⟩ := lists
  exact Nat.succ_le_succ (depthOfFields_le_iff.mpr fun field member =>
    shallow field (perm.mem_iff.mp member))

end Lists

end Value

namespace Table

variable {α : Type}

/-- A name that is new is put beside what the table holds already. -/
theorem put_perm {table : Table α} {name : String} (absent : name ∉ names table) (value : α) :
    (put table name value).Perm ((name, value) :: table) := by
  induction table with
  | nil => exact .refl _
  | cons entry rest ih =>
    obtain ⟨key, old⟩ := entry
    simp only [names, List.map_cons, List.mem_cons, not_or] at absent
    rw [put, if_neg absent.1]
    split
    · exact .refl _
    · exact ((ih absent.2).cons _).trans (.swap _ _ _)

/-- A table made of entries with different names holds just those entries, in some order. -/
theorem ofList_perm {entries : List (String × α)} (distinct : (names entries).Nodup) :
    (ofList entries).Perm entries := by
  have folded : ∀ (entries table : List (String × α)), (names (entries ++ table)).Nodup →
      (entries.foldl (fun table entry => put table entry.1 entry.2) table).Perm (entries ++ table) := by
    intro entries
    induction entries with
    | nil => exact fun _ _ => .refl _
    | cons entry rest ih =>
      intro table distinct
      have unlisted := (List.nodup_cons.mp distinct).1
      have absent : entry.1 ∉ names table := fun member =>
        unlisted (List.map_append ▸ List.mem_append_right _ member)
      have added := (put_perm absent entry.2).append_left rest
      have moved : (rest ++ entry :: table).Perm (entry :: (rest ++ table)) := List.perm_middle
      have distinct' : (names (rest ++ put table entry.1 entry.2)).Nodup :=
        ((added.trans moved).map Prod.fst).nodup_iff.mpr distinct
      exact (ih _ distinct').trans (added.trans moved)
  simpa [ofList, empty] using folded entries [] (by simpa using distinct)

end Table

namespace Node

/-- Entries of distinct names are read one by one. What the entry of a name does is told by `copy`. -/
theorem readEntries_ofFields {α : Type} {names : List String} {read : α → String → Node → Except Mismatch α}
    {copy : α → String → α} {fields : List (String × Value)} (known : ∀ field ∈ fields, field.1 ∈ names)
    (distinct : (Table.names fields).Nodup)
    (copies : ∀ field ∈ fields, ∀ start, read start field.1 (ofValue field.2) = .ok (copy start field.1)) :
    ∀ (seen : List String) (start : α), (∀ name ∈ Table.names fields, name ∉ seen) →
      readEntries names read seen start (ofFields fields) =
        .ok ((Table.names fields).foldl copy start, (Table.names fields).reverse ++ seen) := by
  -- the names that were read so far are carried along, as a name that comes twice is refused
  induction fields with
  | nil => exact fun _ _ _ => rfl
  | cons field rest ih =>
    intro seen start fresh
    obtain ⟨name, value⟩ := field
    obtain ⟨unlisted, distinctRest⟩ := List.nodup_cons.mp distinct
    have isKnown : names.contains name = true := by simpa using known (name, value) (by simp)
    have isFresh : seen.contains name = false := by simpa using fresh name (by simp [Table.names])
    have step : readEntries names read seen start (ofFields ((name, value) :: rest)) =
        readEntries names read (name :: seen) (copy start name) (ofFields rest) := by
      have named : (ofScalar (.text name)).text = .ok name := rfl
      rw [ofFields, readEntries, named]
      simp only [bind, Except.bind, isKnown, isFresh, if_true, Bool.false_eq_true, if_false,
        copies (name, value) (by simp) start]
    have fresh' : ∀ other ∈ Table.names rest, other ∉ name :: seen := by
      intro other member seenBefore
      rcases List.mem_cons.mp seenBefore with rfl | before
      · exact unlisted member
      · exact fresh other (List.mem_cons_of_mem _ member) before
    rw [step, ih (fun field member => known field (by simp [member])) distinctRest
      (fun field member => copies field (by simp [member])) _ _ fresh']
    simp [Table.names]

/-- The entries of a structure are read alike in whatever order they stand, if the fields do not depend on
one another. All of them are given then. -/
theorem structured_ofValue {α : Type} (kind : String) (names : List String)
    {read : α → String → Node → Except Mismatch α} {copy : α → String → α} {value : Value}
    {entries : List (String × Value)} (lists : value.Lists entries) (named : Table.names entries = names)
    (distinct : names.Nodup) (commutes : ∀ start a b, copy (copy start a) b = copy (copy start b) a)
    (copies : ∀ entry ∈ entries, ∀ start, read start entry.1 (ofValue entry.2) = .ok (copy start entry.1))
    (start : α) :
    ∃ given, given.Perm names ∧
      (ofValue value).structured kind names read start = .ok (names.foldl copy start, given) := by
  obtain ⟨fields, rfl, perm⟩ := lists
  have namesPerm : (Table.names fields).Perm names := named ▸ perm.map Prod.fst
  have known : ∀ field ∈ fields, field.1 ∈ names := fun field member =>
    namesPerm.mem_iff.mp (List.mem_map_of_mem member)
  refine ⟨(Table.names fields).reverse ++ [], ?_, ?_⟩
  · rw [List.append_nil]
    exact (List.reverse_perm _).trans namesPerm
  · rw [ofValue, structured, readEntries_ofFields known (namesPerm.nodup_iff.mpr distinct)
      (fun field member => copies field (perm.mem_iff.mp member)) [] start (by simp),
      namesPerm.foldl_eq' (fun a _ b _ start => commutes start a b)]

end Node

end Stepwise
