/-!
# Tables

A table holds named entries in increasing order of name, by code point. It is kept as a plain list,
so that a value may contain tables of values; the operations below keep the order. The laws say
what a look-up finds after each operation, and hold of every list of entries.
-/

set_option autoImplicit false

namespace Stepwise

/-- Named entries in increasing order of name. -/
abbrev Table (α : Type) : Type := List (String × α)

namespace Table

variable {α β : Type}

/-- The table without entries. -/
def empty : Table α := []

/-- The first entry of that name. -/
def get? (table : Table α) (name : String) : Option α :=
  match table with
  | [] => none
  | (key, value) :: rest => if key = name then some value else get? rest name

/-- Whether an entry of that name exists. -/
def contains (table : Table α) (name : String) : Bool := (get? table name).isSome

/-- Sets the entry of that name, in its place in the order. -/
def put (table : Table α) (name : String) (value : α) : Table α :=
  match table with
  | [] => [(name, value)]
  | (key, old) :: rest =>
    if name = key then (name, value) :: rest
    else if name < key then (name, value) :: (key, old) :: rest
    else (key, old) :: put rest name value

/-- Removes the entry of that name. -/
def erase (table : Table α) (name : String) : Table α :=
  table.filter fun entry => entry.1 ≠ name

/-- The names, in order. -/
def names (table : Table α) : List String := table.map Prod.fst

/-- The table of a list of entries; of two entries of one name the later stays. -/
def ofList (entries : List (String × α)) : Table α :=
  entries.foldl (fun table entry => put table entry.1 entry.2) empty

/-- Applies a function to every entry and keeps the names. -/
def mapValues (f : α → β) (table : Table α) : Table β := table.map fun entry => (entry.1, f entry.2)

/-- A table lists its names in strictly increasing order. -/
def Sorted (table : Table α) : Prop := (names table).Pairwise (· < ·)

/-- The empty table holds nothing. -/
@[simp] theorem get?_nil (name : String) : get? ([] : Table α) name = none := rfl

/-- A lookup asks the first entry, then the rest. -/
theorem get?_cons (key : String) (value : α) (rest : Table α) (name : String) :
    get? ((key, value) :: rest) name = if key = name then some value else get? rest name := rfl

/-- An entry that was just set is found. -/
@[simp] theorem get?_put_self (table : Table α) (name : String) (value : α) :
    get? (put table name value) name = some value := by
  induction table with
  | nil => simp [put, get?_cons]
  | cons entry rest ih =>
    obtain ⟨key, old⟩ := entry
    unfold put
    split
    · simp [get?_cons]
    · split
      · simp [get?_cons]
      · rename_i distinct _
        simp [get?_cons, ih, Ne.symm distinct]

/-- Setting an entry leaves the entries of other names alone. -/
theorem get?_put_of_ne (table : Table α) {name other : String} (value : α) (distinct : other ≠ name) :
    get? (put table name value) other = get? table other := by
  induction table with
  | nil => simp [put, get?_cons, Ne.symm distinct]
  | cons entry rest ih =>
    obtain ⟨key, old⟩ := entry
    unfold put
    split
    · rename_i same
      subst same
      simp [get?_cons, Ne.symm distinct]
    · split
      · simp [get?_cons, Ne.symm distinct]
      · simp [get?_cons, ih]

/-- Of two entries of one name the one that is set last stays. -/
theorem put_put (table : Table α) (name : String) (old new : α) :
    put (put table name old) name new = put table name new := by
  induction table with
  | nil => simp [put]
  | cons entry rest ih =>
    obtain ⟨key, value⟩ := entry
    by_cases same : name = key
    · simp [put, same]
    · by_cases before : name < key
      · simp [put, same, before]
      · simp [put, same, before, ih]

/-- An erased entry is gone. -/
@[simp] theorem get?_erase_self (table : Table α) (name : String) :
    get? (erase table name) name = none := by
  induction table with
  | nil => rfl
  | cons entry rest ih =>
    obtain ⟨key, old⟩ := entry
    by_cases same : key = name
    · subst same
      simpa [erase] using ih
    · simpa [erase, same, get?_cons] using ih

/-- Erasing an entry leaves the entries of other names alone. -/
theorem get?_erase_of_ne (table : Table α) {name other : String} (distinct : other ≠ name) :
    get? (erase table name) other = get? table other := by
  induction table with
  | nil => rfl
  | cons entry rest ih =>
    obtain ⟨key, old⟩ := entry
    by_cases same : key = name
    · subst same
      simpa [erase, get?_cons, Ne.symm distinct] using ih
    · simp only [erase, ne_eq, decide_not, get?_cons] at ih ⊢
      simp [same, get?_cons, ih]

/-- A name that is not listed has no entry. -/
theorem get?_eq_none {table : Table α} {name : String} (absent : name ∉ names table) :
    get? table name = none := by
  induction table with
  | nil => rfl
  | cons entry rest ih =>
    obtain ⟨key, value⟩ := entry
    simp only [names, List.map_cons, List.mem_cons, not_or] at absent
    rw [get?_cons, if_neg (Ne.symm absent.1)]
    exact ih absent.2

/-- A name is listed exactly if it has an entry. -/
theorem mem_names_iff {table : Table α} {name : String} :
    name ∈ names table ↔ (get? table name).isSome = true := by
  constructor
  · intro member
    induction table with
    | nil => cases member
    | cons entry rest ih =>
      obtain ⟨key, value⟩ := entry
      rw [get?_cons]
      split
      · rfl
      · rename_i distinct
        rcases List.mem_cons.mp member with same | later
        · exact absurd same.symm distinct
        · exact ih later
  · intro found
    refine Decidable.byContradiction fun absent => ?_
    rw [get?_eq_none absent] at found
    cases found

/-- Setting entries of other names leaves an entry alone. -/
theorem get?_foldl_put (entries : List (String × α)) (table : Table α) {name : String}
    (absent : name ∉ names entries) :
    get? (entries.foldl (fun table entry => put table entry.1 entry.2) table) name = get? table name := by
  induction entries generalizing table with
  | nil => rfl
  | cons entry rest ih =>
    simp only [names, List.map_cons, List.mem_cons, not_or] at absent
    rw [List.foldl_cons, ih _ absent.2, get?_put_of_ne table entry.2 absent.1]

/-- A table of entries with distinct names holds every one of them. -/
theorem get?_ofList {entries : List (String × α)} (distinct : (names entries).Nodup) {name : String}
    {value : α} (member : (name, value) ∈ entries) : get? (ofList entries) name = some value := by
  unfold ofList
  generalize (empty : Table α) = table
  induction entries generalizing table with
  | nil => cases member
  | cons entry rest ih =>
    obtain ⟨unlisted, distinctRest⟩ := List.nodup_cons.mp distinct
    rw [List.foldl_cons]
    rcases List.mem_cons.mp member with rfl | later
    · rw [get?_foldl_put rest _ unlisted, get?_put_self]
    · exact ih distinctRest later _

/-- What a table of entries holds is one of them. -/
theorem mem_of_get?_ofList {entries : List (String × α)} {name : String} {value : α}
    (found : get? (ofList entries) name = some value) : (name, value) ∈ entries := by
  have either : ∀ (entries : List (String × α)) (table : Table α),
      get? (entries.foldl (fun table entry => put table entry.1 entry.2) table) name = some value →
        (name, value) ∈ entries ∨ get? table name = some value := by
    intro entries
    induction entries with
    | nil => exact fun _ found => .inr found
    | cons entry rest ih =>
      intro table found
      obtain ⟨key, kept⟩ := entry
      rcases ih _ found with later | here
      · exact .inl (List.mem_cons_of_mem _ later)
      · by_cases same : name = key
        · subst same
          rw [get?_put_self] at here
          cases here
          exact .inl List.mem_cons_self
        · rw [get?_put_of_ne table kept same] at here
          exact .inr here
  exact (either entries empty found).resolve_right (by simp [empty])

/-- Setting an entry lists no other name than that of the entry. -/
theorem mem_names_put {table : Table α} {name other : String} {value : α}
    (member : other ∈ names (put table name value)) : other = name ∨ other ∈ names table := by
  induction table with
  | nil => exact .inl (by simpa [put, names] using member)
  | cons entry rest ih =>
    obtain ⟨key, old⟩ := entry
    unfold put at member
    split at member
    · rename_i same
      subst same
      exact .inr member
    · split at member
      · simpa [names] using member
      · rcases List.mem_cons.mp member with rfl | later
        · exact .inr (by simp [names])
        · exact (ih later).imp_right (List.mem_cons_of_mem _)

/-- Setting an entry keeps the names in order. -/
theorem sorted_put {table : Table α} (sorted : Sorted table) (name : String) (value : α) :
    Sorted (put table name value) := by
  induction table with
  | nil => simp [put, Sorted, names]
  | cons entry rest ih =>
    obtain ⟨key, old⟩ := entry
    obtain ⟨least, sortedRest⟩ := List.pairwise_cons.mp sorted
    unfold put
    split
    · rename_i same
      subst same
      exact sorted
    · rename_i distinct
      split
      · rename_i before
        refine List.pairwise_cons.mpr ⟨?_, sorted⟩
        intro other member
        rcases List.mem_cons.mp member with rfl | later
        · exact before
        · exact Std.lt_trans before (least other later)
      · rename_i notBefore
        have after : key < name := Std.lt_of_le_of_ne (Std.not_lt.mp notBefore) (Ne.symm distinct)
        refine List.pairwise_cons.mpr ⟨?_, ih sortedRest⟩
        intro other member
        rcases mem_names_put member with rfl | later
        · exact after
        · exact least other later

/-- Setting an entry of an ordered table adds its weight to the total, less the weight of the entry that
it replaces. -/
theorem total_put {table : Table α} (sorted : Sorted table) (weight : α → Nat) (name : String) (value : α) :
    (put table name value).foldr (fun entry total => weight entry.2 + total) 0 +
        ((get? table name).map weight).getD 0 =
      table.foldr (fun entry total => weight entry.2 + total) 0 + weight value := by
  induction table with
  | nil => simp [put]
  | cons entry rest ih =>
    obtain ⟨key, old⟩ := entry
    obtain ⟨least, sortedRest⟩ := List.pairwise_cons.mp sorted
    unfold put
    split
    · rename_i same
      simp only [List.foldr_cons, get?_cons, same, if_true, Option.map_some, Option.getD_some]
      omega
    · rename_i distinct
      split
      · rename_i before
        -- an ordered table lists no name before its first
        have absent : name ∉ names ((key, old) :: rest) := by
          intro member
          rcases List.mem_cons.mp member with same | later
          · exact distinct same
          · exact Std.lt_irrefl (Std.lt_trans before (least name later))
        rw [get?_eq_none absent]
        simp only [List.foldr_cons, Option.map_none, Option.getD_none]
        omega
      · have later := ih sortedRest
        simp only [List.foldr_cons, get?_cons, Ne.symm distinct, if_false]
        omega

end Table

end Stepwise
