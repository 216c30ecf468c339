import Mathlib.Data.List.Nodup
import Stepwise.Table

/-!
# Entries that are set one after another

Setting entries one after another leaves under every name the last entry of that name, and what stood there
before if there is none. Where the entries have distinct names the order in which they are set makes no
difference at all.
-/

set_option autoImplicit false

namespace Stepwise.Table

variable {α : Type}

/-- Sets entries, one after another. -/
def putAll (table : Table α) (entries : List (String × α)) : Table α :=
  entries.foldl (fun table entry => put table entry.1 entry.2) table

/-- Putting no entry leaves the table as it was. -/
@[simp] theorem putAll_nil (table : Table α) : putAll table [] = table := rfl

/-- Entries are put one after the other. -/
@[simp] theorem putAll_cons (table : Table α) (entry : String × α) (rest : List (String × α)) :
    putAll table (entry :: rest) = putAll (put table entry.1 entry.2) rest := rfl

/-- Putting a value adds its name and no other. -/
theorem mem_names_put_iff {table : Table α} {name other : String} {value : α} :
    other ∈ names (put table name value) ↔ other = name ∨ other ∈ names table := by
  refine ⟨mem_names_put, ?_⟩
  by_cases same : other = name
  · subst same
    simp [mem_names_iff]
  · simp [mem_names_iff, get?_put_of_ne table value same, same]

/-- Setting an entry puts it among entries that do not depend on its value. -/
theorem exists_put_perm (table : Table α) (name : String) :
    ∃ others, ∀ value, (put table name value).Perm ((name, value) :: others) := by
  induction table with
  | nil => exact ⟨[], fun value => .refl _⟩
  | cons entry rest ih =>
    obtain ⟨key, old⟩ := entry
    obtain ⟨others, perm⟩ := ih
    -- the entry takes the place of the first one, goes before it, or goes behind it
    by_cases same : name = key
    · exact ⟨rest, fun value => by rw [put, if_pos same]⟩
    · by_cases before : name < key
      · exact ⟨(key, old) :: rest, fun value => by rw [put, if_neg same, if_pos before]⟩
      · refine ⟨(key, old) :: others, fun value => ?_⟩
        rw [put, if_neg same, if_neg before]
        exact ((perm value).cons _).trans (.swap _ _ _)

/-- Putting entries adds their names and no others. -/
theorem mem_names_putAll_iff {table : Table α} {entries : List (String × α)} {name : String} :
    name ∈ names (putAll table entries) ↔ name ∈ names entries ∨ name ∈ names table := by
  induction entries generalizing table with
  | nil => simp [names]
  | cons entry rest ih =>
    rw [putAll_cons, ih, mem_names_put_iff]
    simp only [names, List.map_cons, List.mem_cons]
    tauto

/-- The last entry of a name is the one that is found. -/
theorem get?_putAll_eq_some_iff {table : Table α} {entries : List (String × α)} {name : String} {value : α} :
    get? (putAll table entries) name = some value ↔
      (∃ before after, entries = before ++ (name, value) :: after ∧ name ∉ names after) ∨
        name ∉ names entries ∧ get? table name = some value := by
  induction entries generalizing table with
  | nil => simp [names]
  | cons entry rest ih =>
    obtain ⟨key, set⟩ := entry
    rw [putAll_cons, ih]
    constructor
    · rintro (⟨before, after, rfl, last⟩ | ⟨absent, found⟩)
      · exact .inl ⟨(key, set) :: before, after, rfl, last⟩
      · by_cases same : name = key
        · subst same
          rw [get?_put_self] at found
          cases found
          exact .inl ⟨[], rest, rfl, absent⟩
        · rw [get?_put_of_ne table set same] at found
          exact .inr ⟨by simp [names, same] at absent ⊢; exact absent, found⟩
    · rintro (⟨_ | ⟨first, before⟩, after, split, last⟩ | ⟨absent, found⟩)
      · obtain ⟨⟨rfl, rfl⟩, rfl⟩ := by simpa using split
        exact .inr ⟨last, get?_put_self _ _ _⟩
      · obtain ⟨-, rfl⟩ := List.cons.inj split
        exact .inl ⟨before, after, rfl, last⟩
      · simp only [names, List.map_cons, List.mem_cons, not_or] at absent
        exact .inr ⟨absent.2, by rw [get?_put_of_ne table set absent.1, found]⟩

/-- Entries of distinct names are all found, and hide nothing else. -/
theorem get?_putAll (table : Table α) {entries : List (String × α)} (distinct : (names entries).Nodup)
    (name : String) : get? (putAll table entries) name = (get? entries name).or (get? table name) := by
  induction entries generalizing table with
  | nil => rfl
  | cons entry rest ih =>
    obtain ⟨unlisted, distinctRest⟩ := List.nodup_cons.mp distinct
    rw [putAll_cons, ih _ distinctRest, get?_cons]
    by_cases same : entry.1 = name
    · subst same
      rw [get?_eq_none unlisted, get?_put_self, if_pos rfl]
      rfl
    · rw [get?_put_of_ne table entry.2 (Ne.symm same), if_neg same]

/-- Of two entries of different names the lesser may also be set last. -/
theorem put_comm_of_lt (table : Table α) {first second : String} (before : first < second) (value other : α) :
    put (put table first value) second other = put (put table second other) first value := by
  have distinct : second ≠ first := fun same => Std.lt_irrefl (same ▸ before)
  have notBefore : ¬ second < first := fun before' => Std.lt_irrefl (Std.lt_trans before before')
  induction table with
  | nil => simp [put, distinct, notBefore, Ne.symm distinct, before]
  | cons entry rest ih =>
    obtain ⟨key, old⟩ := entry
    by_cases here : first = key
    · subst here
      simp [put, distinct, notBefore]
    · by_cases front : first < key
      · -- the lesser comes first, wherever the greater goes
        by_cases there : second = key
        · subst there
          simp [put, distinct, notBefore, here, front]
        · by_cases early : second < key
          · simp [put, distinct, notBefore, Ne.symm distinct, before, here, front, there, early]
          · simp [put, distinct, notBefore, here, front, there, early]
      · have behind : key < first := Std.lt_of_le_of_ne (Std.not_lt.mp front) (Ne.symm here)
        have later : key < second := Std.lt_trans behind before
        have there : second ≠ key := fun same => Std.lt_irrefl (same ▸ later)
        have notFront : ¬ second < key := fun front => Std.lt_irrefl (Std.lt_trans later front)
        simp [put, here, front, there, notFront, ih]

/-- Two entries of different names can be set in either order. -/
theorem put_comm (table : Table α) {first second : String} (distinct : first ≠ second) (value other : α) :
    put (put table first value) second other = put (put table second other) first value := by
  by_cases before : first < second
  · exact put_comm_of_lt table before value other
  · have after : second < first := Std.lt_of_le_of_ne (Std.not_lt.mp before) (Ne.symm distinct)
    exact (put_comm_of_lt table after other value).symm

/-- Entries of distinct names can be set in any order. -/
theorem putAll_perm (table : Table α) {entries reordered : List (String × α)} (distinct : (names entries).Nodup)
    (same : reordered.Perm entries) : putAll table reordered = putAll table entries := by
  refine (same.symm.foldl_eq' ?_ table).symm
  intro entry member other member' between
  by_cases named : entry.1 = other.1
  · rw [List.inj_on_of_nodup_map distinct member member' named]
  · exact put_comm between named entry.2 other.2

end Stepwise.Table
