import Stepwise.Store.Collections

/-!
# Paths in parts

A path leads where its rest leads from where its front leads. The length of a list is the one step that looks at
what follows it, and the law holds there too: the length is a number, from which nothing leads on, and as a
position the word leads nowhere. The law carries over to paths into a table, into the collections and into the
context of a run.
-/

set_option autoImplicit false

namespace Stepwise

/-! ## Values -/

namespace Value

/-- Behind the length of a list lies nothing. -/
theorem follow?_length_append (items : List Value) (front rest : List String) :
    (list items).follow? ("length" :: (front ++ rest)) =
      ((list items).follow? ("length" :: front)).bind fun inner => inner.follow? rest := by
  cases front with
  | nil => cases rest <;> rfl
  | cons segment front => rfl

/-- A path leads where its rest leads from where its front leads. -/
theorem follow?_append (root : Value) (front rest : List String) :
    root.follow? (front ++ rest) = (root.follow? front).bind fun inner => inner.follow? rest := by
  induction front generalizing root with
  | nil => rfl
  | cons segment front ih =>
    rw [List.cons_append]
    cases root with
    | record fields => simp only [follow?, ih, Option.bind_assoc]
    | list items =>
      by_cases size : segment = "length"
      · subst size
        exact follow?_length_append items front rest
      · simp only [follow?, size, if_false, ih, Option.bind_assoc]
    | _ => rfl

/-- The word `length` measures a list, names a field of a record, and leads nowhere from anything else. -/
example :
    (record [("rows", list [null])]).follow? ["rows", "length"] = some (count 1) ∧
      (record [("rows", list [null])]).follow? ["rows", "length", "length"] = none ∧
      (record [("length", list [flag true])]).follow? ["length", "0"] = some (flag true) := ⟨rfl, rfl, rfl⟩

/-- A path into a table is one into the record of its entries. -/
theorem followIn?_eq (fields : Fields) {path : List String} (nonempty : path ≠ []) :
    followIn? fields path = (record fields).follow? path := by
  cases path with
  | nil => exact absurd rfl nonempty
  | cons name rest => rfl

end Value

/-! ## Collections -/

namespace Collections

/-- A path into a collection is a path into the list of its records. -/
theorem follow?_eq {collections : Collections} {name : String} {records : List Value}
    (found : Table.get? collections name = some records) (below : List String) :
    collections.follow? (name :: below) = (Value.list records).follow? below := by
  rw [follow?, found, Option.bind_some]
  cases below with
  | nil => rfl
  | cons segment tail =>
    by_cases size : segment = "length"
    · -- more segments behind the length lead nowhere: the word is no position
      have noPosition : Text.count? "length".toList = none := by decide
      subst size
      cases tail with
      | nil => simp only [Value.follow?, and_self, if_true, List.isEmpty_nil]
      | cons next rest =>
        simp only [Value.follow?, noPosition, Option.bind_none, reduceCtorEq, and_false, if_false, if_true,
          List.isEmpty_cons, Bool.false_eq_true]
    · simp only [Value.follow?, size, false_and, if_false]

/-- A path goes on inside of what its front leads to. -/
theorem follow?_append (collections : Collections) {front : List String} (nonempty : front ≠ [])
    (rest : List String) :
    collections.follow? (front ++ rest) = (collections.follow? front).bind fun inner => inner.follow? rest := by
  obtain ⟨name, below, rfl⟩ := List.exists_cons_of_ne_nil nonempty
  cases found : Table.get? collections name with
  | none => simp only [List.cons_append, follow?, found, Option.bind_none]
  | some records => rw [List.cons_append, follow?_eq found, follow?_eq found, Value.follow?_append]

end Collections

end Stepwise
