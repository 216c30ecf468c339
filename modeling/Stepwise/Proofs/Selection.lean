import Mathlib.Data.List.Perm.Basic

/-!
# Selections of a list

The items of a list at chosen positions, in the order of the list.
-/

set_option autoImplicit false

namespace Stepwise

/-- The items at the chosen positions. -/
def picked {α : Type} (chosen : Nat → Bool) : List α → List α
  | [] => []
  | item :: rest =>
    let later := picked (fun i => chosen (i + 1)) rest
    if chosen 0 then item :: later else later

section Picked

variable {α : Type} {chosen : Nat → Bool}

/-- A first item that is chosen comes before what is picked of the rest. -/
theorem picked_cons_of_chosen (item : α) (rest : List α) (first : chosen 0 = true) :
    picked chosen (item :: rest) = item :: picked (fun i => chosen (i + 1)) rest := by
  simp [picked, first]

/-- A first item that is not chosen is left out. -/
theorem picked_cons_of_not_chosen (item : α) (rest : List α) (first : chosen 0 = false) :
    picked chosen (item :: rest) = picked (fun i => chosen (i + 1)) rest := by
  simp [picked, first]

/-- An item that is picked stands at a chosen position. -/
theorem exists_of_mem_picked {items : List α} {item : α} (member : item ∈ picked chosen items) :
    ∃ i, chosen i = true ∧ items[i]? = some item := by
  induction items generalizing chosen with
  | nil => cases member
  | cons head rest ih =>
    have shifted : item ∈ picked (fun i => chosen (i + 1)) rest →
        ∃ i, chosen i = true ∧ (head :: rest)[i]? = some item := by
      intro later
      obtain ⟨i, chosen_i, found⟩ := ih later
      exact ⟨i + 1, chosen_i, by simpa using found⟩
    cases first : chosen 0 with
    | false =>
      rw [picked_cons_of_not_chosen head rest first] at member
      exact shifted member
    | true =>
      rw [picked_cons_of_chosen head rest first] at member
      rcases List.mem_cons.mp member with rfl | later
      · exact ⟨0, first, rfl⟩
      · exact shifted later

/-- What is picked and what is left are all there is. -/
theorem picked_append_perm (chosen : Nat → Bool) (items : List α) :
    (picked chosen items ++ picked (fun i => !chosen i) items).Perm items := by
  induction items generalizing chosen with
  | nil => exact .nil
  | cons head rest ih =>
    have later := ih (fun i => chosen (i + 1))
    cases first : chosen 0 with
    | true =>
      rw [picked_cons_of_chosen head rest first,
        picked_cons_of_not_chosen head rest (show (!chosen 0) = false by simp [first])]
      exact later.cons head
    | false =>
      rw [picked_cons_of_not_chosen head rest first,
        picked_cons_of_chosen head rest (show (!chosen 0) = true by simp [first])]
      exact List.perm_middle.trans (later.cons head)

end Picked

end Stepwise
