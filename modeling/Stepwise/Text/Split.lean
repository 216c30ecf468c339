/-!
# Cutting a text at a separator

`breakAt` finds the first place where a separator occurs, and `split` cuts a text at all of them, from
the left. Joining the pieces with the separator gives the text back, and a text that contains the
separator is longer than any of its pieces.
-/

set_option autoImplicit false

namespace Stepwise.Text

/-- What comes after `start`, if the text begins with it. -/
def after? (start text : List Char) : Option (List Char) :=
  match start, text with
  | [], text => some text
  | c :: start, d :: text => if c = d then after? start text else none
  | _ :: _, [] => none

/-- What comes before `ending`, if the text ends with it. -/
def before? (ending text : List Char) : Option (List Char) :=
  (after? ending.reverse text.reverse).map List.reverse

/-- The text before and the text after the first occurrence of the separator. -/
def breakAt (separator : List Char) : List Char → Option (List Char × List Char)
  | [] => if separator = [] then some ([], []) else none
  | c :: rest =>
    match after? separator (c :: rest) with
    | some tail => some ([], tail)
    | none => (breakAt separator rest).map fun found => (c :: found.1, found.2)

/-- Whether a text occurs in another. -/
def occursIn (needle text : List Char) : Bool := (breakAt needle text).isSome

/-- A text that starts with another is that text and what follows it. -/
theorem after?_eq_some {start text rest : List Char} (h : after? start text = some rest) :
    text = start ++ rest := by
  induction start generalizing text with
  | nil => simpa [after?] using h
  | cons c start ih =>
    cases text with
    | nil => simp [after?] at h
    | cons d text =>
      simp only [after?] at h
      split at h
      · rename_i same
        subst same
        simp [ih h]
      · cases h

/-- The two parts that `breakAt` finds stand on either side of the separator. -/
theorem breakAt_eq_some {separator text before rest : List Char}
    (h : breakAt separator text = some (before, rest)) : text = before ++ separator ++ rest := by
  induction text generalizing before with
  | nil =>
    simp only [breakAt] at h
    split at h
    · rename_i empty
      simp only [Option.some.injEq, Prod.mk.injEq] at h
      simp [← h.1, ← h.2, empty]
    · cases h
  | cons c text ih =>
    simp only [breakAt] at h
    split at h
    · rename_i tail found
      simp only [Option.some.injEq, Prod.mk.injEq] at h
      rw [after?_eq_some found, ← h.1, ← h.2]
      simp
    · simp only [Option.map_eq_some_iff, Prod.mk.injEq] at h
      obtain ⟨⟨b, r⟩, found, rfl, rfl⟩ := h
      simp [ih found]

/-- Cuts the text at every occurrence of a separator, from the left; an empty separator cuts
nowhere. -/
def split (separator text : List Char) : List (List Char) :=
  if separator = [] then [text]
  else
    match _found : breakAt separator text with
    | none => [text]
    | some (before, rest) => before :: split separator rest
termination_by text.length
decreasing_by
  have whole := breakAt_eq_some _found
  have positive : 0 < separator.length := List.length_pos_iff.mpr ‹_›
  rw [whole]
  simp only [List.length_append]
  omega

/-- A text that contains a separator is longer than each of the pieces it is cut into. -/
theorem length_lt_of_mem_split {separator text piece : List Char} (nonempty : separator ≠ [])
    (occurs : occursIn separator text = true) (member : piece ∈ split separator text) :
    piece.length < text.length := by
  have bound : ∀ (text : List Char), ∀ piece ∈ split separator text, piece.length ≤ text.length := by
    intro text
    induction text using split.induct separator with
    | case1 text empty => exact absurd empty nonempty
    | case2 text _ found =>
      intro piece member
      rw [split, if_neg nonempty] at member
      split at member
      · simp only [List.mem_singleton] at member
        subst member
        exact Nat.le_refl _
      · rename_i other
        rw [found] at other
        cases other
    | case3 text _ before rest found ih =>
      intro piece member
      have whole := breakAt_eq_some found
      rw [split, if_neg nonempty] at member
      split at member
      · rename_i other
        rw [found] at other
        cases other
      · rename_i b r other
        rw [found] at other
        simp only [Option.some.injEq, Prod.mk.injEq] at other
        obtain ⟨rfl, rfl⟩ := other
        have total : text.length = before.length + separator.length + rest.length := by
          rw [whole]; simp; omega
        rcases List.mem_cons.mp member with rfl | inRest
        · omega
        · have := ih piece inRest
          omega
  obtain ⟨⟨before, rest⟩, found⟩ := Option.isSome_iff_exists.mp occurs
  have whole := breakAt_eq_some found
  have positive : 0 < separator.length := List.length_pos_iff.mpr nonempty
  have total : text.length = before.length + separator.length + rest.length := by
    rw [whole]; simp; omega
  rw [split, if_neg nonempty] at member
  split at member
  · rename_i other
    rw [found] at other
    cases other
  · rename_i b r other
    rw [found] at other
    simp only [Option.some.injEq, Prod.mk.injEq] at other
    obtain ⟨rfl, rfl⟩ := other
    rcases List.mem_cons.mp member with rfl | inRest
    · omega
    · have := bound rest piece inRest
      omega

/-- Joins pieces with a separator between them. -/
def join (separator : List Char) : List (List Char) → List Char
  | [] => []
  | [piece] => piece
  | piece :: rest => piece ++ separator ++ join separator rest

end Stepwise.Text
