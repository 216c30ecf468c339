import Mathlib.Data.Int.Basic
import Stepwise.Text.Numeral

/-!
# Numerals of whole numbers

A whole number is written with a minus, if it is negative, and its digits. Every whole number of 64 bits is
read back from its numeral.
-/

set_option autoImplicit false

namespace Stepwise.Text

/-- An integer is written as its sign and its digits. -/
theorem toList_toString (n : Int) :
    (toString n).toList = (if n < 0 then ['-'] else []) ++ Nat.toDigits 10 n.natAbs := by
  rw [Int.toString_eq_repr]
  cases n with
  | ofNat m =>
    have notNegative : ¬ (m : Int) < 0 := by omega
    simp [Int.repr, notNegative]
  | negSucc m => simp [Int.repr, Int.negSucc_lt_zero]

/-- Digits stand for the number they are the digits of. -/
theorem digits?_of_isDigit {text : List Char} (nonempty : text ≠ [])
    (digits : ∀ c ∈ text, c.isDigit = true) : digits? text = some (Nat.ofDigitChars 10 text 0) := by
  have folded : ∀ (text : List Char) (total : Nat), (∀ c ∈ text, c.isDigit = true) →
      text.foldl (fun total c =>
        total.bind fun n => if c.isDigit then some (10 * n + (c.toNat - 48)) else none) (some total) =
        some (Nat.ofDigitChars 10 text total) := by
    intro text
    induction text with
    | nil => simp
    | cons c text ih =>
      intro total digits
      rw [List.foldl_cons, Option.bind_some, if_pos (digits c (by simp)),
        ih _ fun d member => digits d (by simp [member]), Nat.ofDigitChars_cons]
      rfl
  have some_digit : text.isEmpty = false := by simpa using nonempty
  rw [digits?, some_digit]
  exact folded text 0 digits

/-- The digits of a number are read as that number. -/
theorem digits?_toDigits (n : Nat) : digits? (Nat.toDigits 10 n) = some n := by
  rw [digits?_of_isDigit Nat.toDigits_ne_nil fun c member =>
    Nat.isDigit_of_mem_toDigits (by decide) (by decide) member]
  simp

/-- A number begins with a digit, and so with no sign. -/
theorem exists_toDigits (n : Nat) :
    ∃ c rest, Nat.toDigits 10 n = c :: rest ∧ c.isDigit = true := by
  obtain ⟨c, rest, whole⟩ := List.exists_cons_of_ne_nil (Nat.toDigits_ne_nil (n := n) (b := 10))
  refine ⟨c, rest, whole, Nat.isDigit_of_mem_toDigits (b := 10) (n := n) ?_ ?_ ?_⟩ <;> simp [whole]

/-- So numbers with the same digits are the same. -/
theorem toDigits_inj {m n : Nat} (same : Nat.toDigits 10 m = Nat.toDigits 10 n) : m = n := by
  have read := digits?_toDigits m
  rw [same, digits?_toDigits] at read
  exact (Option.some.inj read).symm

/-- Whole numbers of one numeral are equal. -/
theorem toString_inj {m n : Int} (same : (toString m).toList = (toString n).toList) : m = n := by
  have unsigned : ∀ (k : Nat) (rest : List Char), Nat.toDigits 10 k ≠ '-' :: rest := by
    intro k rest signed
    obtain ⟨c, digits, whole, digit⟩ := exists_toDigits k
    obtain ⟨rfl, -⟩ := List.cons.inj (signed.symm.trans whole)
    exact absurd digit (by decide)
  rw [toList_toString, toList_toString] at same
  by_cases left : m < 0
  · by_cases right : n < 0
    · rw [if_pos left, if_pos right] at same
      have magnitude := toDigits_inj (List.append_cancel_left same)
      omega
    · rw [if_pos left, if_neg right] at same
      exact absurd same.symm (unsigned _ _)
  · by_cases right : n < 0
    · rw [if_neg left, if_pos right] at same
      exact absurd same (unsigned _ _)
    · rw [if_neg left, if_neg right] at same
      have magnitude := toDigits_inj same
      omega

/-- A whole number of 64 bits is read back from its numeral. -/
theorem integer?_toString {n : Int} (least : -(Nat.pow 2 63 : Int) ≤ n)
    (greatest : n < (Nat.pow 2 63 : Int)) : integer? (toString n).toList = some n := by
  rw [toList_toString]
  by_cases negative : n < 0
  · have small : n.natAbs ≤ Nat.pow 2 63 := by omega
    have same : -(n.natAbs : Int) = n := by omega
    simp only [if_pos negative, List.cons_append, List.nil_append, integer?, digits?_toDigits,
      Option.bind_some, if_pos small, same]
  · have small : n.natAbs < Nat.pow 2 63 := by omega
    have same : (n.natAbs : Int) = n := by omega
    have unsigned : integer? (Nat.toDigits 10 n.natAbs) =
        (digits? (Nat.toDigits 10 n.natAbs)).bind
          fun n => if n < Nat.pow 2 63 then some (n : Int) else none := by
      obtain ⟨c, rest, whole, digit⟩ := exists_toDigits n.natAbs
      rw [whole]
      unfold integer?
      split
      · rename_i minus
        cases minus
        simp at digit
      · rename_i plus
        cases plus
        simp at digit
      · rfl
    rw [if_neg negative, List.nil_append, unsigned, digits?_toDigits, Option.bind_some, if_pos small, same]

/-- No digit is blank. -/
theorem not_blank_of_isDigit {c : Char} (digit : c.isDigit = true) : isBlank c = false := by
  simp only [Char.isDigit, ge_iff_le, Bool.and_eq_true, decide_eq_true_eq, UInt32.le_iff_toNat_le] at digit
  by_contra blank
  simp only [isBlank, Char.toNat, Bool.not_eq_false, Bool.or_eq_true, Bool.and_eq_true, decide_eq_true_eq,
    beq_iff_eq] at blank
  have least : '0'.val.toNat = 48 := rfl
  have greatest : '9'.val.toNat = 57 := rfl
  omega

/-- The numeral of a whole number has digits and a minus. -/
theorem isDigit_of_mem_toString {n : Int} {c : Char} (member : c ∈ (toString n).toList) :
    c = '-' ∨ c.isDigit = true := by
  rw [toList_toString] at member
  rcases List.mem_append.mp member with sign | digit
  · split at sign
    · exact Or.inl (List.mem_singleton.mp sign)
    · cases sign
  · exact Or.inr (Nat.isDigit_of_mem_toDigits (by decide) (by decide) digit)

/-- No character of a written integer is blank. -/
theorem not_blank_of_mem_toString {n : Int} {c : Char} (member : c ∈ (toString n).toList) :
    isBlank c = false := by
  rcases isDigit_of_mem_toString member with rfl | digit
  · decide
  · exact not_blank_of_isDigit digit

/-- A written integer is not empty. -/
theorem toString_ne_nil (n : Int) : (toString n).toList ≠ [] := by
  rw [toList_toString]
  simp [Nat.toDigits_ne_nil]

/-- A text with anything but digits in it is not read as digits. -/
theorem digits?_eq_none {text : List Char} {c : Char} (member : c ∈ text) (notDigit : c.isDigit = false) :
    digits? text = none := by
  have folded : ∀ (text : List Char) (total : Option Nat), total = none ∨ c ∈ text →
      text.foldl (fun total c =>
        total.bind fun n => if c.isDigit then some (10 * n + (c.toNat - 48)) else none) total = none := by
    intro text
    induction text with
    | nil => simp
    | cons d rest ih =>
      intro total either
      refine ih _ ?_
      rcases either with rfl | here
      · exact .inl rfl
      · exact (List.mem_cons.mp here).elim (fun same => .inl (by simp [← same, notDigit])) .inr
  rw [digits?, folded text _ (.inr member), ite_self]

/-- A text with anything but digits and a plus denotes no count. -/
theorem count?_eq_none {text : List Char} {c : Char} (member : c ∈ text) (notDigit : c.isDigit = false)
    (notPlus : c ≠ '+') : count? text = none := by
  unfold count?
  simp only
  split
  · rename_i rest
    rw [digits?_eq_none ((List.mem_cons.mp member).resolve_left notPlus) notDigit, Option.filter_none]
  · rw [digits?_eq_none member notDigit, Option.filter_none]

/-- A count is read back from its digits. -/
theorem count?_toDigits {n : Nat} (fits : n ≤ maxCount) : count? (Nat.toDigits 10 n) = some n := by
  obtain ⟨c, rest, digits, digit⟩ := exists_toDigits n
  have notPlus : c ≠ '+' := by
    rintro rfl
    cases digit
  have whole : digits? (c :: rest) = some n := by rw [← digits, digits?_toDigits]
  have unsigned : count? (c :: rest) = (digits? (c :: rest)).filter (· ≤ maxCount) := by
    unfold count?
    split
    · rename_i same
      exact absurd (List.cons.inj same).1 notPlus
    · rfl
  rw [digits, unsigned, whole, Option.filter_some, decide_eq_true fits, if_pos rfl]

end Stepwise.Text
