import Stepwise.Action.Params
import Stepwise.Proofs.Text.Cutting
import Stepwise.Proofs.Text.Numeral
import Stepwise.Proofs.Value.Canonical
import Stepwise.Proofs.Value.Words

/-!
# Parameters given as text

A template gives a number or a truth value as it is, or as the text that it is written as, which depends on
what else is written around it. A parameter should read the same from both. Counts do for whole numbers: the
numeral of one denotes it, and that of a negative one denotes no count. Real numbers are written with a point
or with a power, so their texts never denote a count. Truth values have words, but a number is no word.
-/

set_option autoImplicit false

namespace Stepwise

/-! ## Values and their texts -/

/-- No character of a numeral is blank. -/
theorem not_blank_of_isNumeral {c : Char} (numeral : isNumeral c = true) : Text.isBlank c = false := by
  rcases Bool.or_eq_true_iff.mp numeral with digit | mark
  · exact Text.not_blank_of_isDigit digit
  · have marks : ∀ c ∈ "+-.e".toList, (!Text.isBlank c) = true := List.all_eq_true.mp (by decide)
    simpa using marks c (by simpa using mark)

namespace Number

/-- So trimming leaves a printed number as it is. -/
theorem trim_chars (n : Number) : Text.trim n.chars = n.chars := by
  apply Text.trim_eq_self
  · exact fun c begins => not_blank_of_isNumeral (n.isNumeral_of_mem_chars c (List.mem_of_mem_head? begins))
  · exact fun c ends => not_blank_of_isNumeral (n.isNumeral_of_mem_chars c (List.mem_of_mem_getLast? ends))

/-- The text of a whole number of 64 bits denotes the count that the number is, if it is one. -/
theorem count?_chars_whole {n : Int} (greatest : n ≤ greatestWhole) :
    Text.count? (whole n).chars = (whole n).count? := by
  rw [chars, Text.toList_toString, count?]
  by_cases negative : n < 0
  · rw [if_pos negative, if_neg (Int.not_le.mpr negative)]
    -- the sign is no digit
    exact Text.count?_eq_none (c := '-') (by simp) (by decide) (by decide)
  · have nonneg : 0 ≤ n := Int.not_lt.mp negative
    have same : n.natAbs = n.toNat := by omega
    have fits : n.toNat ≤ Text.maxCount := by
      have greatestEq : greatestWhole = (Nat.pow 2 64 : Int) - 1 := rfl
      have maxEq : Text.maxCount = Nat.pow 2 64 - 1 := rfl
      omega
    rw [if_neg negative, if_pos nonneg, List.nil_append, same, Text.count?_toDigits fits]

/-- A printed binary64 number never reads as a count: it has a point or an exponent. -/
theorem count?_chars_real (x : Binary64) : Text.count? (real x).chars = none := by
  rcases x.mark_mem_text with point | power
  · exact Text.count?_eq_none point (by decide) (by decide)
  · exact Text.count?_eq_none power (by decide) (by decide)

/-- A real number is no count exactly if it is negative. -/
theorem count?_real_eq_none {x : Binary64} : (real x).count? = none ↔ (x.negative && !x.isZero) = true := by
  rw [count?]
  split <;> simp_all

end Number

namespace Value

/-- A number renders as its characters. -/
theorem render_number (n : Number) : (number n).render = String.ofList n.chars := rfl

/-- The text of a number reads as a count just when its characters spell one. -/
theorem asCount?_render_number (n : Number) : (text (number n).render).asCount? = Text.count? n.chars := by
  rw [asCount?, render_number, String.toList_ofList, n.trim_chars]

/-- The text of a number is no word for a truth value. -/
theorem asFlag?_render_number (n : Number) : (text (number n).render).asFlag? = none := by
  have trimmed : Text.trimmed (number n).render = String.ofList n.chars := by
    rw [Text.trimmed, render_number, String.toList_ofList, n.trim_chars]
  -- a numeral has none of the letters of the words, and some character
  have notWord : ∀ word : List Char, 't' ∈ word ∨ 'f' ∈ word ∨ word = [] →
      String.ofList n.chars ≠ String.ofList word := by
    intro word letters same
    rw [String.ofList_inj] at same
    subst same
    rcases letters with letter | letter | empty
    · exact absurd (n.isNumeral_of_mem_chars 't' letter) (by decide)
    · exact absurd (n.isNumeral_of_mem_chars 'f' letter) (by decide)
    · exact n.chars_ne_nil empty
  simp only [asFlag?, trimmed]
  split
  · rename_i same
    exact absurd same (notWord "true".toList (by decide))
  · rename_i same
    exact absurd same (notWord "false".toList (by decide))
  · rename_i same
    exact absurd same (notWord [] (by decide))
  · rfl

/-- The text of a flag reads as that flag and as no count. -/
theorem read_render_flag (b : Bool) :
    (text (flag b).render).asFlag? = some b ∧ (text (flag b).render).asCount? = none := by
  cases b <;> exact ⟨by decide, by decide⟩

end Value

/-! ## Parameters -/

/-- A number or a truth value, where whole numbers have 64 bits. -/
def Value.IsScalar : Value → Prop
  | .number (.whole n) => Number.leastWhole ≤ n ∧ n ≤ Number.greatestWhole
  | .number (.real _) => True
  | .flag _ => True
  | _ => False

/-- A real number that is not below zero. -/
def Value.isUnsignedReal : Value → Bool
  | .number (.real x) => !x.negative || x.isZero
  | _ => false

/-- Two readings of a count that give the same count, or refuse the same parameter. -/
def Params.SameCount : Except ActionError (Option Nat) → Except ActionError (Option Nat) → Prop
  | .ok n, .ok m => n = m
  | .error (.invalidParam action key (.notCount _)), .error (.invalidParam action' key' (.notCount _)) =>
    action = action' ∧ key = key'
  | _, _ => False

/-- The parameters with one of them set. -/
def Params.set (p : Params) (key : String) (value : Value) : Params := ⟨p.action, Table.put p.fields key value⟩

namespace Params

/-- A parameter that is set to a value that is neither null nor the empty text is found. -/
theorem get?_set {key : String} {value : Value} (p : Params) (given : value ≠ .null)
    (filled : value ≠ .text "") : (p.set key value).get? key = some value := by
  rw [get?, set, Table.get?_put_self]
  cases value with
  | null => exact absurd rfl given
  | text s =>
    have nonempty : s.isEmpty = false := by simpa using filled
    simp only [nonempty, Bool.false_eq_true, if_false]
  | _ => rfl

section

variable (p : Params) (key : String) {value : Value} (given : value ≠ .null) (filled : value ≠ .text "")
include given filled

/-- How a parameter that was set is read as a count. -/
theorem count?_set : (p.set key value).count? key =
    match value.asCount? with
    | some n => .ok (some n)
    | none => .error (.invalidParam p.action key (.notCount value)) := by
  rw [count?, get?_set p given filled]
  rfl

/-- How a parameter that was set is read as a flag. -/
theorem flagOr_set (default : Bool) :
    (p.set key value).flagOr key default = value.asFlag?.getD default := by
  rw [flagOr, get?_set p given filled, Option.bind_some]

end

/-- Two values read as the same count exactly if they stand for the same count, or neither for one. -/
theorem sameCount_iff (p : Params) (key : String) {value other : Value} (given : value ≠ .null)
    (filled : value ≠ .text "") (otherGiven : other ≠ .null) (otherFilled : other ≠ .text "") :
    SameCount ((p.set key value).count? key) ((p.set key other).count? key) ↔ value.asCount? = other.asCount? := by
  rw [count?_set p key given filled, count?_set p key otherGiven otherFilled]
  cases value.asCount? <;> cases other.asCount? <;> simp [SameCount]

end Params

/-! ## The laws -/

namespace Value

/-- No scalar renders as the empty text, so its text is not taken for an absent parameter. -/
theorem IsScalar.render_ne_empty {v : Value} (scalar : v.IsScalar) : v.render ≠ "" := by
  cases v with
  | number n =>
    rw [render_number, ne_eq, String.ofList_eq_empty_iff]
    exact n.chars_ne_nil
  | flag b => cases b <;> decide
  | _ => exact scalar.elim

/-- A value stands for the same count as its text unless it is a real number that is not below zero. -/
theorem IsScalar.asCount?_render_iff {v : Value} (scalar : v.IsScalar) :
    v.asCount? = (text v.render).asCount? ↔ v.isUnsignedReal = false := by
  cases v with
  | flag b =>
    rw [(read_render_flag b).2]
    exact ⟨fun _ => rfl, fun _ => rfl⟩
  | number n =>
    rw [asCount?_render_number, asCount?]
    cases n with
    | whole n =>
      rw [Number.count?_chars_whole scalar.2]
      exact ⟨fun _ => rfl, fun _ => rfl⟩
    | real x =>
      rw [Number.count?_chars_real, Number.count?_real_eq_none, isUnsignedReal]
      cases x.negative <;> cases x.isZero <;> decide
  | _ => exact scalar.elim

/-- A value stands for the same truth value as its text if it is one; a number does where the default is what
the number counts as. -/
theorem IsScalar.asFlag?_render_iff {v : Value} (scalar : v.IsScalar) (default : Bool) :
    v.asFlag?.getD default = (text v.render).asFlag?.getD default ↔
      ∀ n, v = .number n → default = !n.isZero := by
  cases v with
  | flag b =>
    rw [(read_render_flag b).1]
    exact ⟨fun _ => nofun, fun _ => rfl⟩
  | number n =>
    rw [asFlag?_render_number, asFlag?, Option.getD_some, Option.getD_none]
    exact ⟨fun same m eq => by rw [← same, Value.number.inj eq], fun same => (same n rfl).symm⟩
  | _ => exact scalar.elim

end Value

/-- How a parameter that is given as a value and one that is given as the text of the value are read. -/
structure Params.ReadsAsText (p : Params) (key : String) (v : Value) : Prop where
  /-- As a count they are read the same exactly unless the value is a real number that is not below zero. -/
  counts : SameCount ((p.set key v).count? key) ((p.set key (.text v.render)).count? key) ↔
    v.isUnsignedReal = false
  /-- The text of a real number is refused, whatever its sign. -/
  refused : ∀ x, v = .number (.real x) →
    (p.set key (.text v.render)).count? key = .error (.invalidParam p.action key (.notCount (.text v.render)))
  /-- As a truth value they are read the same unless the value is a number and the default is not what the number
  counts as. -/
  flags : ∀ default, (p.set key v).flagOr key default = (p.set key (.text v.render)).flagOr key default ↔
    ∀ n, v = .number n → default = !n.isZero
  /-- The text of a number leaves the default. -/
  undecided : ∀ n, v = .number n → ∀ default, (p.set key (.text v.render)).flagOr key default = default

/-- Whole numbers, negative numbers and truth values are read as the same count as their texts, and truth values
as the same truth value. The other numbers are not: the text of a real number is no numeral of a count, and
that of no number is a word for a truth value. -/
theorem Params.readsAsText (p : Params) (key : String) (v : Value) (scalar : v.IsScalar) :
    p.ReadsAsText key v := by
  have given : v ≠ .null := by
    rintro rfl
    exact scalar
  have filled : v ≠ .text "" := by
    rintro rfl
    exact scalar
  have textGiven : Value.text v.render ≠ .null := by simp
  have textFilled : Value.text v.render ≠ .text "" := by simpa using scalar.render_ne_empty
  refine ⟨?_, ?_, fun default => ?_, ?_⟩
  · rw [sameCount_iff p key given filled textGiven textFilled]
    exact scalar.asCount?_render_iff
  · rintro x rfl
    rw [count?_set p key textGiven textFilled, Value.asCount?_render_number, Number.count?_chars_real]
  · rw [flagOr_set p key given filled, flagOr_set p key textGiven textFilled]
    exact scalar.asFlag?_render_iff default
  · rintro n rfl default
    rw [flagOr_set p key textGiven textFilled, Value.asFlag?_render_number, Option.getD_none]

/-- The number two and a half. -/
def Binary64.twoAndHalf : Binary64 := ⟨false, 5 * Nat.pow 2 50, -51⟩

/-- The laws of a negative whole number: both refuse it as a count, and as a truth value it is read the same as
its text where the default is true. -/
theorem Params.readsAsText_negative :
    (Value.number (.whole (-7))).IsScalar ∧
    Params.ReadsAsText ⟨"sleep", []⟩ "ms" (.number (.whole (-7))) ∧
    Params.flagOr (Params.set ⟨"sleep", []⟩ "ms" (.text (Value.number (.whole (-7))).render)) "ms" true = true := by
  have scalar : (Value.number (.whole (-7))).IsScalar := ⟨by decide, by decide⟩
  have laws := Params.readsAsText ⟨"sleep", []⟩ "ms" (.number (.whole (-7))) scalar
  exact ⟨scalar, laws, laws.undecided _ rfl true⟩

/-- So neither counts nor truth values are always read the same: not two and a half, and not one. -/
theorem Params.reads_apart :
    ¬ SameCount ((Params.set ⟨"sleep", []⟩ "ms" (.number (.real .twoAndHalf))).count? "ms")
        ((Params.set ⟨"sleep", []⟩ "ms" (.text "2.5")).count? "ms") ∧
      (Value.number (.real .twoAndHalf)).render = "2.5" ∧
      (Params.set ⟨"flush_buffer", []⟩ "all" (.number (.whole 1))).flagOr "all" false = true ∧
      (Params.set ⟨"flush_buffer", []⟩ "all" (.text "1")).flagOr "all" false = false := by
  refine ⟨?_, by decide +kernel, by decide +kernel, by decide +kernel⟩
  have typed : (Params.set ⟨"sleep", []⟩ "ms" (.number (.real .twoAndHalf))).count? "ms" = .ok (some 2) := rfl
  have written : (Params.set ⟨"sleep", []⟩ "ms" (.text "2.5")).count? "ms" =
      .error (.invalidParam "sleep" "ms" (.notCount (.text "2.5"))) := rfl
  rw [typed, written]
  exact id

end Stepwise
