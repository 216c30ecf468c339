import Mathlib.Algebra.Order.Field.Power
import Mathlib.Tactic.GCongr
import Mathlib.Tactic.Linarith
import Mathlib.Tactic.NormNum
import Mathlib.Tactic.Ring
import Stepwise.Number.Binary64

/-!
# Rounding keeps to the numbers

Rounding to nearest never passes a number of the format: what lies below such a number is rounded to one that
is not above it, and the other way round. A fraction is rounded to a multiple of a power of two, of which it
holds less than `2 ^ 53`, and `2 ^ 52` at least where the power is not the least one. A number of the format is
such a multiple itself, or it lies on the far side of `2 ^ 52` of them.
-/

set_option autoImplicit false

namespace Stepwise

section Quotients

variable {n num den : Nat}

/-- Rounding a quotient does not go below a whole number that is below the quotient. -/
theorem le_roundDiv (positive : 0 < den) (le : n * den ≤ num) : n ≤ roundDiv num den := by
  have whole : n ≤ num / den := (Nat.le_div_iff_mul_le positive).mpr le
  unfold roundDiv
  simp only
  split_ifs <;> omega

/-- Nor does it go above one that is above the quotient. -/
theorem roundDiv_le (positive : 0 < den) (le : num ≤ n * den) : roundDiv num den ≤ n := by
  have whole : num / den ≤ n := Nat.div_le_of_le_mul (by rwa [Nat.mul_comm])
  -- where the quotient is `n` already, there is nothing left to round up
  have exact : num / den = n → num % den = 0 := by
    rintro rfl
    have parts := Nat.div_add_mod' num den
    omega
  unfold roundDiv
  simp only
  split_ifs <;> omega

end Quotients

namespace Binary64

/-- The absolute value of a number. -/
def magnitude (x : Binary64) : ℚ := x.mantissa * 2 ^ x.exponent

/-- A number has a mantissa of 53 binary digits at most. -/
def IsPrecise (x : Binary64) : Prop := x.mantissa < 2 ^ 53

/-! ## Fractions -/

section

variable (num : Nat) {den : Nat} (exponent : Int)

/-- Scaling keeps the denominator positive. -/
theorem scaleDown_snd_pos (positive : 0 < den) : 0 < (scaleDown num den exponent).2 := by
  unfold scaleDown
  split
  · exact Nat.mul_pos positive (Nat.pow_pos (by decide))
  · exact positive

/-- Scaling down divides the fraction by a power of two. -/
theorem scaleDown_eq (den : Nat) :
    ((scaleDown num den exponent).1 : ℚ) / (scaleDown num den exponent).2 = num / den / 2 ^ exponent := by
  unfold scaleDown
  split
  · rename_i nonneg
    obtain ⟨n, rfl⟩ := Int.eq_ofNat_of_zero_le nonneg
    simp [div_div]
  · rename_i negative
    obtain ⟨n, rfl⟩ : ∃ n : Nat, exponent = -n := ⟨exponent.natAbs, by omega⟩
    simp [div_eq_mul_inv, mul_right_comm]

end

/-- The fraction of a binary64 number has a positive denominator. -/
theorem fraction_snd_pos (x : Binary64) : 0 < x.fraction.2 := scaleDown_snd_pos _ _ Nat.one_pos

/-- That fraction is the number's magnitude. -/
theorem fraction_eq (x : Binary64) : (x.fraction.1 : ℚ) / x.fraction.2 = x.magnitude := by
  rw [fraction, scaleDown_eq, magnitude]
  simp

/-! ## The power of two that a fraction is rounded to multiples of -/

/-- The power of two that a fraction is rounded to multiples of. -/
def unitOf (num den : Nat) : Int :=
  let guess : Int := (num.log2 : Int) - den.log2 - 53
  let first := scaleDown num den guess
  max (if first.1 / first.2 < Nat.pow 2 53 then guess else guess + 1) minExponent

/-- The multiple that a fraction is rounded to. -/
def multipleOf (num den : Nat) : Nat :=
  roundDiv (scaleDown num den (unitOf num den)).1 (scaleDown num den (unitOf num den)).2

section

variable {num den : Nat}

/-- The nearest number is the rounded multiple of the unit, unless that is beyond the range. -/
theorem nearest?_eq (negative : Bool) (nonzero : num ≠ 0) :
    nearest? negative num den =
      let result : Binary64 :=
        if multipleOf num den = 2 ^ 53 then ⟨negative, 2 ^ 52, unitOf num den + 1⟩
        else ⟨negative, multipleOf num den, unitOf num den⟩
      if maxExponent < result.exponent then none else some result := by
  rw [nearest?, if_neg nonzero]
  rfl

variable (someNum : num ≠ 0) (someDen : 0 < den)

section

include someNum someDen

/-- A fraction against the powers of two that its parts begin with. -/
theorem fraction_between :
    (2 : ℚ) ^ ((num.log2 : Int) - den.log2 - 1) < num / den ∧
      (num : ℚ) / den < 2 ^ ((num.log2 : Int) - den.log2 + 1) := by
  have two : (2 : ℚ) ≠ 0 := by norm_num
  have denPos : (0 : ℚ) < den := by exact_mod_cast someDen
  have numLow : (2 : ℚ) ^ num.log2 ≤ num := by exact_mod_cast Nat.log2_self_le someNum
  have numHigh : (num : ℚ) < 2 ^ (num.log2 + 1) := by exact_mod_cast Nat.lt_log2_self
  have denLow : (2 : ℚ) ^ den.log2 ≤ den := by exact_mod_cast Nat.log2_self_le someDen.ne'
  have denHigh : (den : ℚ) < 2 ^ (den.log2 + 1) := by exact_mod_cast Nat.lt_log2_self
  constructor
  · rw [lt_div_iff₀ denPos]
    calc (2 : ℚ) ^ ((num.log2 : Int) - den.log2 - 1) * den
        < 2 ^ ((num.log2 : Int) - den.log2 - 1) * 2 ^ (den.log2 + 1) := by gcongr
      _ = 2 ^ num.log2 := by
          rw [← zpow_natCast, ← zpow_natCast, ← zpow_add₀ two]
          congr 1
          push_cast
          ring
      _ ≤ num := numLow
  · rw [div_lt_iff₀ denPos]
    calc (num : ℚ) < 2 ^ (num.log2 + 1) := numHigh
      _ = 2 ^ ((num.log2 : Int) - den.log2 + 1) * 2 ^ den.log2 := by
          rw [← zpow_natCast, ← zpow_natCast, ← zpow_add₀ two]
          congr 1
          push_cast
          ring
      _ ≤ 2 ^ ((num.log2 : Int) - den.log2 + 1) * den := by gcongr

/-- A fraction holds less than `2 ^ 53` of its units, and `2 ^ 52` at least if they are not the least ones. -/
theorem unitOf_between :
    (num : ℚ) / den < 2 ^ 53 * 2 ^ unitOf num den ∧
      (unitOf num den = minExponent ∨ 2 ^ 52 * 2 ^ unitOf num den ≤ (num : ℚ) / den) := by
  have two : (2 : ℚ) ≠ 0 := by norm_num
  obtain ⟨low, high⟩ := fraction_between someNum someDen
  have firstPos := scaleDown_snd_pos num ((num.log2 : Int) - den.log2 - 53) someDen
  have firstEq := scaleDown_eq num ((num.log2 : Int) - den.log2 - 53) den
  generalize guess_eq : (num.log2 : Int) - den.log2 - 53 = guess at firstPos firstEq
  have lowGuess : 2 ^ 52 * (2 : ℚ) ^ guess < num / den := by
    convert low using 1
    rw [← zpow_natCast, ← zpow_add₀ two]
    congr 1
    push_cast
    omega
  have highGuess : (num : ℚ) / den < 2 ^ 54 * 2 ^ guess := by
    convert high using 1
    rw [← zpow_natCast, ← zpow_add₀ two]
    congr 1
    push_cast
    omega
  have unitPos : (0 : ℚ) < 2 ^ guess := zpow_pos (by norm_num) guess
  have small_iff : (scaleDown num den guess).1 / (scaleDown num den guess).2 < Nat.pow 2 53 ↔
      (num : ℚ) / den < 2 ^ 53 * 2 ^ guess := by
    rw [Nat.div_lt_iff_lt_mul firstPos, ← div_lt_iff₀ unitPos, ← firstEq,
      div_lt_iff₀ (by exact_mod_cast firstPos)]
    exact_mod_cast Iff.rfl
  -- the guess is right or one too low
  obtain ⟨unit, unit_eq, below, above⟩ : ∃ unit : Int, unitOf num den = max unit minExponent ∧
      (num : ℚ) / den < 2 ^ 53 * 2 ^ unit ∧ 2 ^ 52 * 2 ^ unit ≤ (num : ℚ) / den := by
    by_cases small : (num : ℚ) / den < 2 ^ 53 * 2 ^ guess
    · exact ⟨guess, by rw [unitOf, guess_eq, if_pos (small_iff.mpr small)], small, lowGuess.le⟩
    · refine ⟨guess + 1, by rw [unitOf, guess_eq, if_neg (mt small_iff.mp small)], ?_, ?_⟩
      · rw [zpow_add_one₀ two]
        linarith
      · rw [zpow_add_one₀ two]
        linarith
  rw [unit_eq]
  rcases le_total unit minExponent with least | more
  · rw [max_eq_right least]
    have grows : (2 : ℚ) ^ unit ≤ 2 ^ minExponent := zpow_le_zpow_right₀ (by norm_num) least
    exact ⟨by linarith, .inl rfl⟩
  · rw [max_eq_left more]
    exact ⟨below, .inr above⟩

end

/-! ## Numbers that rounding does not pass -/

section

include someDen

/-- A multiple of the units of a fraction is not passed. -/
theorem multipleOf_le {n : Nat} (le : (num : ℚ) / den ≤ n * 2 ^ unitOf num den) : multipleOf num den ≤ n := by
  have positive := scaleDown_snd_pos num (unitOf num den) someDen
  have castPos : (0 : ℚ) < (scaleDown num den (unitOf num den)).2 := by exact_mod_cast positive
  refine roundDiv_le positive ?_
  rw [← div_le_iff₀ (zpow_pos (by norm_num) _), ← scaleDown_eq, div_le_iff₀ castPos] at le
  exact_mod_cast le

/-- A multiple of the unit that is below a fraction is below what the fraction is rounded to. -/
theorem le_multipleOf {n : Nat} (le : n * 2 ^ unitOf num den ≤ (num : ℚ) / den) : n ≤ multipleOf num den := by
  have positive := scaleDown_snd_pos num (unitOf num den) someDen
  have castPos : (0 : ℚ) < (scaleDown num den (unitOf num den)).2 := by exact_mod_cast positive
  refine le_roundDiv positive ?_
  rw [← le_div_iff₀ (zpow_pos (by norm_num) _), ← scaleDown_eq, le_div_iff₀ castPos] at le
  exact_mod_cast le

end

include someNum someDen in
/-- The rounded multiple has 53 bits at most, or is the next power of two. -/
theorem multipleOf_le_pow : multipleOf num den ≤ 2 ^ 53 := by
  refine multipleOf_le someDen ?_
  push_cast
  exact (unitOf_between someNum someDen).1.le

end

/-- A number whose power of two is no less than a unit is a multiple of the unit. -/
theorem magnitude_eq_multiple (x : Binary64) {unit : Int} (le : unit ≤ x.exponent) :
    ∃ n : Nat, x.magnitude = n * 2 ^ unit := by
  obtain ⟨k, same⟩ := Int.le.dest le
  refine ⟨x.mantissa * 2 ^ k, ?_⟩
  rw [magnitude, ← same, zpow_add₀ (by norm_num)]
  push_cast
  rw [zpow_natCast]
  ring

/-- A number of the format lies below `2 ^ 52` units if these are greater than its own. -/
theorem IsPrecise.magnitude_lt {x : Binary64} (precise : x.IsPrecise) {unit : Int} (lt : x.exponent < unit) :
    x.magnitude < 2 ^ 52 * 2 ^ unit := by
  have mantissa : (x.mantissa : ℚ) < 2 ^ 53 := by exact_mod_cast precise
  have own : (0 : ℚ) < 2 ^ x.exponent := zpow_pos (by norm_num) _
  calc x.magnitude < 2 ^ 53 * 2 ^ x.exponent := by
        rw [magnitude]
        gcongr
    _ = 2 ^ 52 * 2 ^ (x.exponent + 1) := by
        rw [zpow_add_one₀ (by norm_num)]
        ring
    _ ≤ 2 ^ 52 * 2 ^ unit := by
        have grows : (2 : ℚ) ^ (x.exponent + 1) ≤ 2 ^ unit := zpow_le_zpow_right₀ (by norm_num) lt
        gcongr

section

variable {negative : Bool} {num den : Nat} {x bound : Binary64} (someNum : num ≠ 0) (someDen : 0 < den)
include someNum someDen

/-- What a fraction is rounded to is its multiple of the units. -/
theorem magnitude_of_nearest? (rounded : nearest? negative num den = some x) :
    x.magnitude = multipleOf num den * 2 ^ unitOf num den ∧ x.IsPrecise := by
  rw [nearest?_eq negative someNum] at rounded
  obtain ⟨-, taken⟩ := Option.ite_none_left_eq_some.mp rounded
  cases taken
  split
  · rename_i carried
    rw [magnitude, IsPrecise, carried]
    simp only
    refine ⟨?_, by norm_num⟩
    rw [zpow_add_one₀ (by norm_num)]
    push_cast
    ring
  · rename_i plain
    exact ⟨rfl, lt_of_le_of_ne (multipleOf_le_pow someNum someDen) plain⟩

variable (precise : bound.IsPrecise) (least : minExponent ≤ bound.exponent)
include precise least

/-- A fraction from a number of the format on is rounded to one from there on. -/
theorem le_of_nearest? (le : bound.magnitude ≤ (num : ℚ) / den) (rounded : nearest? negative num den = some x) :
    bound.magnitude ≤ x.magnitude := by
  rw [(magnitude_of_nearest? someNum someDen rounded).1]
  have unitPos : (0 : ℚ) < 2 ^ unitOf num den := zpow_pos (by norm_num) _
  rcases le_or_gt (unitOf num den) bound.exponent with multiple | coarse
  · obtain ⟨n, same⟩ := bound.magnitude_eq_multiple multiple
    rw [same] at le ⊢
    have reached : (n : ℚ) ≤ multipleOf num den := by exact_mod_cast le_multipleOf someDen le
    gcongr
  · rcases (unitOf_between someNum someDen).2 with same | many
    · omega
    · have reached : 2 ^ 52 ≤ multipleOf num den := le_multipleOf someDen (by push_cast; exact many)
      have cast : (2 : ℚ) ^ 52 ≤ multipleOf num den := by exact_mod_cast reached
      exact (precise.magnitude_lt coarse).le.trans (by gcongr)

/-- A fraction up to a number of the format is rounded to one up to there. -/
theorem exists_nearest?_le (greatest : bound.exponent ≤ maxExponent) (le : (num : ℚ) / den ≤ bound.magnitude) :
    ∃ x, nearest? negative num den = some x ∧ x.magnitude ≤ bound.magnitude := by
  have unitPos : (0 : ℚ) < 2 ^ unitOf num den := zpow_pos (by norm_num) _
  have fine : unitOf num den ≤ bound.exponent := by
    by_contra coarse
    rcases (unitOf_between someNum someDen).2 with same | many
    · omega
    · linarith [precise.magnitude_lt (not_le.mp coarse)]
  obtain ⟨n, same⟩ := bound.magnitude_eq_multiple fine
  have reached : multipleOf num den ≤ n := multipleOf_le someDen (same ▸ le)
  have below : multipleOf num den * 2 ^ unitOf num den ≤ bound.magnitude := by
    have cast : (multipleOf num den : ℚ) ≤ n := by exact_mod_cast reached
    rw [same]
    gcongr
  -- a multiple of `2 ^ 53` units leaves room for one more power of two
  have carried : multipleOf num den = 2 ^ 53 → unitOf num den + 1 ≤ bound.exponent := by
    intro many
    by_contra full
    have least : bound.exponent = unitOf num den := by omega
    rw [magnitude, least, many] at below
    have mantissa : (bound.mantissa : ℚ) < 2 ^ 53 := by exact_mod_cast precise
    push_cast at below
    exact absurd (le_of_mul_le_mul_right below unitPos) (not_le.mpr mantissa)
  obtain ⟨x, rounded⟩ : ∃ x, nearest? negative num den = some x := by
    rw [nearest?_eq negative someNum]
    refine ⟨_, if_neg ?_⟩
    split
    · rename_i many
      exact not_lt.mpr ((carried many).trans greatest)
    · exact not_lt.mpr (fine.trans greatest)
  exact ⟨x, rounded, (magnitude_of_nearest? someNum someDen rounded).1 ▸ below⟩

end

/-- Rounding gives numbers of the format. -/
theorem isPrecise_of_nearest? {negative : Bool} {num den : Nat} {x : Binary64} (someDen : 0 < den)
    (rounded : nearest? negative num den = some x) : x.IsPrecise := by
  by_cases zero : num = 0
  · rw [nearest?, if_pos zero] at rounded
    cases rounded
    exact Nat.two_pow_pos 53
  · exact (magnitude_of_nearest? zero someDen rounded).2

/-- A decimal is rounded to a number with 53 bits at most. -/
theorem isPrecise_of_ofDecimal? {negative : Bool} {digits : Nat} {power : Int} {x : Binary64}
    (rounded : ofDecimal? negative digits power = some x) : x.IsPrecise := by
  unfold ofDecimal? at rounded
  simp only at rounded
  split at rounded
  · cases rounded
    exact Nat.two_pow_pos 53
  · obtain ⟨-, rounded⟩ := Option.ite_none_left_eq_some.mp rounded
    split at rounded
    · exact isPrecise_of_nearest? Nat.one_pos rounded
    · exact isPrecise_of_nearest? (Nat.pow_pos (by decide)) rounded

end Binary64

end Stepwise
