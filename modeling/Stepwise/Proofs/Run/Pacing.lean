import Stepwise.Proofs.Number.Rounding
import Stepwise.Run.Throttle

/-!
# Rates that can be kept

A throttle is accepted if its rate is finite and above zero. Its quota needs the time between two calls, which
is the reciprocal of the rate in seconds, and a span of time lasts less than `2 ^ 64` seconds. An accepted rate
has a quota exactly if its reciprocal is below that limit: rounding neither carries a reciprocal up to the limit
nor takes it below. So rates from `2 ^ -64` down are accepted and cannot be kept.
-/

set_option autoImplicit false

namespace Stepwise

open Throttle (secondsLimit)

/-! ## Reciprocals and the limit -/

namespace Binary64

/-- The limit of seconds, and the greatest number below it. -/
def secondsBound : Binary64 := ⟨false, 2 ^ 52, 12⟩
/-- The greatest binary64 number below the bound on seconds. -/
def greatestSeconds : Binary64 := ⟨false, 2 ^ 53 - 1, 11⟩

/-- The bound on seconds is exactly the least number of seconds that a duration cannot hold. -/
theorem magnitude_secondsBound : secondsBound.magnitude = secondsLimit := by
  norm_num [magnitude, secondsBound, secondsLimit]

/-- The greatest number below the bound is one part in 2^53 smaller. -/
theorem magnitude_greatestSeconds : greatestSeconds.magnitude = secondsLimit * (2 ^ 53 - 1) / 2 ^ 53 := by
  norm_num [magnitude, greatestSeconds, secondsLimit]

/-- A positive number has a positive magnitude. -/
theorem magnitude_pos {x : Binary64} (positive : x.isPositive = true) : 0 < x.magnitude := by
  simp only [isPositive, isZero, Bool.and_eq_true, Bool.not_eq_true', beq_eq_false_iff_ne] at positive
  have mantissa : (0 : ℚ) < x.mantissa := by exact_mod_cast Nat.pos_of_ne_zero positive.2
  exact mul_pos mantissa (zpow_pos (by norm_num) _)

/-- Times the limit, a number of the format is a whole number over another one. If it is more than one then, the
other one is below `2 ^ 53`. -/
theorem IsPrecise.exists_scaled {x : Binary64} (precise : x.IsPrecise) (more : 1 < secondsLimit * x.magnitude) :
    ∃ a b : Nat, 0 < b ∧ b < 2 ^ 53 ∧ secondsLimit * x.magnitude = a / b := by
  have scaled : secondsLimit * x.magnitude = x.mantissa * (2 : ℚ) ^ (x.exponent + 64) := by
    rw [magnitude, zpow_add₀ (by norm_num), secondsLimit]
    norm_num
    ring
  rcases Int.eq_nat_or_neg (x.exponent + 64) with ⟨n, whole | part⟩
  · exact ⟨x.mantissa * 2 ^ n, 1, Nat.one_pos, by norm_num, by rw [scaled, whole]; push_cast; simp⟩
  · have divided : secondsLimit * x.magnitude = x.mantissa / 2 ^ n := by
      rw [scaled, part, zpow_neg, zpow_natCast, div_eq_mul_inv]
    refine ⟨x.mantissa, 2 ^ n, by positivity, ?_, by rw [divided]; push_cast; rfl⟩
    rw [divided, one_lt_div₀ (by positivity)] at more
    have exceeds : 2 ^ n < x.mantissa := by exact_mod_cast more
    exact exceeds.trans precise

/-- No number of the format has a reciprocal between the greatest number below the limit and the limit. -/
theorem IsPrecise.inv_le {x : Binary64} (precise : x.IsPrecise) (positive : 0 < x.magnitude)
    (below : x.magnitude⁻¹ < secondsLimit) : x.magnitude⁻¹ ≤ greatestSeconds.magnitude := by
  have more : 1 < secondsLimit * x.magnitude := (inv_lt_iff_one_lt_mul₀ positive).mp below
  obtain ⟨a, b, some_b, small, scaled⟩ := precise.exists_scaled more
  have castPos : (0 : ℚ) < b := by exact_mod_cast some_b
  rw [scaled, one_lt_div₀ castPos] at more
  have exceeds : (b : ℚ) + 1 ≤ a := by exact_mod_cast more
  have smallCast : (b : ℚ) + 1 ≤ 2 ^ 53 := by exact_mod_cast small
  -- the denominator is below `2 ^ 53`, so that the quotient exceeds one by more than the last place
  have gap : (b : ℚ) * 2 ^ 53 ≤ a * (2 ^ 53 - 1) := by linarith
  rw [inv_le_iff_one_le_mul₀ positive, magnitude_greatestSeconds]
  calc (1 : ℚ) ≤ a * (2 ^ 53 - 1) / (b * 2 ^ 53) := (one_le_div₀ (by positivity)).mpr gap
    _ = secondsLimit * x.magnitude * (2 ^ 53 - 1) / 2 ^ 53 := by
        rw [scaled]
        ring
    _ = secondsLimit * (2 ^ 53 - 1) / 2 ^ 53 * x.magnitude := by ring

end Binary64

namespace Throttle

open Binary64

section

variable {rate : Binary64}

/-- There is a time between calls exactly if the reciprocal of the rate is rounded to a number below the limit. -/
theorem interval?_isSome_iff : (interval? rate).isSome = true ↔
    ∃ seconds, rate.reciprocal? = some seconds ∧ seconds.magnitude < secondsLimit := by
  have below_iff : ∀ seconds : Binary64, seconds.fraction.1 < secondsLimit * seconds.fraction.2 ↔
      seconds.magnitude < secondsLimit := by
    intro seconds
    have castPos : (0 : ℚ) < seconds.fraction.2 := by exact_mod_cast seconds.fraction_snd_pos
    rw [← fraction_eq, div_lt_iff₀ castPos]
    exact_mod_cast Iff.rfl
  unfold interval?
  cases rate.reciprocal? with
  | none => simp
  | some seconds =>
    simp only [Option.bind_some, Option.some.injEq, exists_eq_left', ← below_iff]
    split <;> simp_all

/-- Rounding makes no difference to whether the time between calls is below the limit. -/
theorem interval?_isSome_iff_inv_lt (precise : rate.IsPrecise) (positive : rate.isPositive = true) :
    (interval? rate).isSome = true ↔ rate.magnitude⁻¹ < secondsLimit := by
  have above := magnitude_pos positive
  have inverse : (rate.fraction.2 : ℚ) / rate.fraction.1 = rate.magnitude⁻¹ := by rw [← fraction_eq, inv_div]
  have someNum : rate.fraction.2 ≠ 0 := rate.fraction_snd_pos.ne'
  have someDen : 0 < rate.fraction.1 := by
    by_contra none
    rw [← fraction_eq, Nat.eq_zero_of_not_pos none] at above
    simp at above
  rw [interval?_isSome_iff]
  -- the limit and the greatest number below it are numbers of the format, which rounding does not pass
  constructor
  · rintro ⟨seconds, rounded, below⟩
    by_contra beyond
    have bound : secondsBound.magnitude ≤ (rate.fraction.2 : ℚ) / rate.fraction.1 := by
      rw [inverse, magnitude_secondsBound]
      exact not_lt.mp beyond
    have reached := le_of_nearest? someNum someDen (by norm_num [IsPrecise, secondsBound])
      (by decide) bound rounded
    rw [magnitude_secondsBound] at reached
    exact absurd below (not_lt.mpr reached)
  · intro below
    have bound : (rate.fraction.2 : ℚ) / rate.fraction.1 ≤ greatestSeconds.magnitude := by
      rw [inverse]
      exact precise.inv_le above below
    have exact : ∃ seconds, nearest? false rate.fraction.2 rate.fraction.1 = some seconds ∧
        seconds.magnitude ≤ greatestSeconds.magnitude :=
      exists_nearest?_le someNum someDen (by norm_num [IsPrecise, greatestSeconds]) (by decide) (by decide)
        bound
    obtain ⟨seconds, rounded, le⟩ := exact
    refine ⟨seconds, rounded, le.trans_lt ?_⟩
    rw [magnitude_greatestSeconds]
    norm_num [secondsLimit]

end

/-! ## Accepted rates -/

/-- What a rate may be read from has the precision of the format. -/
def ReadsPrecisely (value : Value) (defaultRate : Option Text.Real) : Prop :=
  (∀ fields x, value = .record fields → Table.get? fields "rps" = some (.number (.real x)) → x.IsPrecise) ∧
    ∀ x, defaultRate = some (.finite x) → x.IsPrecise

/-- A number that is read from a text has 53 bits at most. -/
theorem isPrecise_of_real? {text : List Char} {x : Binary64} (read : Text.real? text = some (.finite x)) :
    x.IsPrecise := by
  have unsigned : ∀ {negative : Bool} {text : List Char},
      Text.unsignedReal? negative text = some (.finite x) → x.IsPrecise := by
    intro negative text read
    unfold Text.unsignedReal? at read
    simp only at read
    split at read
    · cases read
    split at read
    · cases read
    split at read
    · rename_i digits places power _ _
      cases rounded : ofDecimal? negative digits (places + power) with
      | none =>
        rw [rounded] at read
        cases read
      | some y =>
        rw [rounded] at read
        cases read
        exact isPrecise_of_ofDecimal? rounded
    · cases read
  unfold Text.real? at read
  split at read <;> exact unsigned read

/-- So has a number read from a value, if the value's own number has. -/
theorem isPrecise_of_number? {value : Value} {x : Binary64} (given : ∀ y, value = .number (.real y) → y.IsPrecise)
    (read : number? value = some (.finite x)) : x.IsPrecise := by
  unfold number? at read
  split at read
  · rename_i n
    cases rounded : nearest? (n < 0) n.natAbs 1 with
    | none =>
      rw [rounded] at read
      cases read
    | some y =>
      rw [rounded] at read
      cases read
      exact isPrecise_of_nearest? Nat.one_pos rounded
  · cases read
    exact given _ rfl
  · exact isPrecise_of_real? read
  · cases read

section

variable {value : Value} {defaultKey : String} {defaultRate : Option Text.Real} {throttle : Throttle}

/-- An accepted rate is the one that was read, and above zero. -/
theorem rate_of_ofValue (accepted : ofValue value defaultKey defaultRate = .ok (some throttle)) :
    ∃ fields, value = .record fields ∧ rate? fields defaultRate = .ok (some (.finite throttle.rate)) ∧
      throttle.rate.isPositive = true := by
  unfold ofValue at accepted
  split at accepted
  · rename_i fields
    refine ⟨fields, rfl, ?_⟩
    split at accepted
    · cases accepted
    · cases accepted
    · rename_i rate read
      split at accepted
      · rename_i positive
        cases accepted
        exact ⟨read, positive⟩
      · cases accepted
    · cases accepted
  · cases accepted

/-- So has the rate of a throttle that was accepted. -/
theorem isPrecise_rate (precise : ReadsPrecisely value defaultRate)
    (accepted : ofValue value defaultKey defaultRate = .ok (some throttle)) : throttle.rate.IsPrecise := by
  obtain ⟨fields, rfl, read, -⟩ := rate_of_ofValue accepted
  unfold rate? at read
  split at read
  · exact precise.2 _ (by simpa using read)
  · exact precise.2 _ (by simpa using read)
  · rename_i found _ given
    split at read
    · rename_i rate number
      cases read
      exact isPrecise_of_number? (fun y same => precise.1 fields y rfl (same ▸ given)) number
    · cases read

/-- An accepted throttle has a rate above zero and lets a call through at least. It has a quota exactly if the
reciprocal of its rate is below the limit of seconds, and that is the quota its limiter keeps to. -/
theorem quota?_of_ofValue (precise : ReadsPrecisely value defaultRate)
    (accepted : ofValue value defaultKey defaultRate = .ok (some throttle)) :
    0 < throttle.rate.magnitude ∧ 1 ≤ throttle.quota.burst ∧
      throttle.quota? = if throttle.rate.magnitude⁻¹ < secondsLimit then some throttle.quota else none := by
  obtain ⟨-, -, -, positive⟩ := rate_of_ofValue accepted
  have timed := interval?_isSome_iff_inv_lt (isPrecise_rate precise accepted) positive
  refine ⟨magnitude_pos positive, le_max_left _ _, ?_⟩
  rw [quota?, quota, intervalOf]
  cases paced : interval? throttle.rate with
  | none =>
    rw [if_neg fun below => by simpa [paced] using timed.mpr below]
    rfl
  | some interval =>
    rw [if_pos (timed.mp (by simp [paced]))]
    rfl

end

/-- A throttle of a slow rate that was given, without an allowance and a key. -/
def slowThrottle (rate : Binary64) : Throttle := ⟨rate, defaultBurst, "calls"⟩

/-- A throttle parameter with a rate. -/
def slowParam (rate : Binary64) : Value := .record [("rps", .number (.real rate))]

/-- The parameter that gives a rate with 53 bits at most is read so. -/
theorem readsPrecisely_slowParam {rate : Binary64} (precise : rate.IsPrecise) :
    ReadsPrecisely (slowParam rate) none := by
  refine ⟨?_, nofun⟩
  rintro fields x same given
  cases same
  cases given
  exact precise

/-- The numbers nearest to a thousandth and to `10 ^ -20`. -/
def thousandth : Binary64 := ⟨false, 4611686018427388, -62⟩
/-- The binary64 number nearest to 1e-20, a rate with less than one turn in 2^64 seconds. -/
def tooSlow : Binary64 := ⟨false, 6646139978924579, -119⟩

/-- A call in a thousand seconds is a rate that can be kept. -/
theorem quota?_of_ofValue_trial :
    ReadsPrecisely (slowParam thousandth) none ∧
      ofValue (slowParam thousandth) "calls" none = .ok (some (slowThrottle thousandth)) ∧
      (slowThrottle thousandth).quota? = some ⟨Nat.pow 10 12, 3⟩ := by
  have precise : ReadsPrecisely (slowParam thousandth) none :=
    readsPrecisely_slowParam (by norm_num [IsPrecise, thousandth])
  have accepted : ofValue (slowParam thousandth) "calls" none = .ok (some (slowThrottle thousandth)) := rfl
  have below : (slowThrottle thousandth).rate.magnitude⁻¹ < secondsLimit := by
    norm_num [magnitude, slowThrottle, thousandth, secondsLimit]
  have kept := (quota?_of_ofValue precise accepted).2.2
  rw [if_pos below] at kept
  exact ⟨precise, accepted, kept.trans (by decide +kernel)⟩

/-- A call in `10 ^ 20` seconds is a rate that is accepted and cannot be kept. -/
theorem quota?_tooSlow :
    ReadsPrecisely (slowParam tooSlow) none ∧
      ofValue (slowParam tooSlow) "calls" none = .ok (some (slowThrottle tooSlow)) ∧
      secondsLimit ≤ (slowThrottle tooSlow).rate.magnitude⁻¹ ∧ (slowThrottle tooSlow).quota? = none := by
  refine ⟨readsPrecisely_slowParam (by norm_num [IsPrecise, tooSlow]), rfl, ?_, by decide +kernel⟩
  norm_num [magnitude, slowThrottle, tooSlow, secondsLimit]

end Throttle

end Stepwise
