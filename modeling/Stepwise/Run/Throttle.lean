import Stepwise.Value.Reading

/-!
# Throttles

A throttle lets calls of one key through at a steady rate, after an allowance of calls back to back. Each key
has a limiter of its own, which is asked until it admits the call. What is said of limiters by key holds of
every kind of limiter; those of a run keep a pace: they remember when the next call would be due if calls
came evenly, and a call is early when it comes more than the allowance before that. Times are whole
nanoseconds.
-/

set_option autoImplicit false

namespace Stepwise

/-- One call every `interval` nanoseconds, with `burst` calls back to back at most. -/
structure Quota where
  interval : Nat
  burst : Nat
deriving DecidableEq, Repr

/-- The rate, the allowance and the key that a step asks for. -/
structure Throttle where
  rate : Binary64
  burst : Nat
  key : String
deriving DecidableEq, Repr

namespace Throttle

/-- The allowance when none is given. -/
def defaultBurst : Nat := 3

/-- The greatest allowance. -/
def maxBurst : Nat := Nat.pow 2 32 - 1

/-- The first number of seconds that a span of time is too short for: its seconds are counted in 64 bits. -/
def secondsLimit : Nat := Nat.pow 2 64

/-- The time between calls at a positive rate: its reciprocal in seconds, to the nearest nanosecond. There is
none if the reciprocal is more than a span of time can last. -/
def interval? (rate : Binary64) : Option Nat :=
  rate.reciprocal?.bind fun seconds =>
    if seconds.fraction.1 < secondsLimit * seconds.fraction.2 then
      some (roundDiv (seconds.fraction.1 * Nat.pow 10 9) seconds.fraction.2)
    else none

/-- The quota of a throttle. There is none for a rate without a time between calls, and the program goes no
further. -/
def quota? (throttle : Throttle) : Option Quota :=
  (interval? throttle.rate).map fun interval => ⟨interval, max 1 throttle.burst⟩

/-- The time between calls that limiters go by. Where no span of time lasts as long as the reciprocal of the
rate, there is no quota, and the program goes no further (`quota?`). Limiters are given the exact reciprocal
there, so that what is said of them, and of the actions and runs that ask them, says nothing of the program for
such a rate. -/
def intervalOf (rate : Binary64) : Nat :=
  (interval? rate).getD (roundDiv (rate.fraction.2 * Nat.pow 10 9) rate.fraction.1)

/-- The quota that a limiter keeps to: that of its throttle, if it has one. -/
def quota (throttle : Throttle) : Quota := ⟨intervalOf throttle.rate, max 1 throttle.burst⟩

/-- How long a refused call waits before it asks again: until it would be admitted, and a millisecond at
least. -/
def pause (earliest now : Nat) : Nat := max (earliest - now) (Nat.pow 10 6)

/-- Why a throttle parameter is no throttle. -/
inductive Fault where
  | notRecord
  | notNumber (found : Value)
  | notPositive

/-- The number that a value stands for as a rate. -/
def number? : Value → Option Text.Real
  | .number (.whole n) =>
    some (((Binary64.nearest? (n < 0) n.natAbs 1).map Text.Real.finite).getD (.infinite (n < 0)))
  | .number (.real x) => some (.finite x)
  | .text s => Text.real? (Text.trim s.toList)
  | _ => none

/-- The rate of a throttle: the one given, else the default. -/
def rate? (fields : Fields) (default : Option Text.Real) : Except Fault (Option Text.Real) :=
  match Table.get? fields "rps" with
  | none => .ok default
  | some .null => .ok default
  | some found =>
    match number? found with
    | some rate => .ok (some rate)
    | none => .error (.notNumber found)

/-- The throttle that a value describes: a record with a rate, an allowance and a key, each of which
may be left out. There is none without a rate; the rate has to be finite and above zero, and the
allowance is raised to one. -/
def ofValue (value : Value) (defaultKey : String) (defaultRate : Option Text.Real) :
    Except Fault (Option Throttle) :=
  match value with
  | .record fields =>
    match rate? fields defaultRate with
    | .error fault => .error fault
    | .ok none => .ok none
    | .ok (some (.finite rate)) =>
      if rate.isPositive then
        let burst := ((Table.get? fields "burst").bind Value.asCount?).getD defaultBurst
        let key := ((Table.get? fields "key").bind Value.asText?).filter (!·.isEmpty)
        .ok (some ⟨rate, max 1 (min burst maxBurst), key.getD defaultKey⟩)
      else .error .notPositive
    | .ok (some _) => .error .notPositive
  | _ => .error .notRecord

end Throttle

/-- How limiters of one kind work: the state of a fresh one, and what becomes of a call that is asked for at a
time. It is admitted, or else the time is given from which it will be; the state afterwards comes in both
cases. -/
structure Metering where
  State : Type
  fresh : Quota → State
  check : State → Nat → Except Nat Unit × State

/-- A quota in use: when the next call is due, once there was one. -/
structure Pace where
  quota : Quota
  due : Option Nat
deriving DecidableEq, Repr

/-- Asks for a call at a time. One that is refused leaves the pace as it was. -/
def Pace.check (pace : Pace) (now : Nat) : Except Nat Unit × Pace :=
  let due := pace.due.getD now
  let earliest := due - pace.quota.interval * (pace.quota.burst - 1)
  if now < earliest then (.error earliest, pace)
  else (.ok (), { pace with due := some (max due now + pace.quota.interval) })

/-- Limiters that keep a pace. -/
def Metering.paced : Metering := ⟨Pace, fun quota => ⟨quota, none⟩, Pace.check⟩

/-- What comes of a call that is held back: how long it has to wait each time that it is refused, and whether
it is admitted in the end. -/
structure Admission where
  waits : List Nat
  admitted : Bool
deriving DecidableEq, Repr

variable {metering : Metering}

/-- A limiter in use, and the quota that it was made for. -/
structure Limiter (metering : Metering) where
  quota : Quota
  state : metering.State

namespace Limiter

/-- A limiter that was not asked yet. -/
def fresh (metering : Metering) (quota : Quota) : Limiter metering := ⟨quota, metering.fresh quota⟩

/-- Asks for a call at a time. -/
def ask (limiter : Limiter metering) (now : Nat) : Except Nat Unit × Limiter metering :=
  let (answer, state) := metering.check limiter.state now
  (answer, { limiter with state })

/-- Asks for a call at one time after another until it is admitted. -/
def poll (limiter : Limiter metering) : List Nat → Admission × Limiter metering
  | [] => (⟨[], false⟩, limiter)
  | now :: later =>
    match limiter.ask now with
    | (.ok (), asked) => (⟨[], true⟩, asked)
    | (.error earliest, asked) =>
      let (admission, after) := asked.poll later
      (⟨Throttle.pause earliest now :: admission.waits, admission.admitted⟩, after)

end Limiter

/-- Limiters of one kind by key. -/
abbrev LimitersOf (metering : Metering) : Type := Table (Limiter metering)

namespace LimitersOf

/-- The limiter of a throttle's key: the one in use if its quota is the same, else a fresh one. -/
def current (limiters : LimitersOf metering) (throttle : Throttle) : Limiter metering :=
  match Table.get? limiters throttle.key with
  | some limiter => if limiter.quota = throttle.quota then limiter else .fresh metering throttle.quota
  | none => .fresh metering throttle.quota

/-- Asks the limiter of a throttle's key for a call. The limiters come back in both cases, since a
fresh limiter stays. -/
def ask (limiters : LimitersOf metering) (throttle : Throttle) (now : Nat) :
    Except Nat Unit × LimitersOf metering :=
  let (answer, limiter) := (limiters.current throttle).ask now
  (answer, Table.put limiters throttle.key limiter)

/-- Holds a call back until the limiter of the throttle's key admits it, which is asked at the given
times. -/
def acquire (limiters : LimitersOf metering) (throttle : Throttle) (times : List Nat) :
    Admission × LimitersOf metering :=
  let (admission, limiter) := (limiters.current throttle).poll times
  (admission, Table.put limiters throttle.key limiter)

end LimitersOf

/-- The limiters of a run. They keep a pace, which is one kind of metering; how calls are told apart by key is
the same for every kind. -/
abbrev Limiters : Type := LimitersOf .paced

end Stepwise
