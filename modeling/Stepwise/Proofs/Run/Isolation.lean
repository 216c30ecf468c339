import Mathlib.Data.List.Dedup
import Stepwise.Proofs.Action.Frame

/-!
# Throttles keep to themselves

Calls come one after another, each with a throttle and the times at which it asks to be admitted, and one
table holds the limiters of all keys. What a limiter does is left open: it has a state of its own, and checks
the time against it. The limiter that serves a call depends on what the table holds under the key of the call
and on nothing else, and a call changes nothing under other keys. So calls of one key are answered as if there
were no others, and a change of the quota leaves nothing of what was before.
-/

set_option autoImplicit false

namespace Stepwise

variable {metering : Metering}

/-- A call that is held back: it asks a first time, and again as long as it is refused. -/
structure Attempt where
  throttle : Throttle
  first : Nat
  later : List Nat
deriving DecidableEq, Repr

namespace Attempt

/-- The times at which a call asks, unless it is admitted before. -/
def times (attempt : Attempt) : List Nat := attempt.first :: attempt.later

/-- The calls of a key. -/
def ofKey (key : String) (attempts : List Attempt) : List Attempt :=
  attempts.filter fun attempt => attempt.throttle.key = key

end Attempt

open Attempt

/-! ## One limiter -/

namespace Limiter

/-- What one limiter answers to calls. -/
def serve (limiter : Limiter metering) : List Attempt → List (Attempt × Admission)
  | [] => []
  | attempt :: rest =>
    let (admission, after) := limiter.poll attempt.times
    (attempt, admission) :: after.serve rest

/-- Polling a limiter leaves its quota as it was. -/
@[simp] theorem quota_poll (limiter : Limiter metering) (times : List Nat) :
    (limiter.poll times).2.quota = limiter.quota := by
  induction times generalizing limiter with
  | nil => rfl
  | cons now later ih =>
    unfold poll
    rcases asked_eq : limiter.ask now with ⟨answer, asked⟩
    have kept : (limiter.ask now).2.quota = limiter.quota := rfl
    rw [asked_eq] at kept
    cases answer with
    | ok => exact kept
    | error earliest => exact (ih asked).trans kept

end Limiter

/-! ## The limiters of all keys -/

namespace LimitersOf

variable {limiters others : LimitersOf metering} {key : String} {throttle : Throttle}

/-- The table without limiters. -/
def start (metering : Metering) : LimitersOf metering := []

/-- The answers to calls, and the limiters after them. -/
def serve (limiters : LimitersOf metering) : List Attempt → List (Attempt × Admission) × LimitersOf metering
  | [] => ([], limiters)
  | attempt :: rest =>
    let (admission, limiters) := limiters.acquire attempt.throttle attempt.times
    let (served, limiters) := limiters.serve rest
    ((attempt, admission) :: served, limiters)

/-- The limiter that serves a throttle was made for its quota. -/
@[simp] theorem quota_current (limiters : LimitersOf metering) (throttle : Throttle) :
    (limiters.current throttle).quota = throttle.quota := by
  unfold current
  split
  · split
    · assumption
    · rfl
  · rfl

/-- Only what is under the key of a throttle matters for the limiter that serves it. -/
theorem current_congr (same : Table.get? limiters throttle.key = Table.get? others throttle.key) :
    limiters.current throttle = others.current throttle := by
  unfold current
  rw [same]

/-- The limiter a throttle is served by is the one stored under its key, as long as the quota is the
same. -/
theorem current_of_get? {limiter : Limiter metering}
    (found : Table.get? limiters throttle.key = some limiter) (same : limiter.quota = throttle.quota) :
    limiters.current throttle = limiter := by
  unfold current
  rw [found]
  simp [same]

/-- A throttle whose quota changed is served by a fresh limiter. -/
theorem current_of_quota_ne {limiter : Limiter metering}
    (found : Table.get? limiters throttle.key = some limiter) (changed : limiter.quota ≠ throttle.quota) :
    limiters.current throttle = .fresh metering throttle.quota := by
  unfold current
  rw [found]
  simp [changed]

/-- At the start every throttle is served by a fresh limiter. -/
theorem current_start (throttle : Throttle) :
    (start metering).current throttle = .fresh metering throttle.quota := rfl

/-- After an attempt the key's limiter is the one that served it, polled at the times of the
attempt. -/
theorem get?_acquire_self (limiters : LimitersOf metering) (throttle : Throttle) (times : List Nat) :
    Table.get? (limiters.acquire throttle times).2 throttle.key =
      some ((limiters.current throttle).poll times).2 :=
  Table.get?_put_self _ _ _

/-- An attempt on one key leaves the limiter of every other key as it was. -/
theorem get?_acquire_of_ne (limiters : LimitersOf metering) {throttle : Throttle} (times : List Nat)
    (distinct : key ≠ throttle.key) :
    Table.get? (limiters.acquire throttle times).2 key = Table.get? limiters key :=
  Table.get?_put_of_ne _ _ distinct

/-! ## Calls of one key -/

/-- Every attempt is served once, in its order. -/
@[simp] theorem map_fst_serve (limiters : LimitersOf metering) (attempts : List Attempt) :
    (limiters.serve attempts).1.map Prod.fst = attempts := by
  induction attempts generalizing limiters with
  | nil => rfl
  | cons attempt rest ih => simp [serve, ih]

/-- Attempts served after others are served from the limiters the others left. -/
theorem serve_append (limiters : LimitersOf metering) (front back : List Attempt) :
    limiters.serve (front ++ back) =
      ((limiters.serve front).1 ++ ((limiters.serve front).2.serve back).1,
        ((limiters.serve front).2.serve back).2) := by
  induction front generalizing limiters with
  | nil => rfl
  | cons attempt rest ih => simp [serve, ih]

/-- The answers to the calls of a key depend on what is under the key, and not on the other calls. -/
theorem filter_serve (same : Table.get? limiters key = Table.get? others key) (attempts : List Attempt) :
    ((limiters.serve attempts).1.filter fun call => call.1.throttle.key = key) =
      (others.serve (ofKey key attempts)).1 := by
  -- by induction on the calls: the tables stay the same under the key, whatever the calls of other keys do
  induction attempts generalizing limiters others with
  | nil => rfl
  | cons attempt rest ih =>
    by_cases own : attempt.throttle.key = key
    · have served : limiters.current attempt.throttle = others.current attempt.throttle := by
        apply current_congr
        rw [own, same]
      have after : Table.get? (limiters.acquire attempt.throttle attempt.times).2 key =
          Table.get? (others.acquire attempt.throttle attempt.times).2 key := by
        rw [← own, get?_acquire_self, get?_acquire_self, served]
      have answer : (limiters.acquire attempt.throttle attempt.times).1 =
          (others.acquire attempt.throttle attempt.times).1 := by
        simp [acquire, served]
      have first : ofKey key (attempt :: rest) = attempt :: ofKey key rest := by simp [ofKey, own]
      rw [first]
      simp only [serve, List.filter_cons, own, decide_true, if_true, ih after, answer]
    · have after : Table.get? (limiters.acquire attempt.throttle attempt.times).2 key =
          Table.get? others key := by
        rw [get?_acquire_of_ne limiters attempt.times (Ne.symm own), same]
      have first : ofKey key (attempt :: rest) = ofKey key rest := by simp [ofKey, own]
      rw [first]
      simp only [serve, List.filter_cons, own, decide_false, Bool.false_eq_true, if_false, ih after]

variable {attempts : List Attempt}

/-- Calls of one key are answered alike by tables that are alike under the key. -/
theorem serve_congr (own : ∀ attempt ∈ attempts, attempt.throttle.key = key)
    (same : Table.get? limiters key = Table.get? others key) :
    (limiters.serve attempts).1 = (others.serve attempts).1 := by
  have all : ofKey key attempts = attempts := List.filter_eq_self.mpr (by simpa using own)
  have answers := filter_serve same attempts
  rw [all] at answers
  rw [← answers, List.filter_eq_self.mpr]
  intro call member
  have among : call.1 ∈ attempts := by
    rw [← map_fst_serve limiters attempts]
    exact List.mem_map_of_mem member
  simpa using own call.1 among

/-- Calls of one key are answered alike by tables in which the same limiter serves the first of them. -/
theorem serve_congr_current {next : Attempt} (own : ∀ attempt ∈ attempts, attempt.throttle.key = next.throttle.key)
    (same : limiters.current next.throttle = others.current next.throttle) :
    (limiters.serve (next :: attempts)).1 = (others.serve (next :: attempts)).1 := by
  have answer : (limiters.acquire next.throttle next.times).1 = (others.acquire next.throttle next.times).1 := by
    simp [acquire, same]
  have after : Table.get? (limiters.acquire next.throttle next.times).2 next.throttle.key =
      Table.get? (others.acquire next.throttle next.times).2 next.throttle.key := by
    rw [get?_acquire_self, get?_acquire_self, same]
  simp only [serve, answer, serve_congr own after]

/-- Behind a call with another quota, a call is answered as the first on a new limiter, and so are those of
its key that come after it. -/
theorem serve_append_of_quota_ne {front back : List Attempt}
    (own : ∀ attempt ∈ front ++ back, attempt.throttle.key = key)
    (changed : ∀ last ∈ front.getLast?, ∀ next ∈ back.head?, last.throttle.quota ≠ next.throttle.quota) :
    ((start metering).serve (front ++ back)).1 =
      ((start metering).serve front).1 ++ ((start metering).serve back).1 := by
  have restarted : (((start metering).serve front).2.serve back).1 = ((start metering).serve back).1 := by
    rcases List.eq_nil_or_concat front with rfl | ⟨earlier, last, rfl⟩
    · rfl
    · cases back with
      | nil => rfl
      | cons next rest =>
        have nextOwn : next.throttle.key = key := own next (by simp)
        have lastOwn : last.throttle.key = key := own last (by simp)
        have differs : last.throttle.quota ≠ next.throttle.quota := changed last (by simp) next (by simp)
        -- the limiter that the last call leaves under the key is one for that call's quota
        have left := get?_acquire_self ((start metering).serve earlier).2 last.throttle last.times
        rw [lastOwn, ← nextOwn] at left
        have fresh := current_of_quota_ne left (by simpa using differs)
        apply serve_congr_current
        · intro attempt member
          rw [nextOwn]
          exact own attempt (by simp [member])
        · rw [List.concat_eq_append, serve_append, current_start]
          exact fresh
  rw [serve_append, restarted]

/-- Calls of one key and one quota are answered by one limiter. -/
theorem serve_eq_limiter {quota : Quota} {limiter : Limiter metering}
    (own : ∀ attempt ∈ attempts, attempt.throttle.key = key)
    (even : ∀ attempt ∈ attempts, attempt.throttle.quota = quota)
    (serves : ∀ throttle : Throttle, throttle.key = key → throttle.quota = quota →
      limiters.current throttle = limiter) :
    (limiters.serve attempts).1 = limiter.serve attempts := by
  induction attempts generalizing limiters limiter with
  | nil => rfl
  | cons attempt rest ih =>
    have ownFirst := own attempt (by simp)
    have evenFirst := even attempt (by simp)
    have served := serves attempt.throttle ownFirst evenFirst
    have left : Table.get? (limiters.acquire attempt.throttle attempt.times).2 key =
        some (limiter.poll attempt.times).2 := by
      rw [← ownFirst, get?_acquire_self, served]
    have quota_eq : limiter.quota = quota := by rw [← served, quota_current, evenFirst]
    have serves_rest : ∀ throttle : Throttle, throttle.key = key → throttle.quota = quota →
        (limiters.acquire attempt.throttle attempt.times).2.current throttle = (limiter.poll attempt.times).2 := by
      intro throttle sameKey sameQuota
      apply current_of_get?
      · rw [sameKey, left]
      · rw [Limiter.quota_poll, quota_eq, sameQuota]
    have later := ih (fun other member => own other (List.mem_cons_of_mem attempt member))
      (fun other member => even other (List.mem_cons_of_mem attempt member)) serves_rest
    have answer : (limiters.acquire attempt.throttle attempt.times).1 = (limiter.poll attempt.times).1 := by
      simp [acquire, served]
    simp only [serve, Limiter.serve, later, answer]

/-! ## Counting limiters -/

/-- The limiters stay in the order of their keys. -/
theorem sorted_serve (sorted : Table.Sorted limiters) (attempts : List Attempt) :
    Table.Sorted (limiters.serve attempts).2 := by
  induction attempts generalizing limiters with
  | nil => exact sorted
  | cons attempt rest ih => exact ih (Table.sorted_put sorted _ _)

/-- A key has a limiter when it had one before or one of the attempts was on it. -/
theorem mem_names_serve (limiters : LimitersOf metering) (attempts : List Attempt) :
    key ∈ Table.names (limiters.serve attempts).2 ↔
      key ∈ Table.names limiters ∨ key ∈ attempts.map (·.throttle.key) := by
  induction attempts generalizing limiters with
  | nil => simp [serve]
  | cons attempt rest ih =>
    have first : key ∈ Table.names (limiters.acquire attempt.throttle attempt.times).2 ↔
        key = attempt.throttle.key ∨ key ∈ Table.names limiters := by
      rw [Table.mem_names_iff, Table.mem_names_iff]
      by_cases own : key = attempt.throttle.key
      · rw [own, get?_acquire_self]
        simp
      · rw [get?_acquire_of_ne limiters attempt.times own]
        simp [own]
    simp only [serve, ih, first, List.map_cons, List.mem_cons]
    tauto

/-- From the start there are as many limiters as keys that were attempted. -/
theorem length_serve (metering : Metering) (attempts : List Attempt) :
    ((start metering).serve attempts).2.length = (attempts.map (·.throttle.key)).dedup.length := by
  have empty : Table.Sorted (start metering) := List.Pairwise.nil
  have sorted := sorted_serve empty attempts
  have distinct : (Table.names ((start metering).serve attempts).2).Nodup :=
    sorted.imp fun before => Std.ne_of_lt before
  have perm : (Table.names ((start metering).serve attempts).2).Perm (attempts.map (·.throttle.key)).dedup := by
    refine (List.perm_ext_iff_of_nodup distinct (List.nodup_dedup _)).mpr fun key => ?_
    rw [mem_names_serve, List.mem_dedup]
    simp [start, Table.names]
  simpa [Table.names] using perm.length_eq

end LimitersOf

/-! ## Waiting in a run -/

namespace LimitersOf

variable (limiters : LimitersOf metering) (throttle : Throttle) (now : Nat)

/-- The limiter that was asked is the one that serves the throttle next. -/
theorem current_ask :
    (limiters.ask throttle now).2.current throttle = ((limiters.current throttle).ask now).2 :=
  current_of_get? (Table.get?_put_self _ _ _) (quota_current limiters throttle)

/-- An attempt after a question polls the limiter that was asked. -/
theorem acquire_ask (later : List Nat) :
    (limiters.ask throttle now).2.acquire throttle later =
      ((((limiters.current throttle).ask now).2.poll later).1,
        Table.put limiters throttle.key (((limiters.current throttle).ask now).2.poll later).2) := by
  unfold acquire
  rw [current_ask]
  simp only [ask, Table.put_put]

/-- Who was just refused and does not ask again leaves the limiters as they are. -/
theorem acquire_nil : ((limiters.ask throttle now).2.acquire throttle []).2 = (limiters.ask throttle now).2 := by
  rw [acquire_ask]
  rfl

variable {limiters throttle now}

/-- An attempt that is admitted at once waits for nothing, whatever times would come later. -/
theorem acquire_of_admitted {asked : LimitersOf metering}
    (admitted : limiters.ask throttle now = (.ok (), asked)) (later : List Nat) :
    limiters.acquire throttle (now :: later) = (⟨[], true⟩, asked) := by
  unfold ask at admitted
  rcases first : (limiters.current throttle).ask now with ⟨answer, limiter⟩
  rw [first] at admitted
  cases admitted
  simp [acquire, Limiter.poll, first]

/-- Who was refused asks again, and has waited so much longer. -/
theorem acquire_of_refused {asked : LimitersOf metering} {earliest : Nat}
    (refused : limiters.ask throttle now = (.error earliest, asked)) (later : List Nat) :
    limiters.acquire throttle (now :: later) =
      (⟨Throttle.pause earliest now :: (asked.acquire throttle later).1.waits,
        (asked.acquire throttle later).1.admitted⟩, (asked.acquire throttle later).2) := by
  have again := acquire_ask limiters throttle now later
  rw [refused] at again
  rw [again]
  unfold ask at refused
  rcases first : (limiters.current throttle).ask now with ⟨answer, limiter⟩
  rw [first] at refused
  cases refused
  simp [acquire, Limiter.poll, first]

end LimitersOf

/-- A call that paced limiters refuse is admitted from the time on that is given. -/
theorem Pace.check_of_refused {pace after : Pace} {now earliest later : Nat}
    (refused : pace.check now = (.error earliest, after)) (reached : earliest ≤ later) :
    (after.check later).1 = .ok () := by
  unfold check at refused
  dsimp only at refused
  split at refused
  · rename_i early
    simp only [Prod.mk.injEq, Except.error.injEq] at refused
    obtain ⟨rfl, rfl⟩ := refused
    cases due_eq : pace.due with
    | none =>
      -- a pace without a due call refuses none
      rw [due_eq, Option.getD_none] at early
      omega
    | some due =>
      rw [due_eq, Option.getD_some] at reached
      simp [check, due_eq, Nat.not_lt.mpr reached]
  · cases refused

/-- A throttle whose call was refused is admitted from the time on that is given. -/
theorem Limiters.ask_of_refused {limiters asked : Limiters} {throttle : Throttle} {now earliest later : Nat}
    (refused : limiters.ask throttle now = (.error earliest, asked)) (reached : earliest ≤ later) :
    (asked.ask throttle later).1 = .ok () := by
  have answer := congrArg Prod.fst refused
  have pace_refused : Pace.check (limiters.current throttle).state now =
      (.error earliest, ((limiters.current throttle).ask now).2.state) := Prod.ext answer rfl
  have admits := Pace.check_of_refused pace_refused reached
  have same : asked.current throttle = ((limiters.current throttle).ask now).2 := by
    rw [← LimitersOf.current_ask, refused]
  rw [← same] at admits
  exact admits

namespace Context

variable {ctx after : Context}

/-- A wait that nothing interrupts takes as long as it was to take. -/
theorem clock_of_wait {duration : Nat} (uninterrupted : ctx.wait duration = (none, after)) :
    after.outside.clock = ctx.outside.clock + duration := by
  unfold wait at uninterrupted
  split at uninterrupted
  · rename_i zero
    cases uninterrupted
    rw [zero, Nat.add_zero]
  · split at uninterrupted
    · cases uninterrupted
    · split at uninterrupted
      · split at uninterrupted <;> cases uninterrupted
        rfl
      · cases uninterrupted
        rfl

/-- A run waits for its turn as a call does that asks now, and again if it is refused and its wait is not
interrupted; the second time it is admitted. A throttle without a quota is asked here for the one that
`Throttle.intervalOf` makes up. -/
theorem awaitTurn_eq_acquire (ctx : Context) (throttle : Throttle) : ∃ later,
    (ctx.awaitTurn throttle).2.limiters =
        (ctx.limiters.acquire throttle (ctx.outside.clock :: later)).2 ∧
      ((ctx.awaitTurn throttle).1 = none ↔
        (ctx.limiters.acquire throttle (ctx.outside.clock :: later)).1.admitted = true) := by
  rcases first : ctx.limiters.ask throttle ctx.outside.clock with ⟨answer, asked⟩
  cases answer with
  | ok =>
    refine ⟨[], ?_⟩
    rw [LimitersOf.acquire_of_admitted first]
    simp [awaitTurn, first]
  | error earliest =>
    rcases waited : ({ ctx with limiters := asked } : Context).wait (Throttle.pause earliest ctx.outside.clock)
      with ⟨reason, after⟩
    have kept : after.limiters = asked := by
      have unasked := (wait_onlyWaited false { ctx with limiters := asked }
        (Throttle.pause earliest ctx.outside.clock)).limiters_eq rfl
      rwa [waited] at unasked
    cases reason with
    | some reason =>
      refine ⟨[], ?_⟩
      have nothing := ctx.limiters.acquire_nil throttle ctx.outside.clock
      rw [first] at nothing
      rw [LimitersOf.acquire_of_refused first, nothing]
      simp [awaitTurn, first, waited, kept, LimitersOf.acquire, Limiter.poll]
    | none =>
      have reached : earliest ≤ after.outside.clock := by
        have lasted := clock_of_wait waited
        rw [Throttle.pause] at lasted
        dsimp only at lasted
        omega
      rcases second : asked.ask throttle after.outside.clock with ⟨answer, last⟩
      have admits := Limiters.ask_of_refused first reached
      rw [second] at admits
      dsimp only at admits
      subst admits
      refine ⟨[after.outside.clock], ?_⟩
      rw [LimitersOf.acquire_of_refused first, LimitersOf.acquire_of_admitted second]
      simp [awaitTurn, first, waited, kept, second]

end Context

/-! ## Isolation -/

open LimitersOf

/-- What calls are answered by one table, when there are no limiters yet. -/
def answersTo (metering : Metering) (attempts : List Attempt) : List (Attempt × Admission) :=
  ((start metering).serve attempts).1

/-- The keys of throttles are isolated from each other, and so are quotas of one key. -/
structure IsIsolated (metering : Metering) (attempts : List Attempt) : Prop where
  /-- Every call is answered, in the order in which they come. -/
  answered : (answersTo metering attempts).map Prod.fst = attempts
  /-- The calls of a key are answered as if there were no others. -/
  alone : ∀ key, ((answersTo metering attempts).filter fun call => call.1.throttle.key = key) =
    answersTo metering (ofKey key attempts)
  /-- From a call on that has another quota than the call of its key before it, calls of the key are answered
  as if they were the first. -/
  restarts : ∀ key front back, ofKey key attempts = front ++ back →
    (∀ last ∈ front.getLast?, ∀ next ∈ back.head?, last.throttle.quota ≠ next.throttle.quota) →
    answersTo metering (front ++ back) = answersTo metering front ++ answersTo metering back
  /-- Calls of a key with one quota are answered by one limiter for that quota. -/
  shares : ∀ key quota, (∀ attempt ∈ ofKey key attempts, attempt.throttle.quota = quota) →
    answersTo metering (ofKey key attempts) = (Limiter.fresh metering quota).serve (ofKey key attempts)
  /-- There are as many limiters as distinct keys. -/
  counts : ((start metering).serve attempts).2.length = (attempts.map (·.throttle.key)).dedup.length

/-- The attempts picked by a key are on that key. -/
theorem Attempt.key_of_mem_ofKey {key : String} {attempts : List Attempt} :
    ∀ attempt ∈ ofKey key attempts, attempt.throttle.key = key := by
  intro attempt member
  simpa using (List.mem_filter.mp member).2

/-- Whatever limiters do, throttles keep to themselves: every key is served as if it were the only one, and
a change of its quota starts anew. The quota of a throttle that has none is here the one that
`Throttle.intervalOf` makes up. -/
theorem serve_isIsolated (metering : Metering) (attempts : List Attempt) : IsIsolated metering attempts where
  answered := map_fst_serve _ attempts
  alone key := filter_serve rfl attempts
  restarts key front back whole changed := by
    have own : ∀ attempt ∈ front ++ back, attempt.throttle.key = key := by
      rw [← whole]
      exact key_of_mem_ofKey
    exact serve_append_of_quota_ne own changed
  shares key quota even := by
    refine serve_eq_limiter key_of_mem_ofKey even fun throttle _ same => ?_
    rw [current_start, same]
  counts := length_serve metering attempts

end Stepwise
