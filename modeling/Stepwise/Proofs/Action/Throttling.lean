import Stepwise.Action.Outward

/-!
# Fields of a throttle that are null

A tool call is held back by the throttle that its step describes. What the step does not say the environment may
say, and the rest has defaults. A field that is null says nothing, so it should count as one that is left out.
That is so for the rate and for the key, and for the allowance where there is no environment. But whether the
environment has a say in the allowance is settled by the field being there, so a null keeps it out: the allowance
is the default one then.
-/

set_option autoImplicit false

namespace Stepwise

/-! ## Reading a table with a null in it -/

/-- Where a null is read as nothing, setting an entry to null is the same as erasing it. -/
theorem Table.bind_get?_put_null {α : Type} {read : Value → Option α} (unread : read .null = none) (fields : Fields)
    (name other : String) :
    (Table.get? (Table.put fields name .null) other).bind read =
      (Table.get? (Table.erase fields name) other).bind read := by
  by_cases same : other = name
  · subst same
    rw [Table.get?_put_self, Table.get?_erase_self]
    exact unread
  · rw [Table.get?_put_of_ne fields _ same, Table.get?_erase_of_ne fields same]

namespace Throttle

/-- A rate that is null is read as one that is absent. -/
theorem rate?_put_null (fields : Fields) (name : String) (default : Option Text.Real) :
    rate? (Table.put fields name .null) default = rate? (Table.erase fields name) default := by
  unfold rate?
  by_cases same : "rps" = name
  · subst same
    rw [Table.get?_put_self, Table.get?_erase_self]
  · rw [Table.get?_put_of_ne fields _ same, Table.get?_erase_of_ne fields same]

/-- Without the environment a null is the same as nothing in every field. -/
theorem ofValue_put_null (fields : Fields) (name key : String) (default : Option Text.Real) :
    ofValue (.record (Table.put fields name .null)) key default =
      ofValue (.record (Table.erase fields name)) key default := by
  have counts : Value.asCount? .null = none := rfl
  have words : Value.asText? .null = none := rfl
  simp only [ofValue, rate?_put_null, Table.bind_get?_put_null counts, Table.bind_get?_put_null words]

/-- The allowance is the default one if none is given. -/
theorem burst_of_ofValue {fields : Fields} {key : String} {default : Option Text.Real} {throttle : Throttle}
    (missing : Table.get? fields "burst" = none) (read : ofValue (.record fields) key default = .ok (some throttle)) :
    throttle.burst = defaultBurst := by
  unfold ofValue at read
  simp only [missing, Option.bind_none, Option.getD_none] at read
  split at read
  · cases read
  · cases read
  · split at read <;> cases read
    rfl
  · cases read

end Throttle

namespace Action

open Throttle (defaultBurst)

/-- The allowance that the environment gives to tool calls, if it gives one. -/
def allowance? (environment : Table String) : Option Nat :=
  (((Table.get? environment "MCP_APIFY_BURST").map Value.text).bind Value.asCount?).filter (· ≤ Throttle.maxBurst)

/-- The throttle of a tool call as far as the environment has no say in the allowance. -/
def plainThrottle (environment : Table String) (server tool : String) (value : Value) :
    Except Throttle.Fault (Option Throttle) :=
  let rate := (Table.get? environment "MCP_APIFY_RPS").bind fun s => Text.real? (Text.trim s.toList)
  Throttle.ofValue value ("mcp_" ++ server ++ "_" ++ tool) (some (rate.getD defaultToolRate))

section

variable (environment : Table String) (server tool : String) (fields : Fields)

/-- A null under any name of a throttle's record reads, the allowance of the environment left out, as
if the name were absent. -/
theorem plainThrottle_put_null (name : String) :
    plainThrottle environment server tool (.record (Table.put fields name .null)) =
      plainThrottle environment server tool (.record (Table.erase fields name)) :=
  Throttle.ofValue_put_null fields name _ _

/-- The throttle of `mcp_tool` is the plain one, with the allowance from the environment when no
burst is given. -/
theorem toolThrottle_eq :
    toolThrottle environment server tool (.record fields) =
      (plainThrottle environment server tool (.record fields)).map (Option.map fun throttle =>
        { throttle with
          burst := ((if (Table.get? fields "burst").isSome then none else allowance? environment).map
            (max 1)).getD throttle.burst }) := rfl

/-- With the allowance null the environment has no say in it. -/
theorem toolThrottle_put_burst :
    toolThrottle environment server tool (.record (Table.put fields "burst" .null)) =
      plainThrottle environment server tool (.record (Table.erase fields "burst")) := by
  rw [toolThrottle_eq, Table.get?_put_self, Option.isSome_some, if_pos rfl, ← plainThrottle_put_null]
  -- keeping the allowance that there is changes nothing
  rcases plainThrottle environment server tool (.record (Table.put fields "burst" .null)) with fault | _ | throttle
  all_goals rfl

/-- With the allowance left out the environment may give it. -/
theorem toolThrottle_erase_burst :
    toolThrottle environment server tool (.record (Table.erase fields "burst")) =
      (plainThrottle environment server tool (.record (Table.erase fields "burst"))).map (Option.map fun throttle =>
        { throttle with burst := ((allowance? environment).map (max 1)).getD defaultBurst }) := by
  rw [toolThrottle_eq, Table.get?_erase_self, Option.isSome_none, if_neg Bool.false_ne_true]
  cases read : plainThrottle environment server tool (.record (Table.erase fields "burst")) with
  | error fault => rfl
  | ok found =>
    cases found with
    | none => rfl
    | some throttle =>
      have burst : throttle.burst = defaultBurst := Throttle.burst_of_ofValue (Table.get?_erase_self _ _) read
      simp only [Except.map, Option.map_some, burst]

/-- A throttle field that is null is the same as one that is left out, unless it is the allowance; and for that
exactly if no throttle comes of it anyway or the environment gives none other than the default. Where a throttle
comes of it, a null makes the allowance the default, and leaving it out makes it what the environment gives. -/
theorem toolThrottle_put_null :
    let nulled (name : String) := toolThrottle environment server tool (.record (Table.put fields name .null))
    let absent (name : String) := toolThrottle environment server tool (.record (Table.erase fields name))
    (∀ name, name ≠ "burst" → nulled name = absent name) ∧
      (nulled "burst" = absent "burst" ↔ (∀ throttle, absent "burst" ≠ .ok (some throttle)) ∨
        ∀ n, allowance? environment = some n → n = defaultBurst) ∧
      ∀ throttle, absent "burst" = .ok (some throttle) →
        throttle.burst = ((allowance? environment).map (max 1)).getD defaultBurst ∧
          nulled "burst" = .ok (some { throttle with burst := defaultBurst }) := by
  intro nulled absent
  refine ⟨fun name other => ?_, ?_⟩
  · show toolThrottle _ _ _ _ = toolThrottle _ _ _ _
    rw [toolThrottle_eq, toolThrottle_eq, Table.get?_put_of_ne fields _ other.symm,
      Table.get?_erase_of_ne fields other.symm, plainThrottle_put_null]
  · have withNull : nulled "burst" = plainThrottle environment server tool (.record (Table.erase fields "burst")) :=
      toolThrottle_put_burst environment server tool fields
    have without : absent "burst" = _ := toolThrottle_erase_burst environment server tool fields
    rw [withNull, without]
    cases read : plainThrottle environment server tool (.record (Table.erase fields "burst")) with
    | error fault => simp [Except.map]
    | ok found =>
      cases found with
      | none => simp [Except.map]
      | some throttle =>
        have burst : throttle.burst = defaultBurst := Throttle.burst_of_ofValue (Table.get?_erase_self _ _) read
        obtain ⟨rate, _, key⟩ := throttle
        subst burst
        simp only [Except.map, Option.map_some, Except.ok.injEq, Option.some.injEq, Throttle.mk.injEq, true_and,
          and_true]
        refine ⟨⟨fun same => .inr fun n given => ?_, fun either => ?_⟩, ?_⟩
        · rw [given, Option.map_some, Option.getD_some, defaultBurst] at same
          rw [defaultBurst]
          omega
        · rcases either with nothing | same
          · exact absurd rfl (nothing _)
          · cases given : allowance? environment with
            | none => rfl
            | some n =>
              rw [same n given]
              rfl
        · rintro _ rfl
          exact ⟨rfl, rfl, rfl⟩

end

/-- An environment that gives tool calls an allowance. -/
def frugalTrial : Table String := [("MCP_APIFY_BURST", "1")]

/-- A throttle's record whose burst is null. -/
def openFields : Fields := [("burst", .null), ("key", .text "k"), ("rps", .count 2)]

/-- A null makes the allowance the default one, where the environment gives another to a step that leaves it
out. -/
theorem toolThrottle_null_apart :
    toolThrottle frugalTrial "s" "t" (.record (Table.put [] "burst" .null)) =
        .ok (some ⟨⟨false, Nat.pow 2 52, -52⟩, 3, "mcp_s_t"⟩) ∧
      toolThrottle frugalTrial "s" "t" (.record (Table.erase [] "burst")) =
        .ok (some ⟨⟨false, Nat.pow 2 52, -52⟩, 1, "mcp_s_t"⟩) := by
  refine ⟨?_, ?_⟩ <;> with_unfolding_all rfl

/-- With a null for the rate and for the key they are what they are if left out, and so is the allowance where the
environment gives none. -/
theorem toolThrottle_put_null_trial :
    toolThrottle frugalTrial "s" "t" (.record (Table.put openFields "rps" .null)) =
        toolThrottle frugalTrial "s" "t" (.record (Table.erase openFields "rps")) ∧
      toolThrottle frugalTrial "s" "t" (.record (Table.put openFields "key" .null)) =
        toolThrottle frugalTrial "s" "t" (.record (Table.erase openFields "key")) ∧
      toolThrottle [] "s" "t" (.record (Table.put openFields "burst" .null)) =
        toolThrottle [] "s" "t" (.record (Table.erase openFields "burst")) := by
  obtain ⟨others, -⟩ := toolThrottle_put_null frugalTrial "s" "t" openFields
  obtain ⟨-, alike, -⟩ := toolThrottle_put_null [] "s" "t" openFields
  exact ⟨others "rps" (by decide), others "key" (by decide), alike.mpr (.inr (by simp [allowance?]))⟩

end Action

end Stepwise
