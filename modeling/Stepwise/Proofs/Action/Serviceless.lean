import Stepwise.Action.Standard

/-!
# Standard actions that call no service

Twelve of the standard actions keep to the run, nine of them to its memory. If one of them fails, other
than by being interrupted, it fails in place: the context is as it was.
-/

set_option autoImplicit false

namespace Stepwise

namespace Action

/-- Wherever what is done fails, other than by being interrupted, it leaves the context as it was. -/
def FailsInPlace (next : Context → Except ActionError Value × Context) : Prop :=
  ∀ ctx cause after, next ctx = (.error cause, after) → (∀ reason, cause ≠ .cancelled reason) → after = ctx

/-- Checks in a row that find something go on with what the first of them finds. -/
theorem exists_of_bind_eq_ok {α β : Type} {check : Except ActionError α}
    {next : α → Except ActionError β} {result : β} (passed : (check >>= next) = .ok result) :
    ∃ found, check = .ok found ∧ next found = .ok result := by
  cases check with
  | error cause => cases passed
  | ok found => exact ⟨found, rfl, passed⟩

/-- What is done leaves the context as it was, whether it fails or not. -/
def OnlyReads (next : Context → Except ActionError Value × Context) : Prop := ∀ ctx, (next ctx).2 = ctx

/-- Checks only read, so what follows them is what matters. -/
theorem checked_onlyReads {α : Type} {checks : Except ActionError α}
    {next : α → Context → Except ActionError Value × Context} (each : ∀ found, OnlyReads (next found)) :
    OnlyReads (checked checks next) := by
  intro ctx
  unfold checked
  split
  · rfl
  · rename_i found
    exact each found ctx

/-- What only reads fails in place. -/
theorem OnlyReads.failsInPlace {next : Context → Except ActionError Value × Context} (reads : OnlyReads next) :
    FailsInPlace next := by
  intro ctx cause after failed _
  rw [← reads ctx, failed]

/-- Checks fail in place, so what follows them is what matters. -/
theorem checked_failsInPlace {α : Type} {checks : Except ActionError α}
    {next : α → Context → Except ActionError Value × Context} (each : ∀ found, FailsInPlace (next found)) :
    FailsInPlace (checked checks next) := by
  intro ctx cause after failed lasting
  unfold checked at failed
  split at failed
  · exact (Prod.mk.inj failed).2.symm
  · rename_i found
    exact each found ctx cause after failed lasting

/-- What answers whatever the context is does not fail. -/
theorem failsInPlace_of_ok {next : Context → Except ActionError Value × Context}
    (answers : ∀ ctx, ∃ answer, (next ctx).1 = .ok answer) : FailsInPlace next := by
  intro ctx cause after failed _
  obtain ⟨answer, answered⟩ := answers ctx
  rw [failed] at answered
  cases answered

section

variable (fields : Fields)

/-- Writing to the log does not fail. -/
theorem log_failsInPlace : FailsInPlace (log fields) := failsInPlace_of_ok fun _ => ⟨_, rfl⟩

/-- Setting a variable fails for its parameters alone. -/
theorem setVariable_failsInPlace : FailsInPlace (setVariable fields) :=
  checked_failsInPlace fun _ => failsInPlace_of_ok fun _ => ⟨_, rfl⟩

/-- Storing a collection fails for its parameters alone. -/
theorem setCollection_failsInPlace : FailsInPlace (setCollection fields) :=
  checked_failsInPlace fun _ => failsInPlace_of_ok fun _ => ⟨_, rfl⟩

/-- Dropping a collection fails for its parameters alone. -/
theorem releaseCollection_failsInPlace : FailsInPlace (releaseCollection fields) :=
  checked_failsInPlace fun _ => failsInPlace_of_ok fun _ => ⟨_, rfl⟩

/-- An append that the buffers refuse leaves them as they were. -/
theorem bufferCollection_failsInPlace : FailsInPlace (bufferCollection fields) := by
  apply checked_failsInPlace
  rintro ⟨name, batchSize⟩ ctx cause after failed -
  rcases added : ctx.buffers.add name (Params.raw ⟨"buffer_collection", fields⟩ "data") batchSize
    with ⟨refusal | done, buffers⟩
  · simp only [added] at failed
    rw [← (Prod.mk.inj failed).2, Buffers.add_error added]
  · simp only [added] at failed
    cases (Prod.mk.inj failed).1

/-- A flush that the buffers refuse leaves them as they were. -/
theorem flushBuffer_failsInPlace : FailsInPlace (flushBuffer fields) := by
  apply checked_failsInPlace
  rintro ⟨name, batchSize⟩ ctx cause after failed -
  rcases drained : ctx.buffers.drain name batchSize (Params.flagOr ⟨"flush_buffer", fields⟩ "all" false)
    with ⟨refusal | done, buffers⟩
  · simp only [drained] at failed
    rw [← (Prod.mk.inj failed).2, Buffers.drain_error drained]
  · simp only [drained] at failed
    cases (Prod.mk.inj failed).1

/-- A deduplication fails for its parameters alone, before it drops its source. -/
theorem dedupCollection_failsInPlace : FailsInPlace (dedupCollection fields) := by
  apply checked_failsInPlace
  intro source
  apply failsInPlace_of_ok
  intro ctx
  dsimp only
  split
  · exact ⟨_, rfl⟩
  · exact ⟨_, rfl⟩

/-- A filter only reads its source. -/
theorem filterCollection_onlyReads : OnlyReads (filterCollection fields) := by
  apply checked_onlyReads
  intro source ctx
  dsimp only
  split
  · exact checked_onlyReads (fun _ _ => rfl) ctx
  · rfl

/-- A transformation only reads its source. -/
theorem transformData_onlyReads : OnlyReads (transformData fields) := by
  apply checked_onlyReads
  rintro ⟨source, limit, rules⟩ ctx
  dsimp only
  split
  · rfl
  · rfl

/-- Reading a file only reads. -/
theorem readCsv_onlyReads : OnlyReads (readCsv fields) := by
  apply checked_onlyReads
  rintro ⟨file, filter⟩ ctx
  dsimp only
  split
  · rfl
  · split
    · rfl
    · rfl

end

/-- A waiting action fails before it waits, or does what the wait does. -/
theorem waiting_cases (name param : String) (fields : Fields) (ctx : Context) :
    (∃ cause, waiting name param fields ctx = (.error cause, ctx)) ∨
    (∃ duration reason after, ctx.wait duration = (some reason, after) ∧
      waiting name param fields ctx = (.error (.cancelled reason), after)) ∨
    ∃ duration answer after, ctx.wait duration = (none, after) ∧
      waiting name param fields ctx = (.ok answer, after) := by
  -- the length of a millisecond is hidden: checking the proof would count up to it
  obtain ⟨unit, unit_eq⟩ : ∃ unit, unit = Context.millisecond := ⟨_, rfl⟩
  unfold waiting
  rw [← unit_eq]
  split
  · exact .inl ⟨_, rfl⟩
  · split
    · rename_i waited
      exact .inr (.inl ⟨_, _, _, waited, rfl⟩)
    · rename_i waited
      exact .inr (.inr ⟨_, _, _, waited, rfl⟩)

/-- A wait fails before it begins, or because it is interrupted. -/
theorem waiting_failsInPlace (name param : String) (fields : Fields) :
    FailsInPlace (waiting name param fields) := by
  intro ctx cause after failed lasting
  rcases waiting_cases name param fields ctx with
    ⟨other, done⟩ | ⟨_, reason, _, -, done⟩ | ⟨_, _, _, -, done⟩
  · rw [done] at failed
    exact (Prod.mk.inj failed).2.symm
  · rw [done] at failed
    cases failed
    exact absurd rfl (lasting reason)
  · rw [done] at failed
    cases failed

end Action

namespace Registry

/-- The standard actions that keep to the memory of the run. -/
def inMemory : List (String × Action) := [
  ("log", Action.log),
  ("set_variable", Action.setVariable),
  ("set_collection", Action.setCollection),
  ("release_collection", Action.releaseCollection),
  ("buffer_collection", Action.bufferCollection),
  ("flush_buffer", Action.flushBuffer),
  ("dedup_collection", Action.dedupCollection),
  ("filter_collection", Action.filterCollection),
  ("transform_data", Action.transformData)]

/-- The standard actions that call no service: those, and the ones that wait and read files. -/
def serviceless : List (String × Action) := inMemory ++ [
  ("delay", Action.waiting "delay" "milliseconds"),
  ("sleep", Action.waiting "sleep" "duration"),
  ("read_csv", Action.readCsv)]

/-- The standard actions that call a service. -/
def outward (services : Services) : List (String × Action) := [
  ("http_post", Action.httpPost services.http),
  ("supabase_query", Action.databaseQuery services.database),
  ("supabase_insert", Action.databaseInsert services.database),
  ("mcp_tool", Action.toolCall services.tools services.actors)]

/-- There are no other standard actions. -/
theorem standard_eq (services : Services) :
    standard services = Table.ofList (serviceless ++ outward services) := rfl

/-- The standard registry holds the actions that call no service under their names, whatever services it
is given. -/
theorem get?_standard (services : Services) {name : String} {action : Action}
    (member : (name, action) ∈ serviceless) : Table.get? (standard services) name = some action := by
  have distinct : (Table.names (serviceless ++ outward services)).Nodup := by
    simp [Table.names, serviceless, inMemory, outward]
  rw [standard_eq]
  exact Table.get?_ofList distinct (List.mem_append_left _ member)

/-- Each of them fails in place. -/
theorem failsInPlace_of_mem_serviceless {name : String} {action : Action}
    (member : (name, action) ∈ serviceless) (fields : Fields) : Action.FailsInPlace (action fields) := by
  have each : ∀ entry ∈ serviceless, Action.FailsInPlace (entry.2 fields) := by
    simp only [serviceless, inMemory, List.cons_append, List.nil_append, List.forall_mem_cons]
    exact ⟨Action.log_failsInPlace fields, Action.setVariable_failsInPlace fields,
      Action.setCollection_failsInPlace fields, Action.releaseCollection_failsInPlace fields,
      Action.bufferCollection_failsInPlace fields, Action.flushBuffer_failsInPlace fields,
      Action.dedupCollection_failsInPlace fields,
      (Action.filterCollection_onlyReads fields).failsInPlace,
      (Action.transformData_onlyReads fields).failsInPlace,
      Action.waiting_failsInPlace _ _ fields, Action.waiting_failsInPlace _ _ fields,
      (Action.readCsv_onlyReads fields).failsInPlace, List.forall_mem_nil _⟩
  exact each _ member

end Registry

end Stepwise
