import Stepwise.Proofs.Action.Serviceless
import Stepwise.Proofs.Store.Conservation

/-!
# What the standard actions may change

The steps of a run leave stores to each other: variables, collections, buffers, results and the number of
records processed. A standard action that fails leaves all of them as they were, whatever it did before it
failed. One that succeeds changes at most what its name and its parameters say, its footprint: one variable,
one collection, one buffer, or the number of records, which only grows. Besides the stores nothing of the
run changes but the limiters of the two actions that may be throttled, and nothing but the alarm cancels it.
-/

set_option autoImplicit false

namespace Stepwise

/-- What the steps of a run leave to each other. -/
structure Stores where
  vars : Fields
  collections : Collections
  buffers : Buffers
  results : Fields
  recordsProcessed : Nat

/-- What the actions of a run store in its context. -/
def Context.stores (ctx : Context) : Stores :=
  ⟨ctx.vars, ctx.collections, ctx.buffers, ctx.results, ctx.recordsProcessed⟩

namespace Table

variable {α : Type}

/-- Two tables hold the same under every name, but perhaps the given one. -/
def AgreeExcept (name : Option String) (before after : Table α) : Prop :=
  ∀ other, name ≠ some other → get? after other = get? before other

/-- Two tables agree outside one name when every other name is looked up alike. -/
theorem agreeExcept_some {name : String} {before after : Table α}
    (kept : ∀ other, other ≠ name → get? after other = get? before other) :
    AgreeExcept (some name) before after := by
  intro other distinct
  apply kept
  rintro rfl
  exact distinct rfl

/-- Putting a value under a name changes the table nowhere else. -/
theorem agreeExcept_put (table : Table α) (name : String) (value : α) :
    AgreeExcept (some name) table (put table name value) :=
  agreeExcept_some fun _ distinct => get?_put_of_ne _ _ distinct

/-- Taking a name away changes the table nowhere else. -/
theorem agreeExcept_erase (table : Table α) (name : String) :
    AgreeExcept (some name) table (erase table name) :=
  agreeExcept_some fun _ distinct => get?_erase_of_ne _ distinct

end Table

/-- What an action may change in the stores. -/
inductive Footprint where
  | nothing
  | variable (name : Option String)
  | collection (name : Option String)
  | buffer (name : Option String)
  | droppedCollection
  | moreProcessed

namespace Footprint

/-- What a footprint lets an action do to the stores: everything outside it stays as it was. -/
def Permits (footprint : Footprint) (before after : Stores) : Prop :=
  match footprint with
  | .nothing => after = before
  | .variable name =>
    after = { before with vars := after.vars } ∧ Table.AgreeExcept name before.vars after.vars
  | .collection name =>
    after = { before with collections := after.collections } ∧
      Table.AgreeExcept name before.collections after.collections
  | .buffer name =>
    after = { before with buffers := after.buffers } ∧ Table.AgreeExcept name before.buffers after.buffers
  | .droppedCollection =>
    after = { before with collections := after.collections } ∧
      ∃ name : Option String, Table.AgreeExcept name before.collections after.collections ∧
        ∀ dropped, name = some dropped → Table.get? after.collections dropped = none
  | .moreProcessed =>
    after = { before with recordsProcessed := after.recordsProcessed } ∧
      before.recordsProcessed ≤ after.recordsProcessed

/-- The footprint of the action of that name: the variable, the collection or the buffer that it may change
is the one that its parameters name. -/
def ofAction (name : String) (fields : Fields) : Footprint :=
  match name with
  | "set_variable" => .variable (Params.text? ⟨name, fields⟩ "name")
  | "set_collection" => .collection (Params.text? ⟨name, fields⟩ "name")
  | "release_collection" => .collection (Params.text? ⟨name, fields⟩ "name")
  | "buffer_collection" => .buffer (Params.text? ⟨name, fields⟩ "buffer_name")
  | "flush_buffer" => .buffer (Params.text? ⟨name, fields⟩ "buffer_name")
  | "dedup_collection" => .droppedCollection
  | "supabase_insert" => .moreProcessed
  | "mcp_tool" => .moreProcessed
  | _ => .nothing

/-- Counting no record at all is within the footprint of the actions that count. -/
theorem permits_moreProcessed_self (stores : Stores) : Permits .moreProcessed stores stores :=
  ⟨rfl, Nat.le_refl _⟩

end Footprint

/-- The actions that may be throttled. -/
def throttled (name : String) : Bool := ["http_post", "mcp_tool"].contains name

/-! ## What time and calls change -/

namespace Context

/-- A run goes on as what it was: its settings stay, and only the alarm cancels it. -/
structure GoesOn (before after : Context) : Prop where
  runId_eq : after.runId = before.runId
  environment_eq : after.environment = before.environment
  config_eq : after.config = before.config
  alarm_eq : after.outside.alarm = before.outside.alarm
  cancelled_cases : after.cancelled = before.cancelled ∨
    ∃ time reason, before.outside.alarm = some (time, reason) ∧
      after.cancelled = before.cancelled.request reason

/-- A run goes on from every state to itself. -/
theorem GoesOn.refl (ctx : Context) : ctx.GoesOn ctx := ⟨rfl, rfl, rfl, rfl, .inl rfl⟩

/-- A run that goes on twice has gone on. -/
theorem GoesOn.trans {first second third : Context} (now : first.GoesOn second)
    (later : second.GoesOn third) : first.GoesOn third where
  runId_eq := later.runId_eq.trans now.runId_eq
  environment_eq := later.environment_eq.trans now.environment_eq
  config_eq := later.config_eq.trans now.config_eq
  alarm_eq := later.alarm_eq.trans now.alarm_eq
  cancelled_cases := by
    rcases later.cancelled_cases with same | ⟨time, reason, alarm, cancelled⟩
    · rw [same]
      exact now.cancelled_cases
    · rw [now.alarm_eq] at alarm
      refine .inr ⟨time, reason, alarm, ?_⟩
      rcases now.cancelled_cases with same | ⟨otherTime, other, alarmBefore, cancelledBefore⟩
      · rw [cancelled, same]
      · -- there is one alarm, and its reason is given twice
        rw [alarm] at alarmBefore
        cases alarmBefore
        rw [cancelled, cancelledBefore, Cancellation.request_request]

/-- Between two contexts a run did nothing but wait and call services, where `asks` says whether it may have
asked limiters. -/
structure OnlyWaited (asks : Bool) (before after : Context) : Prop where
  goesOn : before.GoesOn after
  stores_eq : after.stores = before.stores
  limiters_eq : asks = false → after.limiters = before.limiters

/-- To do nothing is to have only waited. -/
theorem OnlyWaited.refl (asks : Bool) (ctx : Context) : OnlyWaited asks ctx ctx :=
  ⟨.refl ctx, rfl, fun _ => rfl⟩

/-- A wait changes the time and, when it is interrupted, that the run is cancelled. -/
theorem wait_eq (ctx : Context) (duration : Nat) : ∃ time cancelled,
    (ctx.wait duration).2 = { ctx.atTime time with cancelled } ∧
      (cancelled = ctx.cancelled ∨
        ∃ due reason, ctx.outside.alarm = some (due, reason) ∧ cancelled = ctx.cancelled.request reason) := by
  unfold wait
  split
  · exact ⟨ctx.outside.clock, ctx.cancelled, rfl, .inl rfl⟩
  · split
    · exact ⟨ctx.outside.clock, ctx.cancelled, rfl, .inl rfl⟩
    · split
      · rename_i time reason alarm
        split
        · exact ⟨max time ctx.outside.clock, _, rfl, .inr ⟨time, reason, alarm, rfl⟩⟩
        · exact ⟨ctx.outside.clock + duration, ctx.cancelled, rfl, .inl rfl⟩
      · exact ⟨ctx.outside.clock + duration, ctx.cancelled, rfl, .inl rfl⟩

/-- A wait changes nothing but the clock. -/
theorem wait_onlyWaited (asks : Bool) (ctx : Context) (duration : Nat) :
    OnlyWaited asks ctx (ctx.wait duration).2 := by
  obtain ⟨time, cancelled, after, cases⟩ := ctx.wait_eq duration
  rw [after]
  exact ⟨⟨rfl, rfl, rfl, rfl, cases⟩, rfl, fun _ => rfl⟩

/-- A wait for a throttle changes no more than that and the limiters. -/
theorem awaitTurn?_eq (ctx : Context) (throttle : Option Throttle) : ∃ time cancelled limiters,
    (ctx.awaitTurn? throttle).2 = { ctx.atTime time with cancelled, limiters } ∧
      (cancelled = ctx.cancelled ∨
        ∃ due reason, ctx.outside.alarm = some (due, reason) ∧ cancelled = ctx.cancelled.request reason) := by
  unfold awaitTurn?
  split
  · rename_i throttle
    rcases asked : ctx.limiters.ask throttle ctx.outside.clock with ⟨answer, limiters⟩
    cases answer with
    | ok =>
      simp only [awaitTurn, asked]
      exact ⟨ctx.outside.clock, ctx.cancelled, limiters, rfl, .inl rfl⟩
    | error earliest =>
      simp only [awaitTurn, asked]
      generalize Throttle.pause earliest ctx.outside.clock = duration
      obtain ⟨time, cancelled, after_eq, cases⟩ := wait_eq { ctx with limiters } duration
      rcases waited : wait { ctx with limiters } duration with ⟨reason, after⟩
      rw [waited] at after_eq
      cases after_eq
      cases reason with
      | some reason => exact ⟨time, cancelled, limiters, rfl, cases⟩
      | none => exact ⟨time, cancelled, _, rfl, cases⟩
  · exact ⟨ctx.outside.clock, ctx.cancelled, ctx.limiters, rfl, .inl rfl⟩

/-- Waiting for one's turn changes nothing but the clock and the throttle that was asked. -/
theorem awaitTurn?_onlyWaited (ctx : Context) (throttle : Option Throttle) :
    OnlyWaited true ctx (ctx.awaitTurn? throttle).2 := by
  obtain ⟨time, cancelled, limiters, after, cases⟩ := ctx.awaitTurn?_eq throttle
  rw [after]
  exact ⟨⟨rfl, rfl, rfl, rfl, cases⟩, rfl, nofun⟩

end Context

namespace Buffers

variable {buffers after : Buffers} {name : String}

/-- Whatever comes of an append, it changes no other buffer. -/
theorem agreeExcept_add {data : Value} {batchSize : Nat} {answer : Except InvalidBatchSize Appended}
    (added : buffers.add name data batchSize = (answer, after)) :
    Table.AgreeExcept (some name) buffers after := by
  have effect := perform_append_effect buffers name data batchSize
  cases answer with
  | error _ | ok _ =>
    simp only [perform, added] at effect
    exact Table.agreeExcept_some effect.frame

/-- Whatever comes of a flush, it changes no other buffer. -/
theorem agreeExcept_drain {batchSize : Option Nat} {everything : Bool}
    {answer : Except InvalidBatchSize (Option Flushed)}
    (drained : buffers.drain name batchSize everything = (answer, after)) :
    Table.AgreeExcept (some name) buffers after := by
  have effect := perform_flush_effect buffers name batchSize everything
  cases answer with
  | error _ | ok _ =>
    simp only [perform, drained] at effect
    exact Table.agreeExcept_some effect.frame

end Buffers

/-! ## Answers that keep to a footprint -/

/-- What an action comes to keeps to a footprint: a failure changes no store, and a success no more than the
footprint permits. -/
structure KeepsTo (footprint : Footprint) (asks : Bool) (ctx : Context)
    (done : Except ActionError Value × Context) : Prop where
  failed : ∀ cause, done.1 = .error cause → done.2.stores = ctx.stores
  succeeded : ∀ answer, done.1 = .ok answer → footprint.Permits ctx.stores done.2.stores
  limiters_eq : asks = false → done.2.limiters = ctx.limiters
  goesOn : ctx.GoesOn done.2

namespace KeepsTo

variable {footprint : Footprint} {asks : Bool} {ctx : Context}

/-- A failure after which only time has passed keeps to every footprint. -/
theorem error (cause : ActionError) {after : Context} (waited : Context.OnlyWaited asks ctx after) :
    KeepsTo footprint asks ctx (.error cause, after) where
  failed _ _ := waited.stores_eq
  succeeded _ succeeded := by cases succeeded
  limiters_eq := waited.limiters_eq
  goesOn := waited.goesOn

/-- A success that did nothing to the stores keeps to every footprint that permits this. -/
theorem ok (answer : Value) {after : Context} (waited : Context.OnlyWaited asks ctx after)
    (permitted : footprint.Permits ctx.stores ctx.stores) :
    KeepsTo footprint asks ctx (.ok answer, after) where
  failed _ failed := by cases failed
  succeeded _ _ := by
    rw [waited.stores_eq]
    exact permitted
  limiters_eq := waited.limiters_eq
  goesOn := waited.goesOn

/-- A success that changes stores keeps to a footprint that permits these changes, if it changes nothing
else. -/
theorem stored (answer : Value) {after : Context}
    (rest : after = { ctx with vars := after.vars, collections := after.collections, buffers := after.buffers })
    (permitted : footprint.Permits ctx.stores after.stores) :
    KeepsTo footprint asks ctx (.ok answer, after) where
  failed _ failed := by cases failed
  succeeded _ _ := permitted
  limiters_eq _ := by rw [rest]
  goesOn := by
    rw [rest]
    exact ⟨rfl, rfl, rfl, rfl, .inl rfl⟩

/-- What is made of the answer plays no part. -/
theorem map {done : Except ActionError Value × Context} (keeps : KeepsTo footprint asks ctx done)
    (shape : Value → Value) : KeepsTo footprint asks ctx (done.1.map shape, done.2) where
  failed cause failed := by
    rcases done with ⟨answer, after⟩
    cases answer with
    | error cause => exact keeps.failed cause rfl
    | ok answer => cases failed
  succeeded answer succeeded := by
    rcases done with ⟨answer, after⟩
    cases answer with
    | error cause => cases succeeded
    | ok answer => exact keeps.succeeded answer rfl
  limiters_eq := keeps.limiters_eq
  goesOn := keeps.goesOn

/-- What is done after a wait keeps to the footprint from before it. -/
theorem after_wait {between : Context} {done : Except ActionError Value × Context}
    (waited : Context.OnlyWaited asks ctx between) (keeps : KeepsTo footprint asks between done) :
    KeepsTo footprint asks ctx done where
  failed cause failed := (keeps.failed cause failed).trans waited.stores_eq
  succeeded answer succeeded := by
    rw [← waited.stores_eq]
    exact keeps.succeeded answer succeeded
  limiters_eq unasked := (keeps.limiters_eq unasked).trans (waited.limiters_eq unasked)
  goesOn := waited.goesOn.trans keeps.goesOn

end KeepsTo

namespace Action

section

variable {footprint : Footprint} {asks : Bool} {ctx : Context} {fields : Fields}

/-- What only reads keeps to the footprint of nothing. -/
theorem OnlyReads.keepsTo {next : Context → Except ActionError Value × Context} (reads : OnlyReads next) :
    KeepsTo .nothing asks ctx (next ctx) := by
  have kept := reads ctx
  rcases done : next ctx with ⟨answer, after⟩
  rw [done] at kept
  dsimp only at kept
  rw [kept]
  cases answer with
  | error cause => exact .error cause (.refl asks ctx)
  | ok answer => exact .ok answer (.refl asks ctx) rfl

/-- Checks that fail change nothing, so what is done with what they find is what matters. -/
theorem checked_keepsTo {α : Type} {checks : Except ActionError α}
    {next : α → Context → Except ActionError Value × Context}
    (each : ∀ found, checks = .ok found → KeepsTo footprint asks ctx (next found ctx)) :
    KeepsTo footprint asks ctx (checked checks next ctx) := by
  unfold checked
  split
  · exact .error _ (.refl asks ctx)
  · rename_i found
    exact each found rfl

/-- A throttle changes no store, so what is done in its turn is what matters. -/
theorem afterThrottle_keepsTo (throttle : Option Throttle)
    {next : Context → Except ActionError Value × Context}
    (each : ∀ between, KeepsTo footprint true between (next between)) :
    KeepsTo footprint true ctx (afterThrottle throttle next ctx) := by
  have waited := ctx.awaitTurn?_onlyWaited throttle
  unfold afterThrottle
  split
  · rename_i reason after turn
    rw [turn] at waited
    exact .error _ waited
  · rename_i after turn
    rw [turn] at waited
    exact .after_wait waited (each after)

/-- A call leaves the stores alone and is itself only noted and waited for. -/
theorem call_onlyWaited (asks : Bool) (ctx : Context) (service : Service) (call : Call) :
    Context.OnlyWaited asks ctx (ctx.call service call).2 :=
  ⟨⟨rfl, rfl, rfl, rfl, .inl rfl⟩, rfl, fun _ => rfl⟩

/-- A call changes no store, whatever comes of it. -/
theorem call_keepsTo (service : Service) (call : Call) (permitted : footprint.Permits ctx.stores ctx.stores) :
    KeepsTo footprint asks ctx (ctx.call service call) := by
  have waited := call_onlyWaited asks ctx service call
  rcases called : ctx.call service call with ⟨answer, after⟩
  rw [called] at waited
  cases answer with
  | error cause => exact .error cause waited
  | ok answer => exact .ok answer waited permitted

/-- A call whose records are counted changes the number of records, and only if it succeeds. -/
theorem call_counted_keepsTo (service : Service) (call : Call) (count : Value → Nat) :
    KeepsTo .moreProcessed asks ctx
      (match ctx.call service call with
        | (.ok items, ctx) => (.ok items, ctx.countProcessed (count items))
        | (.error e, ctx) => (.error e, ctx)) := by
  have waited := call_onlyWaited asks ctx service call
  rcases called : ctx.call service call with ⟨answer, after⟩
  rw [called] at waited
  cases answer with
  | error cause => exact .error cause waited
  | ok items =>
    have counted : (after.countProcessed (count items)).stores =
        { after.stores with recordsProcessed := after.stores.recordsProcessed + count items } := rfl
    refine ⟨fun _ failed => ?_, fun _ _ => ?_, waited.limiters_eq, ?_⟩
    · cases failed
    · show Footprint.Permits .moreProcessed ctx.stores (after.countProcessed (count items)).stores
      rw [counted, waited.stores_eq]
      exact ⟨rfl, Nat.le_add_right _ _⟩
    · exact ⟨waited.goesOn.runId_eq, waited.goesOn.environment_eq, waited.goesOn.config_eq,
        waited.goesOn.alarm_eq, waited.goesOn.cancelled_cases⟩

end

/-! ## The standard actions -/

/-- A parameter that has to be a text, and is one, is the text that is given. -/
theorem text?_eq_some {params : Params} {key text : String} (given : params.requiredText key = .ok text) :
    params.text? key = some text := by
  unfold Params.requiredText Params.required at given
  unfold Params.text?
  cases found : params.get? key with
  | none => simp [found] at given
  | some value =>
    cases value with
    | text s => simpa [found, Value.asText?] using given
    | _ => simp [found] at given

section

variable (fields : Fields) (ctx : Context)

/-- `log` changes nothing in the stores. -/
theorem log_keepsTo : KeepsTo .nothing false ctx (log fields ctx) :=
  .ok _ ⟨⟨rfl, rfl, rfl, rfl, .inl rfl⟩, rfl, fun _ => rfl⟩ rfl

/-- Neither of the waiting actions changes anything in the stores. -/
theorem waiting_keepsTo (name param : String) :
    KeepsTo .nothing false ctx (waiting name param fields ctx) := by
  have waited := ctx.wait_onlyWaited false
  rcases waiting_cases name param fields ctx with
    ⟨cause, done⟩ | ⟨duration, reason, after, ended, done⟩ | ⟨duration, answer, after, ended, done⟩
  · rw [done]
    exact .error cause (.refl false ctx)
  · have until_interrupted := waited duration
    rw [ended] at until_interrupted
    rw [done]
    exact .error _ until_interrupted
  · have until_over := waited duration
    rw [ended] at until_over
    rw [done]
    exact .ok answer until_over rfl

/-- Setting a variable changes the one that the parameters name. -/
theorem setVariable_keepsTo :
    KeepsTo (.ofAction "set_variable" fields) false ctx (setVariable fields ctx) := by
  apply checked_keepsTo
  intro name given
  refine .stored _ rfl ⟨rfl, ?_⟩
  rw [text?_eq_some given]
  exact Table.agreeExcept_put ctx.vars name _

/-- Storing a collection changes the one that the parameters name. -/
theorem setCollection_keepsTo :
    KeepsTo (.ofAction "set_collection" fields) false ctx (setCollection fields ctx) := by
  apply checked_keepsTo
  intro name given
  refine .stored _ rfl ⟨rfl, ?_⟩
  rw [text?_eq_some given]
  exact Table.agreeExcept_put ctx.collections name _

/-- Dropping a collection changes the one that the parameters name. -/
theorem releaseCollection_keepsTo :
    KeepsTo (.ofAction "release_collection" fields) false ctx (releaseCollection fields ctx) := by
  apply checked_keepsTo
  intro name given
  refine .stored _ rfl ⟨rfl, ?_⟩
  rw [text?_eq_some given]
  exact Table.agreeExcept_erase ctx.collections name

/-- An append that is refused gives the buffers back as they were, and one that is not changes the buffer that
the parameters name. -/
theorem bufferCollection_keepsTo :
    KeepsTo (.ofAction "buffer_collection" fields) false ctx (bufferCollection fields ctx) := by
  apply checked_keepsTo
  intro found checks
  obtain ⟨name, given, sized⟩ := exists_of_bind_eq_ok checks
  obtain ⟨batchSize, -, pair⟩ := exists_of_bind_eq_ok sized
  cases pair
  rcases added : ctx.buffers.add name (Params.raw ⟨"buffer_collection", fields⟩ "data") batchSize
    with ⟨refusal | done, buffers⟩
  · simp only [added]
    rw [Buffers.add_error added]
    exact .error _ (.refl false ctx)
  · simp only [added]
    refine .stored _ rfl ⟨rfl, ?_⟩
    rw [text?_eq_some given]
    exact Buffers.agreeExcept_add added

/-- A flush that is refused gives the buffers back as they were, and one that is not changes the buffer that
the parameters name. -/
theorem flushBuffer_keepsTo :
    KeepsTo (.ofAction "flush_buffer" fields) false ctx (flushBuffer fields ctx) := by
  apply checked_keepsTo
  intro found checks
  obtain ⟨name, given, sized⟩ := exists_of_bind_eq_ok checks
  obtain ⟨batchSize, -, pair⟩ := exists_of_bind_eq_ok sized
  cases pair
  rcases drained : ctx.buffers.drain name batchSize (Params.flagOr ⟨"flush_buffer", fields⟩ "all" false)
    with ⟨refusal | done, buffers⟩
  · simp only [drained]
    rw [Buffers.drain_error drained]
    exact .error _ (.refl false ctx)
  · simp only [drained]
    refine .stored _ rfl ⟨rfl, ?_⟩
    rw [text?_eq_some given]
    exact Buffers.agreeExcept_drain drained

/-- A deduplication drops one collection, or none. -/
theorem dedupCollection_keepsTo :
    KeepsTo (.ofAction "dedup_collection" fields) false ctx (dedupCollection fields ctx) := by
  apply checked_keepsTo
  intro source given
  dsimp only
  split
  · rename_i name _ _
    refine .stored _ rfl ⟨rfl, some name, Table.agreeExcept_erase ctx.collections name, ?_⟩
    intro dropped same
    cases same
    exact Table.get?_erase_self ctx.collections name
  · refine .stored _ rfl ⟨rfl, none, fun _ _ => rfl, ?_⟩
    intro dropped same
    cases same

/-- `http_post` changes nothing in the stores. -/
theorem httpPost_keepsTo (http : Option Service) : KeepsTo .nothing true ctx (httpPost http fields ctx) := by
  apply checked_keepsTo
  rintro ⟨url, headers, service, throttle⟩ -
  apply afterThrottle_keepsTo
  intro between
  exact call_keepsTo service _ rfl

/-- `supabase_query` changes nothing in the stores. -/
theorem databaseQuery_keepsTo (database : Option Service) :
    KeepsTo .nothing false ctx (databaseQuery database fields ctx) := by
  apply checked_keepsTo
  rintro ⟨service, statement⟩ -
  have kept (call : Call) : KeepsTo .nothing false ctx (ctx.call service call) :=
    call_keepsTo service call rfl
  exact (kept _).map rowsOf

/-- `supabase_insert` changes nothing but the count of records processed. -/
theorem databaseInsert_keepsTo (database : Option Service) :
    KeepsTo .moreProcessed false ctx (databaseInsert database fields ctx) := by
  apply checked_keepsTo
  rintro ⟨service, table, rows⟩ -
  exact call_counted_keepsTo service _ fun inserted => (Buffers.recordsOf inserted).length

/-- An actor's run changes nothing but the count of records processed. -/
theorem runActor_keepsTo (actors : Option Service) (arguments : Value) :
    KeepsTo .moreProcessed true ctx (runActor actors arguments ctx) := by
  apply checked_keepsTo
  rintro ⟨service, actor⟩ -
  dsimp only
  split
  · exact .ok _ (.refl true ctx) (Footprint.permits_moreProcessed_self _)
  · exact call_counted_keepsTo service _ fun items => Value.itemCount (some items)

/-- `mcp_tool` changes nothing but the count of records processed. -/
theorem toolCall_keepsTo (tools actors : Option Service) :
    KeepsTo .moreProcessed true ctx (toolCall tools actors fields ctx) := by
  apply checked_keepsTo
  rintro ⟨server, tool, throttle⟩ -
  apply afterThrottle_keepsTo
  intro between
  split
  · exact runActor_keepsTo between actors _
  · split
    · exact call_keepsTo _ _ (Footprint.permits_moreProcessed_self _)
    · exact .ok _ (.refl true between) (Footprint.permits_moreProcessed_self _)

end

end Action

namespace Registry

/-- Every standard action keeps to its footprint, for all parameters, contexts and services. An action that
asks for a throttle without a quota goes on here with the one that `Throttle.intervalOf` makes up. -/
theorem dispatch_keepsTo (services : Services) (name : String) (fields : Fields) (ctx : Context) :
    KeepsTo (.ofAction name fields) (throttled name) ctx ((standard services).dispatch name fields ctx) := by
  have each : ∀ entry ∈ serviceless ++ outward services, ∀ fields ctx,
      KeepsTo (.ofAction entry.1 fields) (throttled entry.1) ctx (entry.2 fields ctx) := by
    simp only [serviceless, inMemory, outward, List.cons_append, List.nil_append, List.forall_mem_cons]
    refine ⟨Action.log_keepsTo, Action.setVariable_keepsTo, Action.setCollection_keepsTo,
      Action.releaseCollection_keepsTo, Action.bufferCollection_keepsTo, Action.flushBuffer_keepsTo,
      Action.dedupCollection_keepsTo, fun fields _ => (Action.filterCollection_onlyReads fields).keepsTo,
      fun fields _ => (Action.transformData_onlyReads fields).keepsTo,
      fun fields ctx => Action.waiting_keepsTo fields ctx _ _,
      fun fields ctx => Action.waiting_keepsTo fields ctx _ _,
      fun fields _ => (Action.readCsv_onlyReads fields).keepsTo,
      fun fields ctx => Action.httpPost_keepsTo fields ctx _,
      fun fields ctx => Action.databaseQuery_keepsTo fields ctx _,
      fun fields ctx => Action.databaseInsert_keepsTo fields ctx _,
      fun fields ctx => Action.toolCall_keepsTo fields ctx _ _, List.forall_mem_nil _⟩
  unfold dispatch
  split
  · rename_i action found
    rw [standard_eq] at found
    exact each (name, action) (Table.mem_of_get?_ofList found) fields ctx
  · exact .error _ (.refl _ ctx)

/-- A context with one record in a buffer. -/
def bufferTrial : Context :=
  { Context.start [] [] ⟨0, none, fun _ => .null, fun _ => .error "", (0, 0), [], []⟩ with
    buffers := [("b", ⟨[.null], 2, 0, by decide⟩)] }

/-- A flush in batches of nothing is refused and leaves the buffer, and an insertion of two records is
counted and leaves it, too. -/
theorem dispatch_keepsTo_trial :
    let services := { Services.none with database := some fun _ _ => .ok (.list [.null, .flag true]) }
    let refused := (standard services).dispatch "flush_buffer"
      [("batch_size", .count 0), ("buffer_name", .text "b")] bufferTrial
    let inserted := (standard services).dispatch "supabase_insert"
      [("data", .list [.null, .flag true]), ("table", .text "t")] bufferTrial
    (refused.1.toOption.isNone = true ∧ refused.2.stores = bufferTrial.stores) ∧
      inserted.1.toOption.isSome = true ∧ inserted.2.recordsProcessed = 2 ∧
      inserted.2.buffers = bufferTrial.buffers := by
  intro services refused inserted
  have failed : refused.1.toOption.isNone = true := by decide +kernel
  have succeeded : inserted.1.toOption.isSome = true := by decide +kernel
  have counted : inserted.2.recordsProcessed = 2 := by decide +kernel
  refine ⟨⟨failed, ?_⟩, succeeded, counted, ?_⟩
  · have kept := dispatch_keepsTo services "flush_buffer"
      [("batch_size", .count 0), ("buffer_name", .text "b")] bufferTrial
    cases came : refused.1 with
    | error cause => exact kept.failed cause came
    | ok answer => simp [came, Except.toOption] at failed
  · have kept := dispatch_keepsTo services "supabase_insert"
      [("data", .list [.null, .flag true]), ("table", .text "t")] bufferTrial
    cases came : inserted.1 with
    | error cause => simp [came, Except.toOption] at succeeded
    | ok answer => exact congrArg Stores.buffers (kept.succeeded answer came).1

end Registry

end Stepwise
