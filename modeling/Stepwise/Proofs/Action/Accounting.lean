import Stepwise.Proofs.Action.Frame

/-!
# Calls of the standard actions and the records they count

A standard action makes at most one call to a service, and what it answers is what the service replies. It
makes the call last, after everything that may go wrong on its own side: where it fails for any other cause
than that of the service, there was no call. Records are counted by the answers to calls, those that were
inserted and those that an actor gives, so over any sequence of actions the count grows by just these.
-/

set_option autoImplicit false

namespace Stepwise

namespace Call

/-- The standard action that makes such calls. -/
def maker? : Call → Option String
  | .post _ _ _ => some "http_post"
  | .query _ _ => some "supabase_query"
  | .insert _ _ => some "supabase_insert"
  | .tool _ _ _ => some "mcp_tool"
  | .actor _ _ => some "mcp_tool"
  | .noted _ _ => none

/-- What the action answers when the service replies. -/
def answerOf : Call → Value → Value
  | .query _ _, reply => Action.rowsOf reply
  | _, reply => reply

/-- The number of records that an answer to the call counts for. A list counts for its items; anything else
counts for one record if it answers an insertion, and for none if it comes from an actor. -/
def records : Call → Value → Nat
  | .insert _ _, .list rows => rows.length
  | .insert _ _, _ => 1
  | .actor _ _, .list items => items.length
  | _, _ => 0

/-- A call that fails counts for nothing. -/
def credit (call : Call) : Except ActionError Value → Nat
  | .ok answer => call.records answer
  | .error _ => 0

/-- An answered call is credited with the records its answer counts for. -/
@[simp] theorem credit_ok (call : Call) (answer : Value) : call.credit (.ok answer) = call.records answer := rfl

/-- An insert counts for the rows it sent, whatever the database answers. -/
theorem records_insert (table : String) (rows answer : Value) :
    (Call.insert table rows).records answer = (Buffers.recordsOf answer).length := by
  cases answer <;> rfl

/-- An actor's run counts for the items of its answer. -/
theorem records_actor (name : String) (input answer : Value) :
    (Call.actor name input).records answer = Value.itemCount (some answer) := by
  cases answer <;> rfl

end Call

namespace Services

/-- The service that answers such calls. -/
def answering? (services : Services) : Call → Option Service
  | .post _ _ _ => services.http
  | .query _ _ => services.database
  | .insert _ _ => services.database
  | .tool _ _ _ => services.tools
  | .actor _ _ => services.actors
  | .noted _ _ => .none

/-- A service that fails says that the request failed. -/
def FailByRequest (services : Services) : Prop :=
  ∀ call service, services.answering? call = some service →
    ∀ earlier cause, service earlier call = .error cause → ∃ message, cause = .http message

end Services

/-- Between two contexts no call was made and no record counted. -/
structure Context.Idle (before after : Context) : Prop where
  calls_eq : after.outside.calls = before.outside.calls
  records_eq : after.recordsProcessed = before.recordsProcessed

namespace Context

/-- A turn that does nothing is idle. -/
theorem Idle.refl (ctx : Context) : ctx.Idle ctx := ⟨rfl, rfl⟩

/-- Waiting makes no call and counts no record. -/
theorem wait_idle (ctx : Context) (duration : Nat) : ctx.Idle (ctx.wait duration).2 := by
  obtain ⟨time, cancelled, after, -⟩ := ctx.wait_eq duration
  rw [after]
  exact ⟨rfl, rfl⟩

/-- Waiting for one's turn at a throttle makes no call and counts no record. -/
theorem awaitTurn?_idle (ctx : Context) (throttle : Option Throttle) :
    ctx.Idle (ctx.awaitTurn? throttle).2 := by
  obtain ⟨time, cancelled, limiters, after, -⟩ := ctx.awaitTurn?_eq throttle
  rw [after]
  exact ⟨rfl, rfl⟩

end Context

/-! ## Actions that call no service -/

namespace Action

/-- What is done makes no call and counts nothing, whether it fails or not. -/
def StaysIdle (next : Context → Except ActionError Value × Context) : Prop :=
  ∀ ctx, Context.Idle ctx (next ctx).2

/-- Checks make no call, so what follows them is what matters. -/
theorem checked_staysIdle {α : Type} {checks : Except ActionError α}
    {next : α → Context → Except ActionError Value × Context} (each : ∀ found, StaysIdle (next found)) :
    StaysIdle (checked checks next) := by
  intro ctx
  unfold checked
  split
  · exact .refl ctx
  · rename_i found
    exact each found ctx

/-- What only reads stays idle. -/
theorem OnlyReads.staysIdle {next : Context → Except ActionError Value × Context} (reads : OnlyReads next) :
    StaysIdle next := by
  intro ctx
  rw [reads ctx]
  exact .refl ctx

section

variable (fields : Fields)

/-- Writing to the log makes no call. -/
theorem log_staysIdle : StaysIdle (log fields) := fun _ => ⟨rfl, rfl⟩

/-- Waiting makes no call. -/
theorem waiting_staysIdle (name param : String) : StaysIdle (waiting name param fields) := by
  intro ctx
  rcases waiting_cases name param fields ctx with
    ⟨cause, done⟩ | ⟨duration, _, _, ended, done⟩ | ⟨duration, _, _, ended, done⟩
  · rw [done]
    exact .refl ctx
  · simpa [done, ended] using ctx.wait_idle duration
  · simpa [done, ended] using ctx.wait_idle duration

/-- Setting a variable makes no call. -/
theorem setVariable_staysIdle : StaysIdle (setVariable fields) :=
  checked_staysIdle fun _ _ => ⟨rfl, rfl⟩

/-- Storing a collection makes no call. -/
theorem setCollection_staysIdle : StaysIdle (setCollection fields) :=
  checked_staysIdle fun _ _ => ⟨rfl, rfl⟩

/-- Dropping a collection makes no call. -/
theorem releaseCollection_staysIdle : StaysIdle (releaseCollection fields) :=
  checked_staysIdle fun _ _ => ⟨rfl, rfl⟩

/-- An append makes no call, whether it is refused or not. -/
theorem bufferCollection_staysIdle : StaysIdle (bufferCollection fields) := by
  apply checked_staysIdle
  rintro ⟨name, batchSize⟩ ctx
  dsimp only
  split
  · exact ⟨rfl, rfl⟩
  · exact ⟨rfl, rfl⟩

/-- A flush makes no call, whether it is refused or not. -/
theorem flushBuffer_staysIdle : StaysIdle (flushBuffer fields) := by
  apply checked_staysIdle
  rintro ⟨name, batchSize⟩ ctx
  dsimp only
  split
  · exact ⟨rfl, rfl⟩
  · exact ⟨rfl, rfl⟩

/-- A deduplication makes no call, whether it drops its source or not. -/
theorem dedupCollection_staysIdle : StaysIdle (dedupCollection fields) := by
  apply checked_staysIdle
  intro source ctx
  dsimp only
  split
  · exact ⟨rfl, rfl⟩
  · exact .refl ctx

end

end Action

/-- The standard actions that call no service stay idle. -/
theorem Registry.staysIdle_of_mem_serviceless (fields : Fields) :
    ∀ entry ∈ serviceless, Action.StaysIdle (entry.2 fields) := by
  simp only [serviceless, inMemory, List.cons_append, List.nil_append, List.forall_mem_cons]
  exact ⟨Action.log_staysIdle fields, Action.setVariable_staysIdle fields,
    Action.setCollection_staysIdle fields, Action.releaseCollection_staysIdle fields,
    Action.bufferCollection_staysIdle fields, Action.flushBuffer_staysIdle fields,
    Action.dedupCollection_staysIdle fields, (Action.filterCollection_onlyReads fields).staysIdle,
    (Action.transformData_onlyReads fields).staysIdle, Action.waiting_staysIdle fields _ _,
    Action.waiting_staysIdle fields _ _, (Action.readCsv_onlyReads fields).staysIdle,
    List.forall_mem_nil _⟩

/-! ## What a standard action comes to -/

/-- The actions that do not succeed without a call. -/
def dependent (name : String) : Bool := ["http_post", "supabase_query", "supabase_insert"].contains name

/-- What the action of that name comes to: it makes no call and counts nothing, or it makes one call of its
own and answers what the service makes of it. -/
inductive Reckons (services : Services) (name : String) (ctx : Context) :
    Except ActionError Value × Context → Prop where
  | uncalled {answer : Except ActionError Value} {after : Context} (idle : ctx.Idle after)
      (alone : answer.isOk = true → dependent name = false) : Reckons services name ctx (answer, after)
  | called {service : Service} {call : Call} {after : Context}
      (answering : services.answering? call = some service) (maker : call.maker? = some name)
      (noted : after.outside.calls = call :: ctx.outside.calls)
      (counted : after.recordsProcessed =
        ctx.recordsProcessed + call.credit ((service ctx.outside.calls call).map call.answerOf)) :
      Reckons services name ctx ((service ctx.outside.calls call).map call.answerOf, after)

namespace Reckons

variable {services : Services} {name : String} {ctx : Context}

/-- A turn that fails before it calls anything reckons: there is nothing to count. -/
theorem error (cause : ActionError) {after : Context} (idle : ctx.Idle after) :
    Reckons services name ctx (.error cause, after) := by
  refine .uncalled idle fun ended => ?_
  cases ended

/-- A built-in that answers without a client reckons, as its credit is nothing. -/
theorem ok (answer : Value) {after : Context} (idle : ctx.Idle after) (independent : dependent name = false) :
    Reckons services name ctx (.ok answer, after) :=
  .uncalled idle fun _ => independent

/-- What comes after an idle time is reckoned from before it. -/
theorem after_idle {between : Context} {done : Except ActionError Value × Context} (idle : ctx.Idle between)
    (reckons : Reckons services name between done) : Reckons services name ctx done := by
  cases reckons with
  | uncalled later alone =>
    exact .uncalled ⟨later.calls_eq.trans idle.calls_eq, later.records_eq.trans idle.records_eq⟩ alone
  | called answering maker noted counted =>
    -- the service is asked after the same earlier calls
    rw [idle.calls_eq] at noted counted ⊢
    rw [idle.records_eq] at counted
    exact .called answering maker noted counted

end Reckons

namespace Action

section

variable {services : Services} {name : String} {ctx : Context}

/-- Only what the checks find matters for what follows them. -/
theorem checked_reckons {α : Type} {checks : Except ActionError α}
    {next : α → Context → Except ActionError Value × Context}
    (each : ∀ found, checks = .ok found → Reckons services name ctx (next found ctx)) :
    Reckons services name ctx (checked checks next ctx) := by
  unfold checked
  split
  · exact .error _ (.refl ctx)
  · rename_i found
    exact each found rfl

/-- A throttle before an action changes nothing of what the action reckons, since waiting is idle.
-/
theorem afterThrottle_reckons (throttle : Option Throttle)
    {next : Context → Except ActionError Value × Context}
    (each : ∀ between, Reckons services name between (next between)) :
    Reckons services name ctx (afterThrottle throttle next ctx) := by
  have idle := ctx.awaitTurn?_idle throttle
  unfold afterThrottle
  split
  · rename_i reason after turn
    rw [turn] at idle
    exact .error _ idle
  · rename_i after turn
    rw [turn] at idle
    exact .after_idle idle (each after)

/-- A call whose answers count for nothing. -/
theorem call_reckons {service : Service} (call : Call) (answering : services.answering? call = some service)
    (maker : call.maker? = some name) (uncounted : ∀ answer, call.records answer = 0) :
    Reckons services name ctx ((ctx.call service call).1.map call.answerOf, (ctx.call service call).2) := by
  refine .called answering maker rfl ?_
  cases service ctx.outside.calls call with
  | error cause => rfl
  | ok reply => exact congrArg (ctx.recordsProcessed + ·) (uncounted (call.answerOf reply)).symm

/-- A call whose answers count for nothing, and are given as the service replies. -/
theorem call_plain_reckons {service : Service} (call : Call)
    (answering : services.answering? call = some service) (maker : call.maker? = some name)
    (plain : ∀ reply, call.answerOf reply = reply) (uncounted : ∀ answer, call.records answer = 0) :
    Reckons services name ctx (ctx.call service call) := by
  have came : Reckons services name ctx _ := call_reckons call answering maker uncounted
  rcases called : ctx.call service call with ⟨answer, after⟩
  rw [called] at came
  cases answer with
  | error cause => exact came
  | ok reply =>
    simp only [Except.map, plain] at came
    exact came

/-- A call whose answers are counted, and given as they are. -/
theorem call_counted_reckons {service : Service} (call : Call)
    (answering : services.answering? call = some service) (maker : call.maker? = some name)
    (plain : ∀ reply, call.answerOf reply = reply) {count : Value → Nat}
    (counts : ∀ answer, call.records answer = count answer) :
    Reckons services name ctx
      (match ctx.call service call with
        | (.ok items, ctx) => (.ok items, ctx.countProcessed (count items))
        | (.error e, ctx) => (.error e, ctx)) := by
  have came := @Reckons.called services name ctx service call
  unfold Context.call
  cases replied : service ctx.outside.calls call with
  | error cause =>
    rw [replied] at came
    exact came answering maker rfl rfl
  | ok reply =>
    rw [replied] at came
    simp only [Except.map, plain, Call.credit_ok, counts] at came
    exact came answering maker rfl rfl

end

/-! ## The standard actions -/

/-- An action that gets past the check for its service has been given that service. -/
theorem configured_eq_ok {service : Option Service} {missing : MissingService} {found : Service}
    (given : configured service missing = .ok found) : service = some found := by
  cases service with
  | none => cases given
  | some service =>
    cases given
    rfl

section

variable (services : Services) (fields : Fields) (ctx : Context)

/-- `http_post` makes at most one call, and counts nothing. -/
theorem httpPost_reckons : Reckons services "http_post" ctx (httpPost services.http fields ctx) := by
  apply checked_reckons
  intro found checks
  obtain ⟨url, -, checks⟩ := exists_of_bind_eq_ok checks
  obtain ⟨headers, -, checks⟩ := exists_of_bind_eq_ok checks
  obtain ⟨service, given, checks⟩ := exists_of_bind_eq_ok checks
  obtain ⟨throttle, -, checks⟩ := exists_of_bind_eq_ok checks
  cases checks
  apply afterThrottle_reckons
  intro between
  exact call_plain_reckons _ (configured_eq_ok given) rfl (fun _ => rfl) fun _ => rfl

/-- `supabase_query` makes at most one call, and counts nothing. -/
theorem databaseQuery_reckons :
    Reckons services "supabase_query" ctx (databaseQuery services.database fields ctx) := by
  apply checked_reckons
  intro found checks
  obtain ⟨service, given, checks⟩ := exists_of_bind_eq_ok checks
  obtain ⟨statement, -, checks⟩ := exists_of_bind_eq_ok checks
  cases checks
  exact call_reckons (.query statement _) (configured_eq_ok given) rfl fun _ => rfl

/-- `supabase_insert` makes at most one call, and counts the rows that were taken. -/
theorem databaseInsert_reckons :
    Reckons services "supabase_insert" ctx (databaseInsert services.database fields ctx) := by
  apply checked_reckons
  intro found checks
  obtain ⟨service, given, checks⟩ := exists_of_bind_eq_ok checks
  obtain ⟨table, -, checks⟩ := exists_of_bind_eq_ok checks
  obtain ⟨rows, -, checks⟩ := exists_of_bind_eq_ok checks
  cases checks
  exact call_counted_reckons (.insert table rows) (configured_eq_ok given) rfl (fun _ => rfl)
    (Call.records_insert table rows)

/-- An actor's run makes one call, and counts the items that came back. -/
theorem runActor_reckons (arguments : Value) :
    Reckons services "mcp_tool" ctx (runActor services.actors arguments ctx) := by
  apply checked_reckons
  intro found checks
  obtain ⟨service, given, checks⟩ := exists_of_bind_eq_ok checks
  split at checks
  · cases checks
    dsimp only
    split
    · exact .ok _ (.refl ctx) rfl
    · exact call_counted_reckons (.actor _ _) (configured_eq_ok given) rfl (fun _ => rfl)
        (Call.records_actor _ _)
  · cases checks

/-- `mcp_tool` reckons along both of its ways, the actor's and the plain tool's. -/
theorem toolCall_reckons :
    Reckons services "mcp_tool" ctx (toolCall services.tools services.actors fields ctx) := by
  apply checked_reckons
  rintro ⟨server, tool, throttle⟩ -
  apply afterThrottle_reckons
  intro between
  split
  · exact runActor_reckons services between _
  · cases given : services.tools with
    | some service => exact call_plain_reckons _ given rfl (fun _ => rfl) fun _ => rfl
    | none => exact .ok _ (.refl between) rfl

end

end Action

namespace Registry

/-- What every standard action comes to, for all parameters, contexts and services. -/
theorem dispatch_reckons (services : Services) (name : String) (fields : Fields) (ctx : Context) :
    Reckons services name ctx ((standard services).dispatch name fields ctx) := by
  have alone : ∀ entry ∈ serviceless, dependent entry.1 = false := by decide
  have calling : ∀ entry ∈ outward services, Reckons services entry.1 ctx (entry.2 fields ctx) := by
    simp only [outward, List.forall_mem_cons]
    exact ⟨Action.httpPost_reckons services fields ctx, Action.databaseQuery_reckons services fields ctx,
      Action.databaseInsert_reckons services fields ctx, Action.toolCall_reckons services fields ctx,
      List.forall_mem_nil _⟩
  unfold dispatch
  split
  · rename_i action found
    rw [standard_eq] at found
    rcases List.mem_append.mp (Table.mem_of_get?_ofList found) with member | member
    · exact .uncalled (staysIdle_of_mem_serviceless fields _ member ctx) fun _ => alone _ member
    · exact calling _ member
  · exact .error _ (.refl ctx)

end Registry

/-! ## One turn after another -/

/-- One action of a sequence: what it was run in, what it answered and what it left. -/
structure Turn where
  name : String
  before : Context
  answer : Except ActionError Value
  after : Context

namespace Turn

/-- The calls that were made in the turn, last first. -/
def made (turn : Turn) : List Call :=
  turn.after.outside.calls.take (turn.after.outside.calls.length - turn.before.outside.calls.length)

/-- The number of records that the turn counts for. -/
def credit (turn : Turn) : Nat := turn.made.foldr (fun call n => call.credit turn.answer + n) 0

/-- What there is to say of the calls and the records of a turn. -/
structure IsAccounted (services : Services) (turn : Turn) : Prop where
  /-- Earlier calls stay as they were. -/
  calls_eq : turn.after.outside.calls = turn.made ++ turn.before.outside.calls
  /-- There is at most one call. -/
  made_le : turn.made.length ≤ 1
  /-- Only these actions make calls, each calls of its own kind. -/
  made_by : ∀ call ∈ turn.made, call.maker? = some turn.name
  /-- The turn answers what the service replied to the call. -/
  answer_eq : ∀ call ∈ turn.made, ∃ service, services.answering? call = some service ∧
    turn.answer = (service turn.before.outside.calls call).map call.answerOf
  /-- Requests, queries and insertions do not succeed without a call. -/
  made_of_ok : dependent turn.name = true → ∀ answer, turn.answer = .ok answer → turn.made ≠ []
  /-- If anything but a request failed, there was no call. -/
  unmade : ∀ cause, turn.answer = .error cause → (∀ message, cause ≠ .http message) → turn.made = []
  /-- The count of records grows by what the turn counts for. -/
  records_eq : turn.after.recordsProcessed = turn.before.recordsProcessed + turn.credit

/-- An idle turn has made no call. -/
theorem made_of_idle {turn : Turn} (idle : turn.before.Idle turn.after) : turn.made = [] := by
  simp [made, idle.calls_eq]

/-- A turn that noted one call has made exactly that one. -/
theorem made_of_noted {turn : Turn} {call : Call}
    (noted : turn.after.outside.calls = call :: turn.before.outside.calls) : turn.made = [call] := by
  simp [made, noted]

/-- What the bodies reckon is what the account asks of a turn, once every failed call has failed by
the request it was given. -/
theorem isAccounted_of_reckons {services : Services} (given : services.FailByRequest) {name : String}
    {ctx : Context} {done : Except ActionError Value × Context} (reckons : Reckons services name ctx done) :
    IsAccounted services ⟨name, ctx, done.1, done.2⟩ := by
  cases reckons with
  | @uncalled answer after idle alone =>
    have made : made ⟨name, ctx, answer, after⟩ = [] := made_of_idle idle
    exact {
      calls_eq := by
        rw [made]
        exact idle.calls_eq
      made_le := by simp [made]
      made_by := by simp [made]
      answer_eq := by simp [made]
      made_of_ok := by
        intro needed value answered
        cases answered
        exact absurd (alone rfl) (by simp [needed])
      unmade := fun _ _ _ => made
      records_eq := by
        rw [credit, made]
        exact idle.records_eq }
  | @called service call after answering maker noted counted =>
    have made : made ⟨name, ctx, (service ctx.outside.calls call).map call.answerOf, after⟩ = [call] :=
      made_of_noted noted
    exact {
      calls_eq := by
        rw [made]
        exact noted
      made_le := by simp [made]
      made_by := by simpa [made] using maker
      answer_eq := by simpa [made] using ⟨service, answering, rfl⟩
      made_of_ok := by simp [made]
      unmade := by
        -- it was the service that failed, and that says so
        intro cause failed other
        cases replied : service ctx.outside.calls call with
        | error reason =>
          obtain ⟨message, rfl⟩ := given call service answering _ _ replied
          simp only [replied, Except.map, Except.error.injEq] at failed
          exact absurd failed.symm (other message)
        | ok reply =>
          simp only [replied, Except.map] at failed
          cases failed
      records_eq := by
        rw [credit, made]
        exact counted }

end Turn

namespace Registry

/-- The turns of a sequence of actions. -/
def turns (registry : Registry) : List (String × Fields) → Context → List Turn
  | [], _ => []
  | (name, fields) :: steps, ctx =>
    let done := registry.dispatch name fields ctx
    ⟨name, ctx, done.1, done.2⟩ :: registry.turns steps done.2

/-- The context that a sequence of actions leaves. -/
def afterTurns (registry : Registry) : List (String × Fields) → Context → Context
  | [], ctx => ctx
  | (name, fields) :: steps, ctx => registry.afterTurns steps (registry.dispatch name fields ctx).2

/-- The number of records that some turns count for together. -/
def creditOf (turns : List Turn) : Nat := turns.foldr (fun turn n => turn.credit + n) 0

/-- The credit of a sequence of turns is the first turn's and the rest's. -/
@[simp] theorem creditOf_cons (turn : Turn) (turns : List Turn) :
    creditOf (turn :: turns) = turn.credit + creditOf turns := rfl

/-- Every turn of a sequence of standard actions is accounted for, and the number of records grows by what
the turns count for, provided that services fail by failed requests. A turn that asks for a throttle without a
quota goes on here with the one that `Throttle.intervalOf` makes up. -/
theorem turns_areAccounted (services : Services) (given : services.FailByRequest)
    (steps : List (String × Fields)) (ctx : Context) :
    (∀ turn ∈ (standard services).turns steps ctx, turn.IsAccounted services) ∧
      ((standard services).afterTurns steps ctx).recordsProcessed =
        ctx.recordsProcessed + creditOf ((standard services).turns steps ctx) := by
  induction steps generalizing ctx with
  | nil => exact ⟨List.forall_mem_nil _, rfl⟩
  | cons step steps ih =>
    obtain ⟨name, fields⟩ := step
    have reckons := dispatch_reckons services name fields ctx
    unfold turns afterTurns
    generalize (standard services).dispatch name fields ctx = done at reckons
    obtain ⟨later, total⟩ := ih done.2
    have now := Turn.isAccounted_of_reckons given reckons
    refine ⟨List.forall_mem_cons.mpr ⟨now, later⟩, ?_⟩
    rw [total, creditOf_cons, now.records_eq, Nat.add_assoc]

/-- Services that a sequence may use: requests fail, the database inserts what it gets, and actors give two
records. There are no tools. -/
def servicesTrial : Services where
  http := some fun _ _ => .error (.http "refused")
  database := some fun _ call =>
    match call with
    | .insert _ rows => .ok rows
    | _ => .ok .null
  tools := none
  actors := some fun _ _ => .ok (.list [.null, .flag true])

/-- A sequence: an insertion of three records, one with no table, a request, an actor and a tool. -/
def stepsTrial : List (String × Fields) := [
  ("supabase_insert", [("data", .list [.null, .null, .null]), ("table", .text "t")]),
  ("supabase_insert", [("data", .list [.null])]),
  ("http_post", [("url", .text "u")]),
  ("mcp_tool", [("arguments", .record [("actor", .text "a")]), ("server", .text "apify"),
    ("tool", .text "call-actor")]),
  ("mcp_tool", [("server", .text "s"), ("tool", .text "t")])]

/-- Of five turns three make a call, and five records are counted. -/
theorem turns_areAccounted_trial :
    let ctx := Context.start [] [] ⟨0, none, fun _ => .null, fun _ => .error "", (0, 0), [], []⟩
    let turns := (standard servicesTrial).turns stepsTrial ctx
    (∀ turn ∈ turns, turn.IsAccounted servicesTrial) ∧
      turns.map (fun turn => turn.made.length) = [1, 0, 1, 1, 0] ∧
      turns.map Turn.credit = [3, 0, 0, 2, 0] ∧
      ((standard servicesTrial).afterTurns stepsTrial ctx).recordsProcessed = 5 := by
  intro ctx turns
  have given : servicesTrial.FailByRequest := by
    intro call service answering earlier cause failed
    cases call with
    | post url headers body =>
      cases answering
      cases failed
      exact ⟨"refused", rfl⟩
    | query | insert | actor =>
      cases answering
      cases failed
    | tool | noted => cases answering
  obtain ⟨each, total⟩ := turns_areAccounted servicesTrial given stepsTrial ctx
  have made : turns.map (fun turn => turn.made.length) = [1, 0, 1, 1, 0] := by decide +kernel
  have credits : turns.map Turn.credit = [3, 0, 0, 2, 0] := by decide +kernel
  have credited : creditOf turns = 5 := by decide +kernel
  refine ⟨each, made, credits, ?_⟩
  rw [total, credited]
  rfl

end Registry

end Stepwise
