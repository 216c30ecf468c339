import Stepwise.Proofs.Action.Serviceless

/-!
# What files can tell an action

One standard action reads a file, the one that its parameters name. The others give the same answer whatever
lies in files, and so does that one as long as its file holds the same.
-/

set_option autoImplicit false

namespace Stepwise

namespace Context

variable (ctx : Context) (files : String → Except String (List UInt8))

/-- How long a wait takes has nothing to do with the files. -/
theorem wait_withFiles (duration : Nat) :
    (ctx.withFiles files).wait duration = ((ctx.wait duration).1, (ctx.wait duration).2.withFiles files) := by
  have cancelled_eq : (ctx.withFiles files).cancelled = ctx.cancelled := rfl
  have alarm_eq : (ctx.withFiles files).outside.alarm = ctx.outside.alarm := rfl
  have clock_eq : (ctx.withFiles files).outside.clock = ctx.outside.clock := rfl
  unfold wait
  rw [cancelled_eq, alarm_eq, clock_eq]
  split
  · rfl
  · split
    · rfl
    · split
      · split <;> rfl
      · rfl

/-- Nor has the waiting for one's turn at a throttle. -/
theorem awaitTurn?_withFiles (throttle : Option Throttle) :
    (ctx.withFiles files).awaitTurn? throttle =
      ((ctx.awaitTurn? throttle).1, (ctx.awaitTurn? throttle).2.withFiles files) := by
  cases throttle with
  | none => rfl
  | some throttle =>
    have limiters_eq : (ctx.withFiles files).limiters = ctx.limiters := rfl
    have clock_eq : (ctx.withFiles files).outside.clock = ctx.outside.clock := rfl
    unfold awaitTurn? awaitTurn
    dsimp only
    rw [limiters_eq, clock_eq]
    rcases ctx.limiters.ask throttle ctx.outside.clock with ⟨answer, limiters⟩
    cases answer with
    | ok => rfl
    | error earliest =>
      have asked_eq : ({ ctx.withFiles files with limiters } : Context) =
          ({ ctx with limiters } : Context).withFiles files := rfl
      dsimp only
      rw [asked_eq, wait_withFiles]
      rcases ({ ctx with limiters } : Context).wait (Throttle.pause earliest ctx.outside.clock)
        with ⟨reason, after⟩
      cases reason <;> rfl

end Context

namespace Action

/-- Whatever lies in files, what is done comes to the same and leaves the same. -/
def IgnoresFiles (next : Context → Except ActionError Value × Context) : Prop :=
  ∀ (ctx : Context) (files : String → Except String (List UInt8)),
    next (ctx.withFiles files) = ((next ctx).1, (next ctx).2.withFiles files)

/-- Checks do not look at the context, so only what follows them matters. -/
theorem checked_ignoresFiles {α : Type} {checks : Except ActionError α}
    {next : α → Context → Except ActionError Value × Context} (each : ∀ found, IgnoresFiles (next found)) :
    IgnoresFiles (checked checks next) := by
  intro ctx files
  cases checks with
  | error cause => rfl
  | ok found => exact each found ctx files

/-- A throttle before an action that ignores the files gives one that ignores them. -/
theorem afterThrottle_ignoresFiles (throttle : Option Throttle)
    {next : Context → Except ActionError Value × Context} (each : IgnoresFiles next) :
    IgnoresFiles (afterThrottle throttle next) := by
  intro ctx files
  unfold afterThrottle
  rw [ctx.awaitTurn?_withFiles]
  rcases ctx.awaitTurn? throttle with ⟨reason, after⟩
  cases reason with
  | some reason => rfl
  | none => exact each after files

/-- What a client answers does not depend on the files of the run. -/
theorem call_ignoresFiles (service : Service) (call : Call) :
    IgnoresFiles fun ctx => ctx.call service call :=
  fun _ _ => rfl

/-- The same of a call whose answer is counted. -/
theorem call_counted_ignoresFiles (service : Service) (call : Call) (count : Value → Nat) :
    IgnoresFiles fun ctx =>
      match ctx.call service call with
      | (.ok items, ctx) => (.ok items, ctx.countProcessed (count items))
      | (.error e, ctx) => (.error e, ctx) := by
  intro ctx files
  have calls_eq : (ctx.withFiles files).outside.calls = ctx.outside.calls := rfl
  unfold Context.call
  dsimp only
  rw [calls_eq]
  cases service ctx.outside.calls call <;> rfl

/-! ## The standard actions -/

section

variable (fields : Fields)

/-- `log` neither reads nor writes a file. -/
theorem log_ignoresFiles : IgnoresFiles (log fields) := fun _ _ => rfl

/-- Setting a variable ignores files. -/
theorem setVariable_ignoresFiles : IgnoresFiles (setVariable fields) :=
  checked_ignoresFiles fun _ _ _ => rfl

/-- Storing a collection ignores files. -/
theorem setCollection_ignoresFiles : IgnoresFiles (setCollection fields) :=
  checked_ignoresFiles fun _ _ _ => rfl

/-- Dropping a collection ignores files. -/
theorem releaseCollection_ignoresFiles : IgnoresFiles (releaseCollection fields) :=
  checked_ignoresFiles fun _ _ _ => rfl

/-- An append depends on the buffers alone. -/
theorem bufferCollection_ignoresFiles : IgnoresFiles (bufferCollection fields) := by
  apply checked_ignoresFiles
  rintro ⟨name, batchSize⟩ ctx files
  have buffers_eq : (ctx.withFiles files).buffers = ctx.buffers := rfl
  dsimp only
  rw [buffers_eq]
  rcases ctx.buffers.add name (Params.raw ⟨"buffer_collection", fields⟩ "data") batchSize
    with ⟨refusal | done, buffers⟩
  · rfl
  · rfl

/-- A flush depends on the buffers alone. -/
theorem flushBuffer_ignoresFiles : IgnoresFiles (flushBuffer fields) := by
  apply checked_ignoresFiles
  rintro ⟨name, batchSize⟩ ctx files
  have buffers_eq : (ctx.withFiles files).buffers = ctx.buffers := rfl
  dsimp only
  rw [buffers_eq]
  rcases ctx.buffers.drain name batchSize (Params.flagOr ⟨"flush_buffer", fields⟩ "all" false)
    with ⟨refusal | done, buffers⟩
  · rfl
  · rfl

/-- What a source leads to does not lie in files. -/
theorem sourceOf_withFiles (ctx : Context) (files : String → Except String (List UInt8)) (source : Value) :
    sourceOf (ctx.withFiles files) source = sourceOf ctx source := rfl

/-- A deduplication depends on its source alone. -/
theorem dedupCollection_ignoresFiles : IgnoresFiles (dedupCollection fields) := by
  apply checked_ignoresFiles
  intro source ctx files
  dsimp only
  rw [sourceOf_withFiles]
  split
  · rfl
  · rfl

/-- A filter depends on its source alone. -/
theorem filterCollection_ignoresFiles : IgnoresFiles (filterCollection fields) := by
  apply checked_ignoresFiles
  intro source ctx files
  dsimp only
  rw [sourceOf_withFiles]
  split
  · exact checked_ignoresFiles (fun _ _ _ => rfl) ctx files
  · rfl

/-- A transformation depends on its source, and on what its templates mention, which does not lie in files. -/
theorem transformData_ignoresFiles : IgnoresFiles (transformData fields) := by
  apply checked_ignoresFiles
  rintro ⟨source, limit, rules⟩ ctx files
  dsimp only
  rw [sourceOf_withFiles]
  cases rules with
  | none => rfl
  | some rules => rfl

/-- The two waiting actions neither read nor write a file. -/
theorem waiting_ignoresFiles (name param : String) : IgnoresFiles (waiting name param fields) := by
  intro ctx files
  -- the length of a millisecond is hidden: checking the proof would count up to it
  obtain ⟨unit, unit_eq⟩ : ∃ unit, unit = Context.millisecond := ⟨_, rfl⟩
  unfold waiting
  rw [← unit_eq]
  cases Params.countOr ⟨name, fields⟩ param defaultDelay with
  | error cause => rfl
  | ok milliseconds =>
    dsimp only
    rw [ctx.wait_withFiles]
    rcases ctx.wait (milliseconds * unit) with ⟨reason, after⟩
    cases reason <;> rfl

/-- `http_post` neither reads nor writes a file. -/
theorem httpPost_ignoresFiles (http : Option Service) : IgnoresFiles (httpPost http fields) := by
  apply checked_ignoresFiles
  rintro ⟨url, headers, service, throttle⟩
  apply afterThrottle_ignoresFiles
  exact call_ignoresFiles service _

/-- `supabase_query` neither reads nor writes a file. -/
theorem databaseQuery_ignoresFiles (database : Option Service) : IgnoresFiles (databaseQuery database fields) := by
  apply checked_ignoresFiles
  rintro ⟨service, statement⟩
  intro ctx files
  rfl

/-- `supabase_insert` neither reads nor writes a file. -/
theorem databaseInsert_ignoresFiles (database : Option Service) :
    IgnoresFiles (databaseInsert database fields) := by
  apply checked_ignoresFiles
  rintro ⟨service, table, rows⟩
  exact call_counted_ignoresFiles service _ fun inserted => (Buffers.recordsOf inserted).length

/-- An actor's run neither reads nor writes a file. -/
theorem runActor_ignoresFiles (actors : Option Service) (arguments : Value) :
    IgnoresFiles (runActor actors arguments) := by
  apply checked_ignoresFiles
  rintro ⟨service, actor⟩
  dsimp only
  split
  · exact fun _ _ => rfl
  · exact call_counted_ignoresFiles service _ fun items => Value.itemCount (some items)

/-- `mcp_tool` neither reads nor writes a file. -/
theorem toolCall_ignoresFiles (tools actors : Option Service) : IgnoresFiles (toolCall tools actors fields) := by
  intro ctx files
  have environment_eq : (ctx.withFiles files).environment = ctx.environment := rfl
  unfold toolCall
  rw [environment_eq]
  refine checked_ignoresFiles (fun found => ?_) ctx files
  obtain ⟨server, tool, throttle⟩ := found
  apply afterThrottle_ignoresFiles
  split
  · exact runActor_ignoresFiles actors _
  · cases tools with
    | none => exact fun _ _ => rfl
    | some service => exact call_ignoresFiles service _

/-- The rows of a file are the same among files of which this one holds the same. -/
theorem readCsv_withFiles (ctx : Context) {files : String → Except String (List UInt8)}
    (agree : ∀ file, Params.requiredText ⟨"read_csv", fields⟩ "file" = .ok file →
      files file = ctx.outside.files file) :
    readCsv fields (ctx.withFiles files) =
      ((readCsv fields ctx).1, (readCsv fields ctx).2.withFiles files) := by
  have answer_eq : (readCsv fields (ctx.withFiles files)).1 = (readCsv fields ctx).1 := by
    unfold readCsv checked
    cases given : Params.requiredText ⟨"read_csv", fields⟩ "file" with
    | error cause => rfl
    | ok file =>
      have here : (ctx.withFiles files).outside.files file = ctx.outside.files file := agree file given
      cases Params.record? ⟨"read_csv", fields⟩ "filter" with
      | error cause => rfl
      | ok filter =>
        dsimp only [bind, Except.bind, pure, Except.pure]
        rw [here]
        cases ctx.outside.files file with
        | error message => rfl
        | ok bytes =>
          dsimp only
          cases Csv.rows bytes with
          | error fault => rfl
          | ok rows => rfl
  rw [readCsv_onlyReads fields ctx]
  exact Prod.ext answer_eq (readCsv_onlyReads fields _)

end

end Action

namespace Registry

/-- The file that a standard action reads. -/
def fileRead? (name : String) (fields : Fields) : Option String :=
  if name = "read_csv" then (Params.requiredText ⟨name, fields⟩ "file").toOption else none

/-- Every standard action does the same among files of which the one that it reads holds the same. An action
that asks for a throttle without a quota goes on here with the one that `Throttle.intervalOf` makes up. -/
theorem dispatch_withFiles (services : Services) {name : String} {fields : Fields} (ctx : Context)
    {files : String → Except String (List UInt8)}
    (agree : ∀ file, fileRead? name fields = some file → files file = ctx.outside.files file) :
    (standard services).dispatch name fields (ctx.withFiles files) =
      (((standard services).dispatch name fields ctx).1,
        ((standard services).dispatch name fields ctx).2.withFiles files) := by
  have each : ∀ entry ∈ serviceless ++ outward services,
      entry.1 = "read_csv" ∧ entry.2 = Action.readCsv ∨ ∀ fields, Action.IgnoresFiles (entry.2 fields) := by
    simp only [serviceless, inMemory, outward, List.cons_append, List.nil_append, List.forall_mem_cons]
    exact ⟨.inr Action.log_ignoresFiles, .inr Action.setVariable_ignoresFiles,
      .inr Action.setCollection_ignoresFiles, .inr Action.releaseCollection_ignoresFiles,
      .inr Action.bufferCollection_ignoresFiles, .inr Action.flushBuffer_ignoresFiles,
      .inr Action.dedupCollection_ignoresFiles, .inr Action.filterCollection_ignoresFiles,
      .inr Action.transformData_ignoresFiles, .inr fun fields => Action.waiting_ignoresFiles fields _ _,
      .inr fun fields => Action.waiting_ignoresFiles fields _ _, .inl ⟨trivial, trivial⟩,
      .inr fun fields => Action.httpPost_ignoresFiles fields _,
      .inr fun fields => Action.databaseQuery_ignoresFiles fields _,
      .inr fun fields => Action.databaseInsert_ignoresFiles fields _,
      .inr fun fields => Action.toolCall_ignoresFiles fields _ _, List.forall_mem_nil _⟩
  unfold dispatch
  split
  · rename_i action found
    rw [standard_eq] at found
    rcases each (name, action) (Table.mem_of_get?_ofList found) with ⟨rfl, rfl⟩ | ignores
    · refine Action.readCsv_withFiles fields ctx fun file given => agree file ?_
      simp [fileRead?, given, Except.toOption]
    · exact ignores fields ctx files
  · rfl

end Registry

end Stepwise
