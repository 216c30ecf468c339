import Stepwise.Action.Services
import Stepwise.Action.Shaping

/-!
# Actions that reach outside of the run

Files, requests, the database, tools and actors. Parameters and services are checked first, then a
throttle may make the action wait, and only then a call is made, at most one. Records are counted once the
call has succeeded.
-/

set_option autoImplicit false

namespace Stepwise.Action

/-- A cell matches what a filter expects of it: the text that a value is written as, or one of the
texts in the list given. -/
def cellMatches (cell : Option Value) (expected : Value) : Bool :=
  match expected with
  | .list _ => matchesExpected cell expected
  | value => matchesExpected cell (.text value.render)

/-- A row passes a filter if each of its cells matches. -/
def rowPasses (filter row : Fields) : Bool :=
  filter.all fun entry => cellMatches (Table.get? row entry.1) entry.2

/-- Reads the rows of a file that pass a filter. -/
def readCsv : Action := fun fields =>
  let params : Params := ⟨"read_csv", fields⟩
  let checks := do
    let file ← params.requiredText "file"
    let filter ← params.record? "filter"
    return (file, filter.getD [])
  checked checks fun (file, filter) ctx =>
    match ctx.outside.files file with
    | .error message => (.error (.io message), ctx)
    | .ok bytes =>
      match Csv.rows bytes with
      | .error fault => (.error (.csv fault), ctx)
      | .ok rows => (.ok (.list ((rows.filter (rowPasses filter)).map Value.record)), ctx)

/-- The parameter error of a throttle that cannot be read. -/
def throttleError (action : String) (fault : Throttle.Fault) : ActionError :=
  match fault with
  | .notRecord => .invalidParam action "throttle" .notRecord
  | .notNumber found => .invalidParam action "throttle.rps" (.notNumber found)
  | .notPositive => .invalidParam action "throttle.rps" .notPositive

/-- Waits for a throttle, if there is one, and goes on unless the run is cancelled first. -/
def afterThrottle (throttle : Option Throttle)
    (next : Context → Except ActionError Value × Context) (ctx : Context) :
    Except ActionError Value × Context :=
  match ctx.awaitTurn? throttle with
  | (some reason, ctx) => (.error (.cancelled reason), ctx)
  | (none, ctx) => next ctx

/-- The throttle of a parameter, if the parameter is given. -/
def throttleParam? (params : Params) (read : Value → Except Throttle.Fault (Option Throttle)) :
    Except ActionError (Option Throttle) :=
  match params.get? "throttle" with
  | none => .ok none
  | some value => (read value).mapError (throttleError params.action)

/-- A service that has to be there. -/
def configured (service : Option Service) (missing : MissingService) : Except ActionError Service :=
  match service with
  | some found => .ok found
  | none => .error (.unconfigured missing)

/-- Posts data to an address. -/
def httpPost (http : Option Service) : Action := fun fields =>
  let params : Params := ⟨"http_post", fields⟩
  let checks := do
    let url ← params.requiredText "url"
    let headers ← params.record? "headers"
    let service ← configured http .http
    let throttle ← throttleParam? params fun value => Throttle.ofValue value url none
    return (url, (headers.getD []).mapValues Value.render, service, throttle)
  checked checks fun (url, headers, service, throttle) =>
    afterThrottle throttle fun ctx => ctx.call service (.post url headers (params.raw "data"))

/-- The rows of an answer: those under that name, if it has the name, else the answer itself. -/
def rowsOf (answer : Value) : Value := (fieldOf? answer "rows").getD answer

/-- Asks the database. -/
def databaseQuery (database : Option Service) : Action := fun fields =>
  let params : Params := ⟨"supabase_query", fields⟩
  let checks := do
    let service ← configured database (.database params.action)
    let statement ← params.requiredText "query"
    return (service, statement)
  checked checks fun (service, statement) ctx =>
    let (answer, ctx) := ctx.call service
      (.query statement (((params.get? "params").map Buffers.recordsOf).getD []))
    (answer.map rowsOf, ctx)

/-- Inserts records into a table of the database. -/
def databaseInsert (database : Option Service) : Action := fun fields =>
  let params : Params := ⟨"supabase_insert", fields⟩
  let checks := do
    let service ← configured database (.database params.action)
    let table ← params.requiredText "table"
    let rows ← params.required "data"
    return (service, table, rows)
  checked checks fun (service, table, rows) ctx =>
    match ctx.call service (.insert table rows) with
    | (.ok inserted, ctx) => (.ok inserted, ctx.countProcessed (Buffers.recordsOf inserted).length)
    | (.error e, ctx) => (.error e, ctx)

/-- The rate of tool calls when neither the step nor the environment gives one. -/
def defaultToolRate : Text.Real := .finite ⟨false, Nat.pow 2 52, -52⟩

/-- The throttle of a tool call. The environment gives the rate, and the allowance where the step
mentions none. -/
def toolThrottle (environment : Table String) (server tool : String) (value : Value) :
    Except Throttle.Fault (Option Throttle) :=
  let rate := ((Table.get? environment "MCP_APIFY_RPS").bind fun s => Text.real? (Text.trim s.toList))
  let allowance :=
    (((Table.get? environment "MCP_APIFY_BURST").map Value.text).bind Value.asCount?).filter
      (· ≤ Throttle.maxBurst)
  let burst := if (fieldOf? value "burst").isSome then none else allowance
  (Throttle.ofValue value ("mcp_" ++ server ++ "_" ++ tool) (some (rate.getD defaultToolRate))).map
    fun throttle => throttle.map fun throttle =>
      { throttle with burst := (burst.map (max 1)).getD throttle.burst }

/-- Runs an actor and counts the records it gives. One that needs user names and gets none is not
run. -/
def runActor (actors : Option Service) (arguments : Value) :
    Context → Except ActionError Value × Context :=
  let checks := do
    let service ← configured actors .actors
    match ((fieldOf? arguments "actor").bind Value.asText?).filter (!·.isEmpty) with
    | some actor => return (service, actor)
    | none => .error (.missingParam "mcp_tool" "arguments.actor")
  let input := (fieldOf? arguments "input").getD (.record [])
  checked checks fun (service, actor) ctx =>
    if Text.occursIn "instagram".toList actor.toList && Value.itemCount (fieldOf? input "usernames") == 0 then
      (.ok (.list []), ctx)
    else
      match ctx.call service (.actor actor input) with
      | (.ok items, ctx) => (.ok items, ctx.countProcessed (Value.itemCount (some items)))
      | (.error e, ctx) => (.error e, ctx)

/-- What a tool call answers when no tool can be called. -/
def simulated (server tool : String) (arguments : Value) : Value :=
  .object [("success", .flag true), ("simulated", .flag true), ("server", .text server),
    ("tool", .text tool), ("arguments", arguments)]

/-- Calls a tool of a server. Actors of their servers are run directly. -/
def toolCall (tools actors : Option Service) : Action := fun fields ctx =>
  let params : Params := ⟨"mcp_tool", fields⟩
  let arguments := (Table.get? fields "arguments").getD (.record [])
  let checks := do
    let server ← params.requiredText "server"
    let tool ← params.requiredText "tool"
    let throttle ← throttleParam? params (toolThrottle ctx.environment server tool)
    return (server, tool, throttle)
  ctx |> checked checks fun (server, tool, throttle) =>
    afterThrottle throttle fun ctx =>
      if Text.occursIn "apify".toList server.toList && tool == "call-actor" then
        runActor actors arguments ctx
      else
        match tools with
        | some service => ctx.call service (.tool server tool arguments)
        | none => (.ok (simulated server tool arguments), ctx)

end Stepwise.Action
