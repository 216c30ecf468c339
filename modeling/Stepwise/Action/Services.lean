import Stepwise.Action.Registry

/-!
# Services

What actions call outside of the run. A service answers a call, and its answer may depend on the calls
before it. Every call is noted in the context, whatever comes of it.
-/

set_option autoImplicit false

namespace Stepwise

/-- What a service answers to a call after earlier ones, last first; or how it fails. -/
abbrev Service : Type := List Call → Call → Except ActionError Value

/-- The services that a run may use. -/
structure Services where
  http : Option Service
  database : Option Service
  tools : Option Service
  actors : Option Service

namespace Services

/-- No services at all. -/
def none : Services := ⟨.none, .none, .none, .none⟩

/-- Which services there are, on one line. -/
def text (services : Services) : String :=
  let part (name : String) (service : Option Service) := name ++ ": " ++ toString service.isSome
  "ExternalClients \x7b " ++
    ", ".intercalate [part "http" services.http, part "database" services.database,
      part "mcp" services.tools, part "actors" services.actors] ++
    " \x7d"

/-- The first of the variables that is set to more than blanks, without blanks around it. -/
def firstSet? (environment : Table String) (names : List String) : Option String :=
  names.findSome? fun name =>
    ((Table.get? environment name).map Text.trimmed).filter (!·.isEmpty)

/-- The address and the key of the database that an environment names. -/
def databaseAccess? (environment : Table String) : Option (String × String) :=
  match firstSet? environment ["SUPABASE_URL", "VITE_SUPABASE_URL", "NEXT_PUBLIC_SUPABASE_URL"],
    firstSet? environment
      ["SUPABASE_SERVICE_ROLE_KEY", "SUPABASE_SERVICE_ROLE", "VITE_SUPABASE_ANON_KEY"] with
  | some address, some key => some (address, key)
  | _, _ => .none

/-- The token for actors that an environment names. -/
def actorToken? (environment : Table String) : Option String := firstSet? environment ["APIFY_API_TOKEN"]

/-- The services that an environment gives access to, made from an address and a key. There is always
one for plain requests and never one for tools. -/
def ofEnvironment (http : Service) (database : String → String → Service) (actors : String → Service)
    (environment : Table String) : Services :=
  { http := some http
    database := (databaseAccess? environment).map fun access => database access.1 access.2
    tools := .none
    actors := (actorToken? environment).map actors }

end Services

/-- Makes a call. -/
def Context.call (ctx : Context) (service : Service) (call : Call) : Except ActionError Value × Context :=
  (service ctx.outside.calls call, ctx.noteCall call)

/-- Counts records as processed. -/
def Context.countProcessed (ctx : Context) (n : Nat) : Context :=
  { ctx with recordsProcessed := ctx.recordsProcessed + n }

end Stepwise
