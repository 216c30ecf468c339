import Stepwise.Action.Outward
import Stepwise.Action.Pausing

/-!
# The standard actions
-/

set_option autoImplicit false

namespace Stepwise.Registry

/-- The registry of the standard actions, which use the given services. -/
def standard (services : Services) : Registry :=
  Table.ofList [
    ("log", Action.log),
    ("set_variable", Action.setVariable),
    ("set_collection", Action.setCollection),
    ("release_collection", Action.releaseCollection),
    ("buffer_collection", Action.bufferCollection),
    ("flush_buffer", Action.flushBuffer),
    ("dedup_collection", Action.dedupCollection),
    ("filter_collection", Action.filterCollection),
    ("transform_data", Action.transformData),
    ("delay", Action.waiting "delay" "milliseconds"),
    ("sleep", Action.waiting "sleep" "duration"),
    ("read_csv", Action.readCsv),
    ("http_post", Action.httpPost services.http),
    ("supabase_query", Action.databaseQuery services.database),
    ("supabase_insert", Action.databaseInsert services.database),
    ("mcp_tool", Action.toolCall services.tools services.actors)]

end Stepwise.Registry
