import Stepwise.Csv.Rows
import Stepwise.Store.Buffers

/-!
# Why actions fail

The causes of failed actions and their wording.
-/

set_option autoImplicit false

namespace Stepwise

/-- What is wrong with a parameter. -/
inductive ParamFault where
  | notText
  | notCount (found : Value)
  | notRecord
  | notList
  | notNumber (found : Value)
  | notPositive

/-- The wording of a parameter fault. -/
def ParamFault.message : ParamFault → String
  | .notText => "expected a string"
  | .notCount found => "expected a non-negative integer, got " ++ found.compact
  | .notRecord => "expected an object"
  | .notList => "must be an array"
  | .notNumber found => "not a number: " ++ found.compact
  | .notPositive => "must be greater than zero"

/-- A service that an action needs and that is not configured. -/
inductive MissingService where
  | http
  | database (action : String)
  | actors

/-- The wording of a missing service. -/
def MissingService.message : MissingService → String
  | .http => "http_post: no HTTP client configured"
  | .database action =>
    action ++ ": database client not configured (set SUPABASE_URL and SUPABASE_SERVICE_ROLE_KEY)"
  | .actors => "mcp_tool: actor client not configured (set APIFY_API_TOKEN)"

/-- Why an action fails. -/
inductive ActionError where
  | unknownAction (name : String)
  | missingParam (action param : String)
  | invalidParam (action param : String) (fault : ParamFault)
  | store (error : InvalidBatchSize)
  | handler (message : String)
  | unconfigured (service : MissingService)
  | http (message : String)
  | csv (fault : Csv.Fault)
  | io (message : String)
  | cancelled (reason : String)

/-- The wording of an action error. -/
def ActionError.message : ActionError → String
  | .unknownAction name => "Unknown action: " ++ name
  | .missingParam action param => action ++ ": parameter '" ++ param ++ "' is required"
  | .invalidParam action param fault =>
    action ++ ": invalid parameter '" ++ param ++ "': " ++ fault.message
  | .store error => error.message
  | .handler message => message
  | .unconfigured service => service.message
  | .http message => message
  | .csv fault => "CSV error: " ++ fault.message
  | .io message => "IO error: " ++ message
  | .cancelled reason => "Cancelled: " ++ reason

end Stepwise
