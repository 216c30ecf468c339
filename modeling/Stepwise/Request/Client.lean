import Stepwise.Request.Address
import Stepwise.Action.Services
import Stepwise.Json.Reader
import Stepwise.Text.Base64
import Stepwise.Value.Writer

/-!
# Requests

The services of a run are reached with requests that carry JSON. A client makes the request for a call;
the reply to it is read as JSON, or as text where it is none. How a request gets its reply is left open:
it may get none.
-/

set_option autoImplicit false

namespace Stepwise

/-- A request that carries a body. -/
structure Request where
  address : Address
  /-- The values of each header, by its name in lower case. -/
  headers : Table (List String)
  body : String

/-- Why a request comes to nothing. -/
inductive RequestError where
  /-- Its address or a header cannot be read. -/
  | malformed
  /-- Nothing can be asked for at its address. -/
  | unusable (address : Address)
  | unanswered (address : Address)

/-- The wording of a request error. -/
def RequestError.message : RequestError → String
  | .malformed => "builder error"
  | .unusable address => "builder error for url (" ++ address.text ++ ")"
  | .unanswered address => "error sending request for url (" ++ address.text ++ ")"

/-- The reply to a request. -/
structure Reply where
  status : Nat
  text : String
deriving DecidableEq, Repr

/-- How requests get replies. -/
abbrev Sender : Type := Request → Option Reply

namespace Request

/-- A character of the name of a header. -/
def isNameChar (c : Char) : Bool := c.isAlphanum || "!#$%&'*+-.^_`|~".toList.contains c

/-- A name that a header may have. -/
def isHeaderName (name : String) : Bool := !name.isEmpty && name.toList.all isNameChar

/-- A value that a header may have. -/
def isHeaderValue (value : String) : Bool :=
  value.toList.all fun c => c == '\t' || (0x20 ≤ c.toNat && c.toNat != 0x7f)

/-- Adds a value to a header, if both may stand in a request. -/
def withHeader? (request : Request) (name value : String) : Option Request :=
  if isHeaderName name && isHeaderValue value then
    let key := name.toLower
    let values := (Table.get? request.headers key).getD []
    some { request with headers := Table.put request.headers key (values ++ [value]) }
  else none

/-- The text that an escaped text stands for, if it is one. -/
def unescaped? (text : List Char) : Option String :=
  ((Text.ofUtf8 (Escape.undone (String.ofList text).toUTF8.toList)).toOption).map String.ofList

/-- The header that tells who asks. -/
def authorization (user : String) (password : Option String) : String :=
  let both := user ++ ":" ++ password.getD ""
  "Basic " ++ String.ofList (Text.Base64.encode both.toUTF8.toList)

/-- The address without the credentials in it, and the header that takes their place. Credentials that are
no text stay where they are. -/
def withoutCredentials (address : Address) : Address × Option String :=
  let told := do
    let authority ← address.authority
    let credentials ← authority.credentials
    let user ← unescaped? credentials.user
    let password := credentials.password.bind unescaped?
    if user.isEmpty && password.isNone then none
    return ({ authority with credentials := none }, authorization user password)
  match told with
  | some (authority, header) => ({ address with authority := some authority }, some header)
  | none => (address, none)

/-- The greatest number of bytes in the address of a request. -/
def longestAddress : Nat := 65534

/-- An address at which something can be asked for. -/
def isUsable (address : Address) : Bool :=
  (address.scheme == "http" || address.scheme == "https") &&
    address.host?.any (!·.isUnsendable) && address.text.utf8ByteSize ≤ longestAddress

/-- A request that carries a value as JSON. -/
def post (address : Option Address) (headers : List (String × String)) (body : Value) :
    Except RequestError Request :=
  match address with
  | none => .error .malformed
  | some address =>
    if address.host?.isNone then .error (.unusable address)
    else
      let (address, told) := withoutCredentials address
      let known := (told.map fun value => ("authorization", [value])).toList
      let start : Request := ⟨address, known ++ [("content-type", ["application/json"])], body.compact⟩
      match headers.foldlM (fun request header => request.withHeader? header.1 header.2) start with
      | none => .error .malformed
      | some request => if isUsable address then .ok request else .error (.unusable address)

end Request

namespace Reply

/-- A status that tells of success. -/
def isSuccess (reply : Reply) : Bool := 200 ≤ reply.status && reply.status < 300

/-- The text of a reply, without the mark of its encoding. Some replies have none, whatever comes. -/
def content (reply : Reply) : String :=
  if reply.status == 204 || reply.status == 304 then ""
  else match reply.text.toList with
    | '\ufeff' :: rest => String.ofList rest
    | _ => reply.text

/-- What a reply says: the value that its text is, or the text. -/
def answer (reply : Reply) : Except String Value :=
  if reply.isSuccess then
    .ok (((Json.read? Json.depthLimit reply.content).bind Node.value?).getD (.text reply.content))
  else .error ("HTTP " ++ toString reply.status ++ ": " ++ reply.content)

end Reply

/-- What is reached with requests: any address, a database at an address with a key, or actors at an
address with a token. -/
inductive Client where
  | anywhere
  | database (address key : String)
  | actors (address token : String)

namespace Client

/-- The text without the slashes that it ends with. -/
def withoutSlashes (text : String) : String :=
  String.ofList (text.toList.reverse.dropWhile (· == '/')).reverse

/-- The request to a part of a database. -/
def databaseRequest (address key part : String) (headers : List (String × String)) (body : Value) :
    Except RequestError Request :=
  Request.post (Address.ofText? (withoutSlashes address ++ "/rest/v1/" ++ part))
    ([("apikey", key), ("authorization", "Bearer " ++ key)] ++ headers) body

/-- The address at which an actor is run. The slash in the name of an actor is written as a tilde. -/
def actorAddress (address name : String) : String :=
  let plain := name.toList.map fun c => if c == '/' then '~' else c
  withoutSlashes address ++ "/acts/" ++ String.ofList plain ++ "/run-sync-get-dataset-items"

/-- The request that a client makes for a call. A call of another kind is none that it can make. -/
def request : Client → Call → Except RequestError Request
  | .anywhere, .post url headers body => Request.post (Address.ofText? url) headers body
  | .database address key, .query statement parameters =>
    databaseRequest address key "rpc/execute_sql" []
      (.object [("query", .text statement), ("params", .list parameters)])
  | .database address key, .insert table rows =>
    databaseRequest address key table [("prefer", "return=representation")] rows
  | .actors address token, .actor name input =>
    Request.post ((Address.ofText? (actorAddress address name)).map (·.withField "token" token)) [] input
  | _, _ => .error .malformed

/-- The reply to a call. -/
def reply (client : Client) (send : Sender) (call : Call) : Except RequestError Reply := do
  let request ← client.request call
  match send request with
  | none => .error (.unanswered request.address)
  | some reply => .ok reply

/-- What comes of a call. -/
def exchange (client : Client) (send : Sender) (call : Call) : Except String Value :=
  match client.reply send call with
  | .ok reply => reply.answer
  | .error error => .error error.message

/-- A client as a service, which fails only as its requests do. -/
def service (client : Client) (send : Sender) : Service := fun _ call =>
  (client.exchange send call).mapError .http

/-- Where actors are run, unless something else is said. -/
def usualActors : String := "https://api.apify.com/v2"

end Client

/-- The services that an environment gives access to, reached with requests. -/
def Services.online (send : Sender) (environment : Table String) : Services :=
  ofEnvironment (Client.anywhere.service send)
    (fun address key => (Client.database address key).service send)
    (fun token => (Client.actors Client.usualActors token).service send) environment

end Stepwise
