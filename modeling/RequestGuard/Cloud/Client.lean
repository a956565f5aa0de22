import RequestGuard.Cloud.ControlPlane
import RequestGuard.Settings.Basic

/-!
# A control plane on the web

The operations on the control plane as requests to a web server. The requests and the responses are
data, and a function `exchange` stands for the network: it gives no response if the server cannot be
reached. Nothing is sent without a token.
-/

namespace RequestGuard.Cloud

open Json (Tree Value)

/-- A request to a web server. It carries a JSON value or nothing. -/
structure WebRequest where
  method : String
  url : String
  authorization : String
  userAgent : String := "runtime-shield/0.1.0"
  body : Option Value := none
deriving Repr

def WebRequest.contentType? (request : WebRequest) : Option String :=
  request.body.map fun _ => "application/json"

structure WebResponse where
  status : Nat
  body : String
deriving DecidableEq, Repr

namespace WebResponse

def isSuccess (response : WebResponse) : Bool := 200 ≤ response.status && response.status < 300

/-- The text of a response, without a byte order mark. A response that has no content by its status
has no text. -/
def text (response : WebResponse) : String :=
  if response.status = 204 then ""
  else
    match response.body.toList with
    | '\uFEFF' :: rest => String.ofList rest
    | _ => response.body

end WebResponse

/-- A client of the control plane: its token, and the addresses of the two servers without slashes
at the end. -/
structure Client where
  token : Option String
  endpoint : String
  realtimeEndpoint : String
deriving DecidableEq, Repr

namespace Client

def trimSlashes (s : String) : String := String.ofList (Text.dropTrailing (· == '/') s.toList)

/-- The client with some settings. An empty token is none. -/
def ofSettings (settings : CloudSettings) : Client where
  token := settings.token.filter fun token => !token.isEmpty
  endpoint := trimSlashes settings.endpoint
  realtimeEndpoint := trimSlashes settings.realtimeEndpoint

/-- Whether a character may stand in a header: any that is not a control character of ASCII, and the
tabulator. -/
def isHeaderChar (c : Char) : Bool := c == '\t' || (0x20 ≤ c.toNat && c.toNat != 0x7F)

variable {ω : Type}

def send (exchange : WebRequest → ω → Option WebResponse × ω) (client : Client)
    (method url : String) (body : Option Value) (web : ω) : Except CloudError String × ω :=
  match client.token with
  | none => (.error .missingToken, web)
  | some token =>
    if token.toList.all isHeaderChar then
      match exchange { method, url, authorization := "Bearer " ++ token, body } web with
      | (none, web) => (.error .transport, web)
      | (some response, web) =>
        (if response.isSuccess then .ok response.text else .error (.status response.status), web)
    else (.error .transport, web)

def fetch {α : Type} (exchange : WebRequest → ω → Option WebResponse × ω) (client : Client)
    (url : String) (read : Tree → Option α) (web : ω) : Except CloudError α × ω :=
  let (text, web) := client.send exchange "GET" url none web
  (text.bind fun text =>
    match (Tree.parse? text).bind read with
    | some document => .ok document
    | none => .error .malformed, web)

/-- The configuration in the answer to an event: none if the answer is blank or has no version. -/
def readResponse (text : String) : Except CloudError (Option Config) :=
  if (Text.trim text).isEmpty then .ok none
  else
    match (Tree.parse? text).bind Config.ofJson? with
    | some config => .ok (if 0 < config.updatedAt then some config else none)
    | none => .error .malformed

def plane (exchange : WebRequest → ω → Option WebResponse × ω) (client : Client) :
    ControlPlane ω where
  fetchVersion := client.fetch exchange (client.realtimeEndpoint ++ "/config") ConfigVersion.ofJson?
  fetchConfig := client.fetch exchange (client.endpoint ++ "/api/runtime/config") Config.ofJson?
  fetchLists :=
    client.fetch exchange (client.endpoint ++ "/api/runtime/firewall/lists") FirewallLists.ofJson?
  sendEvent event web :=
    let (text, web) :=
      client.send exchange "POST" (client.endpoint ++ "/api/runtime/events") (some event.toJson) web
    (text.bind readResponse, web)
  passTime _ web := web

end Client

end RequestGuard.Cloud
