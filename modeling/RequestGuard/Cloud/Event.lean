import RequestGuard.Request.Context
import RequestGuard.Stats.Basic

/-!
# Events

What an agent tells the control plane: that it has started, what it counted, and which attack it
detected. Of the request of an attack, headers with credentials are left out.
-/

namespace RequestGuard.Cloud

open Json (Value)

/-- The agent that an event comes from. In dry mode attacks are never blocked. -/
structure AgentInfo where
  library : String := "runtime-shield"
  version : String := "0.1.0"
  dryMode : Bool
deriving DecidableEq, Repr

/-- An attack as it is reported, with the user of its request. -/
structure ReportedAttack where
  attack : Attack
  user : Option User
deriving DecidableEq, Repr

/-- The request of an attack, as far as it is shared. -/
structure AttackRequest where
  method : String
  url : String
  route : String
  ip : Option String
  userAgent : Option String
  headers : ValuesByName
  adapter : String
deriving DecidableEq, Repr

inductive Event where
  | started (agent : AgentInfo)
  | heartbeat (agent : AgentInfo) (stats : Stats)
  | detectedAttack (agent : AgentInfo) (attack : ReportedAttack) (request : Option AttackRequest)
deriving DecidableEq, Repr

/-- How many characters of a payload are reported. -/
def maxPayload : Nat := 4096

def secretHeaders : List String := ["authorization", "cookie", "proxy-authorization"]

def AttackRequest.ofRequest (request : Request) : AttackRequest where
  method := request.method
  url := request.url
  route := request.route
  ip := request.ip
  userAgent := request.userAgent?
  headers := request.headers.filter fun (name, _) => !secretHeaders.contains name
  adapter := request.adapter

def ReportedAttack.ofAttack (attack : Attack) (user : Option User) : ReportedAttack where
  attack := { attack with payload := String.ofList (attack.payload.toList.take maxPayload) }
  user

def Event.ofAttack (agent : AgentInfo) (attack : Attack) (context : Option Context) : Event :=
  .detectedAttack agent (.ofAttack attack (context.bind Context.user))
    (context.map fun context => .ofRequest context.request)

def AgentInfo.toJson (agent : AgentInfo) : Value :=
  .ofMembers
    [("library", .string agent.library), ("version", .string agent.version),
      ("dryMode", .bool agent.dryMode)]

def userToJson (user : User) : Value :=
  .ofMembers [("id", .string user.id), ("name", .string user.name)]

def ReportedAttack.toJson (reported : ReportedAttack) : Value :=
  let attack := reported.attack
  .ofMembers
    [("kind", .string attack.kind.name), ("operation", .string attack.operation),
      ("source", .string attack.source.name), ("path", .string attack.path),
      ("payload", .string attack.payload),
      ("metadata", .object (attack.metadata.map fun (name, text) => (name, .string text))),
      ("blocked", .bool attack.blocked), ("user", .ofOption userToJson reported.user)]

def AttackRequest.toJson (request : AttackRequest) : Value :=
  .ofMembers
    [("method", .string request.method), ("url", .string request.url),
      ("route", .string request.route), ("ipAddress", .ofOption .string request.ip),
      ("userAgent", .ofOption .string request.userAgent),
      ("headers", .object (request.headers.map fun (name, values) =>
        (name, .array (values.map .string)))),
      ("source", .string request.adapter)]

def Event.toJson : Event → Value
  | .started agent => .ofMembers [("type", .string "started"), ("agent", agent.toJson)]
  | .heartbeat agent stats =>
    .ofMembers
      [("type", .string "heartbeat"), ("agent", agent.toJson), ("stats", stats.toJson)]
  | .detectedAttack agent attack request =>
    .ofMembers
      [("type", .string "detected_attack"), ("agent", agent.toJson), ("attack", attack.toJson),
        ("request", .ofOption AttackRequest.toJson request)]

end RequestGuard.Cloud
