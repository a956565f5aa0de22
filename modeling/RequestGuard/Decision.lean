import RequestGuard.Policy.Snapshot
import RequestGuard.RateLimit.Limiter
import RequestGuard.Request.Basic
import RequestGuard.Request.User

/-!
# The decision on a request

Whether a request is refused, and why. A request from a reserved or a bypassed address is admitted.
Otherwise the first of these checks that applies refuses it: the lists of addresses, the user agent,
the user, the allowed addresses of the endpoints, and the rate limit of the first endpoint. Only a
request that passes them all is counted towards the limit.
-/

namespace RequestGuard

open Policy (Snapshot)
open RateLimit (Limiter Trigger)

/-- Why a request is refused. -/
inductive Refusal where
  | blockedIp (ip reason : String)
  | blockedUserAgent (userAgent : String)
  | blockedUser (id : String)
  | ipNotAllowed (ip : String)
  | rateLimited (trigger : Trigger) (ip : Option String)
deriving DecidableEq, Repr

namespace Refusal

def status : Refusal → Nat
  | .rateLimited _ _ => 429
  | _ => 403

def reason : Refusal → String
  | .blockedIp _ _ => "blocked_ip"
  | .blockedUserAgent _ => "blocked_user_agent"
  | .blockedUser _ => "blocked_user"
  | .ipNotAllowed _ => "ip_not_allowed"
  | .rateLimited _ _ => "rate_limited"

def message : Refusal → String
  | .blockedIp ip reason =>
    "Your IP address is blocked due to " ++ reason ++ " (Your IP: " ++ ip ++ ")"
  | .blockedUserAgent _ =>
    "You are not allowed to access this resource because you have been identified as a bot."
  | .blockedUser _ => "You are blocked by Runtime Shield."
  | .ipNotAllowed ip =>
    "Your IP address is not allowed to access this resource. (Your IP: " ++ ip ++ ")"
  | .rateLimited .ip (some ip) =>
    "You are rate limited by Runtime Shield. (Your IP: " ++ ip ++ ")"
  | .rateLimited _ _ => "You are rate limited by Runtime Shield."

def isRateLimited : Refusal → Bool
  | .rateLimited _ _ => true
  | _ => false

end Refusal

namespace Decision

/-- Whether no check applies to a request. -/
def isExempt (snapshot : Snapshot) (request : Request) : Bool :=
  match request.ip with
  | some ip => Net.isReservedText ip || snapshot.isBypassed ip
  | none => false

def checkAddress (snapshot : Snapshot) (request : Request) : Option Refusal :=
  request.ip.bind fun ip => (snapshot.blockReason? ip).map (.blockedIp ip)

def checkUserAgent (snapshot : Snapshot) (request : Request) : Option Refusal :=
  request.userAgent?.bind fun userAgent =>
    if snapshot.isUserAgentBlocked userAgent then some (.blockedUserAgent userAgent) else none

def checkUser (snapshot : Snapshot) (user : Option User) : Option Refusal :=
  user.bind fun user => if snapshot.isUserBlocked user.id then some (.blockedUser user.id) else none

/-- Whether an endpoint allows only some addresses, and an address is not one of them. -/
def isKeptOut (endpoint : Policy.Endpoint) (ip : String) : Bool :=
  !endpoint.allowed.isEmpty && !endpoint.allowed.coversText ip

/-- Refuses a request from an address that one of the endpoints does not allow. -/
def checkAllowed (snapshot : Snapshot) (request : Request) : Option Refusal :=
  request.ip.bind fun ip =>
    if (snapshot.endpointsFor request.method request.route).any (isKeptOut · ip) then
      some (.ipNotAllowed ip)
    else none

/-- The first check that refuses a request, apart from the rate limit. -/
def check (snapshot : Snapshot) (request : Request) (user : Option User) : Option Refusal :=
  checkAddress snapshot request <|> checkUserAgent snapshot request <|> checkUser snapshot user <|>
    checkAllowed snapshot request

/-- The endpoint whose rate limit a request is checked against: the first one, if it has a limit. -/
def limitedEndpoint? (snapshot : Snapshot) (request : Request) : Option Policy.Endpoint :=
  match snapshot.endpointsFor request.method request.route with
  | [] => none
  | first :: _ => if first.rateLimit.enabled then some first else none

def limitKey? (user : Option User) (group : Option String) : Option String :=
  match group with
  | some group => some ("group:" ++ group)
  | none => user.map User.id

/-- Checks a request against the limit of an endpoint and counts it if it is admitted. -/
def checkLimit (limiter : Limiter) (endpoint : Policy.Endpoint) (request : Request)
    (user : Option User) (group : Option String) : Option Refusal × Limiter :=
  let key := limitKey? user group
  match limiter.refusal? endpoint.method endpoint.route key request.ip with
  | some trigger =>
    (some (.rateLimited (if group.isSome then .group else trigger) request.ip), limiter)
  | none => (none, limiter.count endpoint.method endpoint.route key request.ip)

/-- Decides on a request, and gives the counters afterwards. -/
def decide (snapshot : Snapshot) (limiter : Limiter) (request : Request) (user : Option User)
    (group : Option String) : Option Refusal × Limiter :=
  if isExempt snapshot request then (none, limiter)
  else
    match check snapshot request user with
    | some refusal => (some refusal, limiter)
    | none =>
      match limitedEndpoint? snapshot request with
      | none => (none, limiter)
      | some endpoint => checkLimit limiter endpoint request user group

end Decision

end RequestGuard
