import RequestGuard.Cloud.Config
import RequestGuard.Net.MatchList
import RequestGuard.Policy.Glob

/-!
# Policies of endpoints

What holds for the requests with a method and a route. The method `*` stands for every method, and
a route with stars in it for many routes.
-/

namespace RequestGuard.Policy

/-- How many requests are admitted in a window of whole minutes. -/
structure RateLimit where
  enabled : Bool := false
  maxRequests : Nat := 0
  windowMinutes : Nat := 1
deriving DecidableEq, Repr

structure Endpoint where
  method : String
  route : String
  protectionOff : Bool := false
  allowed : Net.MatchList := .empty
  rateLimit : RateLimit := {}
deriving DecidableEq

namespace RateLimit

/-- A configured rate limit: its window is cut to whole minutes and lasts at least one. -/
def ofCloud (config : Cloud.RateLimit) : RateLimit where
  enabled := config.enabled
  maxRequests := config.maxRequests.toNat
  windowMinutes := max (config.windowMillis.toNat / 60000) 1

end RateLimit

namespace Endpoint

/-- A configured endpoint. Allowed addresses that cannot be read do not count. -/
def ofCloud (config : Cloud.Endpoint) : Endpoint where
  method := config.method
  route := config.route
  protectionOff := config.protectionOff
  allowed := .ofEntries config.allowedIps
  rateLimit := .ofCloud config.rateLimit

def isAnyMethod (endpoint : Endpoint) : Bool := endpoint.method == "*"

def starCount (endpoint : Endpoint) : Nat := endpoint.route.toList.count '*'

/-- Whether the policy is for requests with a method, which is compared without regard to the case
of ASCII letters. -/
def holdsForMethod (endpoint : Endpoint) (method : String) : Bool :=
  endpoint.isAnyMethod || endpoint.method.toLower == method.toLower

def isWildcardFor (endpoint : Endpoint) (route : String) : Bool :=
  endpoint.route != route && endpoint.starCount != 0 &&
    (Glob.ofRoute endpoint.route).isMatch route.toList

end Endpoint

end RequestGuard.Policy
