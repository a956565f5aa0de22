import RequestGuard.Json.Record

/-!
# The configuration that the control plane serves

The documents as they are sent: `Config` with its endpoints, and `ConfigVersion`, which only tells
how new the configuration is. Each has a reader `ofJson?` and a writer `toJson`.
-/

namespace RequestGuard.Cloud

open Json (Tree Value)

/-- How many requests an endpoint admits in a window of time. -/
structure RateLimit where
  enabled : Bool := false
  maxRequests : UInt64 := 0
  windowMillis : UInt64 := 0
deriving DecidableEq, Repr

/-- What is configured for the requests with a method and a route. -/
structure Endpoint where
  method : String := ""
  route : String := ""
  protectionOff : Bool := false
  allowedIps : List String := []
  rateLimit : RateLimit := {}
deriving DecidableEq, Repr

structure Config where
  success : Bool := false
  serviceId : UInt64 := 0
  updatedAt : Int64 := 0
  heartbeatMillis : UInt64 := 0
  endpoints : List Endpoint := []
  blockedUserIds : List String := []
  bypassedIps : List String := []
  receivedAnyStats : Bool := false
  block : Option Bool := none
deriving DecidableEq, Repr

structure ConfigVersion where
  updatedAt : Int64 := 0
deriving DecidableEq, Repr

def textsToJson (texts : List String) : Value := .array (texts.map .string)

namespace RateLimit

def fieldNames : List String := ["enabled", "maxRequests", "windowSizeInMS"]

def ofJson? (tree : Tree) : Option RateLimit := do
  let fields ← tree.fields? fieldNames
  let enabled ← fields.get? "enabled" Tree.bool? false
  let maxRequests ← fields.get? "maxRequests" Tree.uint64? 0
  let windowMillis ← fields.get? "windowSizeInMS" Tree.uint64? 0
  return { enabled, maxRequests, windowMillis }

def toJson (limit : RateLimit) : Value :=
  .ofMembers
    [("enabled", .bool limit.enabled),
      ("maxRequests", .ofNat limit.maxRequests.toNat),
      ("windowSizeInMS", .ofNat limit.windowMillis.toNat)]

end RateLimit

namespace Endpoint

def fieldNames : List String :=
  ["method", "route", "forceProtectionOff", "allowedIPAddresses", "rateLimiting"]

def ofJson? (tree : Tree) : Option Endpoint := do
  let fields ← tree.fields? fieldNames
  let method ← fields.get? "method" Tree.string? ""
  let route ← fields.get? "route" Tree.string? ""
  let protectionOff ← fields.get? "forceProtectionOff" Tree.bool? false
  let allowedIps ← fields.get? "allowedIPAddresses" (Tree.list? Tree.string?) []
  let rateLimit ← fields.get? "rateLimiting" RateLimit.ofJson? {}
  return { method, route, protectionOff, allowedIps, rateLimit }

def toJson (endpoint : Endpoint) : Value :=
  .ofMembers
    [("method", .string endpoint.method),
      ("route", .string endpoint.route),
      ("forceProtectionOff", .bool endpoint.protectionOff),
      ("allowedIPAddresses", textsToJson endpoint.allowedIps),
      ("rateLimiting", endpoint.rateLimit.toJson)]

end Endpoint

namespace Config

def fieldNames : List String :=
  ["success", "serviceId", "configUpdatedAt", "heartbeatIntervalInMS", "endpoints",
    "blockedUserIds", "allowedIPAddresses", "receivedAnyStats", "block"]

def ofJson? (tree : Tree) : Option Config := do
  let fields ← tree.fields? fieldNames
  let success ← fields.get? "success" Tree.bool? false
  let serviceId ← fields.get? "serviceId" Tree.uint64? 0
  let updatedAt ← fields.get? "configUpdatedAt" Tree.int64? 0
  let heartbeatMillis ← fields.get? "heartbeatIntervalInMS" Tree.uint64? 0
  let endpoints ← fields.get? "endpoints" (Tree.list? Endpoint.ofJson?) []
  let blockedUserIds ← fields.get? "blockedUserIds" (Tree.list? Tree.string?) []
  let bypassedIps ← fields.get? "allowedIPAddresses" (Tree.list? Tree.string?) []
  let receivedAnyStats ← fields.get? "receivedAnyStats" Tree.bool? false
  let block ← fields.get? "block" (Tree.optional? Tree.bool?) none
  return { success, serviceId, updatedAt, heartbeatMillis, endpoints, blockedUserIds, bypassedIps,
           receivedAnyStats, block }

def toJson (config : Config) : Value :=
  .ofMembers
    [("success", .bool config.success),
      ("serviceId", .ofNat config.serviceId.toNat),
      ("configUpdatedAt", .ofInt config.updatedAt.toInt),
      ("heartbeatIntervalInMS", .ofNat config.heartbeatMillis.toNat),
      ("endpoints", .array (config.endpoints.map Endpoint.toJson)),
      ("blockedUserIds", textsToJson config.blockedUserIds),
      ("allowedIPAddresses", textsToJson config.bypassedIps),
      ("receivedAnyStats", .bool config.receivedAnyStats),
      ("block", .ofOption .bool config.block)]

end Config

namespace ConfigVersion

def fieldNames : List String := ["configUpdatedAt"]

def ofJson? (tree : Tree) : Option ConfigVersion := do
  let fields ← tree.fields? fieldNames
  let updatedAt ← fields.get? "configUpdatedAt" Tree.int64? 0
  return { updatedAt }

def toJson (version : ConfigVersion) : Value :=
  .ofMembers [("configUpdatedAt", .ofInt version.updatedAt.toInt)]

end ConfigVersion

end RequestGuard.Cloud
