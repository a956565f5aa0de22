import RequestGuard.Input.Strings
import RequestGuard.Json.Record

/-!
# Settings of an agent

The settings in four sections, each with its defaults, a reader and a writer. Every field may be
left out. Periods are given in seconds and last at least one.
-/

namespace RequestGuard

open Json (Tree Value)

/-- How to reach the control plane. -/
structure CloudSettings where
  token : Option String := none
  endpoint : String := "http://localhost:8787"
  realtimeEndpoint : String := "http://localhost:8787"
  pollIntervalSecs : Nat := 60
  initialHeartbeatSecs : Nat := 60
  heartbeatFloorSecs : Nat := 120
  timeoutSecs : Nat := 10
deriving DecidableEq, Repr

/-- How requests are protected. Without `block` the control plane says whether attacks are
blocked. -/
structure ProtectionSettings where
  disable : Bool := false
  block : Option Bool := none
  trustProxy : Bool := true
  maxExtractDepth : Nat := 20
  maxExtractEntries : Nat := 5000
  rateLimitTickSecs : Nat := 60
deriving DecidableEq, Repr

/-- How much is reported. -/
structure ReportingSettings where
  maxAttackEvents : Nat := 100
  attackWindowSecs : Nat := 3600
  maxUsers : Nat := 1000
  maxHostnames : Nat := 2000
deriving DecidableEq, Repr

/-- What the agent says about itself. -/
structure ObservabilitySettings where
  logLevel : String := "info"
  metricsEnabled : Bool := true
deriving DecidableEq, Repr

structure Settings where
  cloud : CloudSettings := {}
  protection : ProtectionSettings := {}
  reporting : ReportingSettings := {}
  observability : ObservabilitySettings := {}
deriving DecidableEq, Repr

/-- A natural number of 64 bits. -/
def readCount? (tree : Tree) : Option Nat := tree.uint64?.map UInt64.toNat

namespace CloudSettings

def fieldNames : List String :=
  ["token", "endpoint", "realtime_endpoint", "poll_interval_secs", "initial_heartbeat_secs",
    "heartbeat_floor_secs", "timeout_secs"]

def ofTree? (tree : Tree) : Option CloudSettings := do
  let defaults : CloudSettings := {}
  let fields ← tree.fields? fieldNames
  let token ← fields.get? "token" (Tree.optional? Tree.string?) defaults.token
  let endpoint ← fields.get? "endpoint" Tree.string? defaults.endpoint
  let realtimeEndpoint ← fields.get? "realtime_endpoint" Tree.string? defaults.realtimeEndpoint
  let pollIntervalSecs ← fields.get? "poll_interval_secs" readCount? defaults.pollIntervalSecs
  let initialHeartbeatSecs ←
    fields.get? "initial_heartbeat_secs" readCount? defaults.initialHeartbeatSecs
  let heartbeatFloorSecs ←
    fields.get? "heartbeat_floor_secs" readCount? defaults.heartbeatFloorSecs
  let timeoutSecs ← fields.get? "timeout_secs" readCount? defaults.timeoutSecs
  return { token, endpoint, realtimeEndpoint, pollIntervalSecs, initialHeartbeatSecs,
           heartbeatFloorSecs, timeoutSecs }

def toJson (settings : CloudSettings) : Value :=
  .ofMembers
    [("token", .ofOption .string settings.token),
      ("endpoint", .string settings.endpoint),
      ("realtime_endpoint", .string settings.realtimeEndpoint),
      ("poll_interval_secs", .ofNat settings.pollIntervalSecs),
      ("initial_heartbeat_secs", .ofNat settings.initialHeartbeatSecs),
      ("heartbeat_floor_secs", .ofNat settings.heartbeatFloorSecs),
      ("timeout_secs", .ofNat settings.timeoutSecs)]

end CloudSettings

namespace ProtectionSettings

def fieldNames : List String :=
  ["disable", "block", "trust_proxy", "max_extract_depth", "max_extract_entries",
    "rate_limit_tick_secs"]

def ofTree? (tree : Tree) : Option ProtectionSettings := do
  let defaults : ProtectionSettings := {}
  let fields ← tree.fields? fieldNames
  let disable ← fields.get? "disable" Tree.bool? defaults.disable
  let block ← fields.get? "block" (Tree.optional? Tree.bool?) defaults.block
  let trustProxy ← fields.get? "trust_proxy" Tree.bool? defaults.trustProxy
  let maxExtractDepth ← fields.get? "max_extract_depth" readCount? defaults.maxExtractDepth
  let maxExtractEntries ← fields.get? "max_extract_entries" readCount? defaults.maxExtractEntries
  let rateLimitTickSecs ← fields.get? "rate_limit_tick_secs" readCount? defaults.rateLimitTickSecs
  return { disable, block, trustProxy, maxExtractDepth, maxExtractEntries, rateLimitTickSecs }

def toJson (settings : ProtectionSettings) : Value :=
  .ofMembers
    [("disable", .bool settings.disable),
      ("block", .ofOption .bool settings.block),
      ("trust_proxy", .bool settings.trustProxy),
      ("max_extract_depth", .ofNat settings.maxExtractDepth),
      ("max_extract_entries", .ofNat settings.maxExtractEntries),
      ("rate_limit_tick_secs", .ofNat settings.rateLimitTickSecs)]

def limits (settings : ProtectionSettings) : Input.Limits where
  maxDepth := settings.maxExtractDepth
  maxEntries := settings.maxExtractEntries

end ProtectionSettings

namespace ReportingSettings

def fieldNames : List String :=
  ["max_attack_events", "attack_window_secs", "max_users", "max_hostnames"]

def ofTree? (tree : Tree) : Option ReportingSettings := do
  let defaults : ReportingSettings := {}
  let fields ← tree.fields? fieldNames
  let maxAttackEvents ← fields.get? "max_attack_events" readCount? defaults.maxAttackEvents
  let attackWindowSecs ← fields.get? "attack_window_secs" readCount? defaults.attackWindowSecs
  let maxUsers ← fields.get? "max_users" readCount? defaults.maxUsers
  let maxHostnames ← fields.get? "max_hostnames" readCount? defaults.maxHostnames
  return { maxAttackEvents, attackWindowSecs, maxUsers, maxHostnames }

def toJson (settings : ReportingSettings) : Value :=
  .ofMembers
    [("max_attack_events", .ofNat settings.maxAttackEvents),
      ("attack_window_secs", .ofNat settings.attackWindowSecs),
      ("max_users", .ofNat settings.maxUsers),
      ("max_hostnames", .ofNat settings.maxHostnames)]

end ReportingSettings

namespace ObservabilitySettings

def fieldNames : List String := ["log_level", "metrics_enabled"]

def ofTree? (tree : Tree) : Option ObservabilitySettings := do
  let defaults : ObservabilitySettings := {}
  let fields ← tree.fields? fieldNames
  let logLevel ← fields.get? "log_level" Tree.string? defaults.logLevel
  let metricsEnabled ← fields.get? "metrics_enabled" Tree.bool? defaults.metricsEnabled
  return { logLevel, metricsEnabled }

def toJson (settings : ObservabilitySettings) : Value :=
  .ofMembers
    [("log_level", .string settings.logLevel), ("metrics_enabled", .bool settings.metricsEnabled)]

end ObservabilitySettings

namespace Settings

def fieldNames : List String := ["cloud", "protection", "reporting", "observability"]

def ofTree? (tree : Tree) : Option Settings := do
  let fields ← tree.fields? fieldNames
  let cloud ← fields.get? "cloud" CloudSettings.ofTree? {}
  let protection ← fields.get? "protection" ProtectionSettings.ofTree? {}
  let reporting ← fields.get? "reporting" ReportingSettings.ofTree? {}
  let observability ← fields.get? "observability" ObservabilitySettings.ofTree? {}
  return { cloud, protection, reporting, observability }

def toJson (settings : Settings) : Value :=
  .ofMembers
    [("cloud", settings.cloud.toJson),
      ("protection", settings.protection.toJson),
      ("reporting", settings.reporting.toJson),
      ("observability", settings.observability.toJson)]

def period (seconds : Nat) : Nat := max seconds 1

/-- The seconds between two questions for a newer configuration. -/
def pollInterval (settings : Settings) : Nat := period settings.cloud.pollIntervalSecs

/-- The seconds between two heartbeats at first. -/
def initialHeartbeat (settings : Settings) : Nat := period settings.cloud.initialHeartbeatSecs

/-- The least number of seconds between two heartbeats that may be suggested. -/
def heartbeatFloor (settings : Settings) : Nat := period settings.cloud.heartbeatFloorSecs

def timeout (settings : Settings) : Nat := period settings.cloud.timeoutSecs

/-- The seconds after which the windows of rate limits move on. -/
def rateLimitTick (settings : Settings) : Nat := period settings.protection.rateLimitTickSecs

/-- The seconds for which an attack counts towards the limit on events. -/
def attackWindow (settings : Settings) : Nat := period settings.reporting.attackWindowSecs

end Settings

end RequestGuard
