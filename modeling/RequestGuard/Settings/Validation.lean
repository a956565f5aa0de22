import RequestGuard.Settings.Basic
import RequestGuard.Settings.LogFilter
import RequestGuard.Url.Parser

/-!
# Checking settings

The rules that settings must satisfy, in their fixed order. `violations` lists every rule that is
broken, each with the field that breaks it. What an address and a log filter are is left to a
`Grammar`.
-/

namespace RequestGuard.Settings

/-- How texts in settings are read: an address as its scheme, unless something is wrong with it, and
a log filter. -/
structure Grammar where
  scheme : String → Except String String
  isFilter : String → Bool

def Grammar.standard : Grammar where
  scheme text := ((Url.parse text).map Url.scheme).mapError UrlError.message
  isFilter := LogFilter.isValid

inductive Problem where
  | invalidUrl (reason : String)
  | unsupportedScheme (scheme : String)
  | blank
  | zero
  | invalidFilter (filter : String)
deriving DecidableEq, Repr

def Problem.message : Problem → String
  | .invalidUrl reason => "invalid URL: " ++ reason
  | .unsupportedScheme scheme => "unsupported scheme '" ++ scheme ++ "'"
  | .blank => "must not be blank"
  | .zero => "must be greater than zero"
  | .invalidFilter filter => "invalid filter '" ++ filter ++ "'"

structure Violation where
  field : String
  problem : Problem
deriving DecidableEq, Repr

def Violation.message (violation : Violation) : String :=
  violation.field ++ ": " ++ violation.problem.message

/-- What is wrong with an address of the control plane. -/
def urlProblem? (grammar : Grammar) (text : String) : Option Problem :=
  match grammar.scheme text with
  | .ok scheme =>
    if scheme = "http" ∨ scheme = "https" then none else some (.unsupportedScheme scheme)
  | .error reason => some (.invalidUrl reason)

def tokenProblem? (token : Option String) : Option Problem :=
  if token.any fun text => (Text.trim text).isEmpty then some .blank else none

def zeroProblem? (n : Nat) : Option Problem := if n = 0 then some .zero else none

def filterProblem? (grammar : Grammar) (filter : String) : Option Problem :=
  if grammar.isFilter filter then none else some (.invalidFilter filter)

/-- Every rule: a field, and what is wrong with it. -/
def checks (grammar : Grammar) (settings : Settings) : List (String × Option Problem) :=
  [("cloud.endpoint", urlProblem? grammar settings.cloud.endpoint),
    ("cloud.realtime_endpoint", urlProblem? grammar settings.cloud.realtimeEndpoint),
    ("cloud.token", tokenProblem? settings.cloud.token),
    ("cloud.poll_interval_secs", zeroProblem? settings.cloud.pollIntervalSecs),
    ("cloud.initial_heartbeat_secs", zeroProblem? settings.cloud.initialHeartbeatSecs),
    ("cloud.heartbeat_floor_secs", zeroProblem? settings.cloud.heartbeatFloorSecs),
    ("cloud.timeout_secs", zeroProblem? settings.cloud.timeoutSecs),
    ("protection.rate_limit_tick_secs", zeroProblem? settings.protection.rateLimitTickSecs),
    ("protection.max_extract_depth", zeroProblem? settings.protection.maxExtractDepth),
    ("protection.max_extract_entries", zeroProblem? settings.protection.maxExtractEntries),
    ("reporting.attack_window_secs", zeroProblem? settings.reporting.attackWindowSecs),
    ("observability.log_level", filterProblem? grammar settings.observability.logLevel)]

def violations (grammar : Grammar) (settings : Settings) : List Violation :=
  (settings.checks grammar).filterMap fun (field, problem?) =>
    problem?.map fun problem => { field, problem }

end RequestGuard.Settings
