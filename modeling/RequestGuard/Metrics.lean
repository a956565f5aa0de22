import RequestGuard.Attack.Kind
import RequestGuard.Cloud.Operation
import RequestGuard.Keyed
import RequestGuard.Text.Digits

/-!
# Metrics

Counters that only grow. Each has a name and labels, which are written in order of their names.
-/

namespace RequestGuard

/-- What a counter counts. -/
inductive Metric where
  | request
  | blockedRequest (reason : String)
  | attack (kind : AttackKind) (blocked : Bool)
  | droppedEvent
  | controlPlaneError (operation : Cloud.Operation)
  | policyUpdate (origin : Cloud.Origin)
deriving DecidableEq, Repr

namespace Metric

def name : Metric → String
  | .request => "shield_requests_total"
  | .blockedRequest _ => "shield_requests_blocked_total"
  | .attack _ _ => "shield_attacks_detected_total"
  | .droppedEvent => "shield_attack_events_dropped_total"
  | .controlPlaneError _ => "shield_control_plane_errors_total"
  | .policyUpdate _ => "shield_policy_updates_total"

def labels : Metric → List (String × String)
  | .request | .droppedEvent => []
  | .blockedRequest reason => [("reason", reason)]
  | .attack kind blocked =>
    [("blocked", if blocked then "true" else "false"), ("kind", kind.name)]
  | .controlPlaneError operation => [("operation", operation.name)]
  | .policyUpdate origin => [("origin", origin.name)]

/-- The text of a counter: its name with its labels in braces. -/
def render (metric : Metric) : String :=
  let labels := metric.labels.map fun (name, value) => name ++ "=" ++ value
  metric.name ++ "\x7b" ++ String.intercalate "," labels ++ "\x7d"

end Metric

/-- The counters that have been used, by their texts. -/
abbrev Metrics := List (String × Nat)

def Metrics.count (metrics : Metrics) (metric : Metric) : Metrics :=
  Keyed.update metric.render (fun n => n.getD 0 + 1) metrics

end RequestGuard
