/-!
# Operations on the control plane

What an agent asks of the control plane, and on which occasion it installs a policy.
-/

namespace RequestGuard.Cloud

/-- An operation on the control plane. An event is sent on its own account or as the first report or
a heartbeat. -/
inductive Operation where
  | fetchVersion
  | fetchConfig
  | fetchLists
  | sendEvent
  | started
  | heartbeat
deriving DecidableEq, Repr

def Operation.name : Operation → String
  | .fetchVersion => "fetch_config_version"
  | .fetchConfig => "fetch_config"
  | .fetchLists => "fetch_firewall_lists"
  | .sendEvent => "send_event"
  | .started => "started"
  | .heartbeat => "heartbeat"

/-- The occasion on which a configuration was received. -/
inductive Origin where
  | started
  | poll
  | heartbeat
deriving DecidableEq, Repr

def Origin.name : Origin → String
  | .started => "started"
  | .poll => "poll"
  | .heartbeat => "heartbeat"

end RequestGuard.Cloud
