import RequestGuard.Cloud.Event
import RequestGuard.Cloud.FirewallLists
import RequestGuard.Cloud.Operation

/-!
# The control plane

What an agent can ask of the control plane. Any state may stand behind the answers, and every answer
may be an error.
-/

namespace RequestGuard.Cloud

/-- Why the control plane gave no answer. -/
inductive CloudError where
  | missingToken
  | status (code : Nat)
  | transport
  | malformed
deriving DecidableEq, Repr

/-- The message of an error, as far as it does not depend on the connection. -/
def CloudError.message? : CloudError → Option String
  | .missingToken => some "no control-plane token configured"
  | .status code => some ("control plane returned status " ++ Text.decimal code)
  | .transport | .malformed => none

/-- A control plane with a state of type `σ`. -/
structure ControlPlane (σ : Type) where
  fetchVersion : σ → Except CloudError ConfigVersion × σ
  fetchConfig : σ → Except CloudError Config × σ
  fetchLists : σ → Except CloudError FirewallLists × σ
  sendEvent : Event → σ → Except CloudError (Option Config) × σ
  /-- Lets time pass up to a moment. -/
  passTime : Nat → σ → σ

end RequestGuard.Cloud
