/-!
# The heartbeat schedule

The time between heartbeats stays at its initial value until the control plane confirms that it has
received statistics. From then on it follows the intervals that the control plane suggests, as far
as they are not below the floor. Times are milliseconds.
-/

namespace RequestGuard.Cloud

/-- The current interval, the least one that is accepted, and whether statistics were ever
confirmed. -/
structure Heartbeat where
  interval : Nat
  floor : Nat
  confirmed : Bool := false
deriving DecidableEq, Repr

/-- Takes the answer to a heartbeat into account, and says whether the interval changed. -/
def Heartbeat.answered (beat : Heartbeat) (suggested : Option Nat) (statsReceived : Bool) :
    Bool × Heartbeat :=
  let beat := { beat with confirmed := beat.confirmed || statsReceived }
  match suggested with
  | some next =>
    if beat.confirmed ∧ beat.floor ≤ next ∧ next ≠ beat.interval then
      (true, { beat with interval := next })
    else (false, beat)
  | none => (false, beat)

end RequestGuard.Cloud
