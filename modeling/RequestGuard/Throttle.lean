/-!
# Throttling events

At most `max` events are recorded in any window of time. Times are milliseconds; a time that lies
before the oldest recorded event counts as simultaneous with it.
-/

namespace RequestGuard

/-- The times of the recorded events, the oldest first, with the limits on them. -/
structure Throttle where
  window : Nat
  max : Nat
  recorded : List Nat := []
deriving DecidableEq, Repr

namespace Throttle

/-- Forgets the oldest events as long as they lie a whole window back. -/
def purge (throttle : Throttle) (now : Nat) : Throttle :=
  { throttle with
    recorded := throttle.recorded.dropWhile fun time => throttle.window ≤ now - time }

/-- Records an event if fewer than `max` are left after the old ones are forgotten, and says
whether it did. -/
def record (throttle : Throttle) (now : Nat) : Bool × Throttle :=
  let kept := throttle.purge now
  if kept.recorded.length < kept.max then
    (true, { kept with recorded := kept.recorded ++ [now] })
  else (false, kept)

def size (throttle : Throttle) : Nat := throttle.recorded.length

end Throttle

end RequestGuard
