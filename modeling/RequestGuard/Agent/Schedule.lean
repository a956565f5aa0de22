/-!
# The schedule of the background tasks

Three tasks run again and again in the background of an agent. The schedule holds the moment of the
next run of each, in milliseconds. A task that has run is put off to a later moment, so only
finitely many runs fall before a given moment: `pending_postpone` is why a loop over them ends.
-/

namespace RequestGuard

inductive Task where
  | poll
  | heartbeat
  | advanceLimiter
deriving DecidableEq, Repr

/-- The moment of the next run of each task. -/
structure Schedule where
  poll : Nat
  heartbeat : Nat
  advanceLimiter : Nat
deriving DecidableEq, Repr

namespace Schedule

def time (schedule : Schedule) : Task → Nat
  | .poll => schedule.poll
  | .heartbeat => schedule.heartbeat
  | .advanceLimiter => schedule.advanceLimiter

def next (schedule : Schedule) : Task :=
  if schedule.poll ≤ schedule.heartbeat ∧ schedule.poll ≤ schedule.advanceLimiter then .poll
  else if schedule.heartbeat ≤ schedule.advanceLimiter then .heartbeat
  else .advanceLimiter

/-- Puts a task off by a delay of at least one millisecond. -/
def postpone (schedule : Schedule) (task : Task) (delay : Nat) : Schedule :=
  let later := schedule.time task + max delay 1
  match task with
  | .poll => { schedule with poll := later }
  | .heartbeat => { schedule with heartbeat := later }
  | .advanceLimiter => { schedule with advanceLimiter := later }

/-- A bound on the number of runs up to a moment. -/
def pending (schedule : Schedule) (moment : Nat) : Nat :=
  (moment + 1 - schedule.poll) + (moment + 1 - schedule.heartbeat) +
    (moment + 1 - schedule.advanceLimiter)

theorem pending_postpone {schedule : Schedule} {task : Task} {moment : Nat}
    (h : schedule.time task ≤ moment) (delay : Nat) :
    (schedule.postpone task delay).pending moment < schedule.pending moment := by
  cases task <;> simp only [pending, postpone, time] at * <;> omega

end Schedule

end RequestGuard
