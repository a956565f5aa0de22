/-!
# Counting over a window of minutes

A counter keeps a number for each minute of its window, the oldest first, and their total beside
them, by which a request is judged. Beginning a minute drops the oldest one once the window is full
and takes it off the total.
-/

namespace RequestGuard.RateLimit

/-- The requests of a window: how many there are, and how many in each minute, the oldest first. -/
structure Counter where
  total : Nat := 0
  buckets : List Nat := [0]
deriving DecidableEq, Repr

namespace Counter

def increment (counter : Counter) : Counter where
  total := counter.total + 1
  buckets :=
    match counter.buckets.getLast? with
    | some current => counter.buckets.dropLast ++ [current + 1]
    | none => [1]

/-- Drops the oldest minute of a window that is full. -/
def dropOldest (window : Nat) (counter : Counter) : Counter :=
  match counter.buckets with
  | oldest :: later =>
    if window ≤ counter.buckets.length then ⟨counter.total - oldest, later⟩ else counter
  | [] => counter

/-- Begins the next minute of a window of at least one minute. -/
def advance (window : Nat) (counter : Counter) : Counter :=
  let kept := counter.dropOldest window
  { kept with buckets := kept.buckets ++ [0] }

end Counter

end RequestGuard.RateLimit
