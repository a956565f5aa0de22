/-!
# Things that happen once

A mark that the first to pass sets, so that a message is given only once.
-/

namespace RequestGuard

/-- Whether the mark is set. -/
structure Once where
  passed : Bool := false
deriving DecidableEq, Repr

/-- Sets the mark, and says whether it was not set before. -/
def Once.first (once : Once) : Bool × Once := (!once.passed, ⟨true⟩)

end RequestGuard
