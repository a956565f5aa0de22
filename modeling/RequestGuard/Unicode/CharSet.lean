/-!
# Sets of characters

A set of characters is given by its boundaries: the increasing list of the code points at which
membership changes. A character is in the set if the number of boundaries up to it is odd.
-/

namespace RequestGuard.Unicode

structure CharSet where
  boundaries : List Nat
deriving DecidableEq, Repr

namespace CharSet

/-- Whether membership is on at a code point, given whether it is on before the boundaries. -/
def holds (point : Nat) : Bool → List Nat → Bool
  | on, [] => on
  | on, boundary :: rest => if boundary ≤ point then holds point (!on) rest else on

def contains (set : CharSet) (c : Char) : Bool := holds c.toNat false set.boundaries

def intervals (set : CharSet) : Nat := (set.boundaries.length + 1) / 2

end CharSet

end RequestGuard.Unicode
