import RequestGuard.Attack.Kind
import RequestGuard.Request.Source

/-!
# Attacks

What a detector finds, the attack made of it, and the error that blocks an operation. A deferred
attack waits in its request until an operation of its kind settles it.
-/

namespace RequestGuard

/-- What a detector says about a dangerous input, sorted by name. -/
structure Detection where
  metadata : List (String × String) := []
deriving DecidableEq, Repr

structure DetectorError where
  reason : String
deriving DecidableEq, Repr

/-- Decides whether an input of the user makes the arguments of an operation dangerous. -/
structure Detector (Args : Type) where
  kind : AttackKind
  judge : String → Args → Except DetectorError (Option Detection)

/-- An attack: a dangerous input that reached an operation. -/
structure Attack where
  kind : AttackKind
  operation : String
  source : Source
  path : String
  payload : String
  metadata : List (String × String)
  blocked : Bool
deriving DecidableEq, Repr

/-- The error that an operation answers when an attack is blocked. -/
structure AttackBlocked where
  kind : AttackKind
  operation : String
  origin : Source
  path : String
deriving DecidableEq, Repr

def AttackBlocked.message (error : AttackBlocked) : String :=
  "Runtime Shield has blocked " ++ error.kind.phrase ++ ": " ++ error.operation ++
    "(...) originating from " ++ error.origin.name ++ error.path

def Attack.toError (attack : Attack) : AttackBlocked where
  kind := attack.kind
  operation := attack.operation
  origin := attack.source
  path := attack.path

/-- The outcome of an operation with an attack: an error if the attack is blocked. -/
def Attack.outcome? (attack : Attack) : Option AttackBlocked :=
  if attack.blocked then some attack.toError else none

/-- An attack that is settled by a later operation: it is reported once and has the same outcome
every time. -/
structure DeferredAttack where
  attack : Attack
  error : Option AttackBlocked
  reported : Bool := false
deriving DecidableEq, Repr

end RequestGuard
