import RequestGuard.Attack.Basic
import RequestGuard.Decision

/-!
# The context of a request

A request with all that is attached to it while it is served: its user and its group, the decision
on it, an attack that waits to be settled, and the strings that were already taken from its sources.
-/

namespace RequestGuard

/-- A request that is being served. The decision is absent until there is one. -/
structure Context where
  request : Request
  user : Option User := none
  group : Option String := none
  decision : Option (Option Refusal) := none
  deferred : Option DeferredAttack := none
  inputs : List (Source × Input.Strings) := []

namespace Context

def ofRequest (request : Request) : Context := { request }

def isDecided (context : Context) : Bool := context.decision.isSome

/-- The strings that a source holds. They are taken from it once, and the limits of that time
count. -/
def input (context : Context) (source : Source) (limits : Input.Limits) :
    Input.Strings × Context :=
  match context.inputs.lookup source with
  | some strings => (strings, context)
  | none =>
    let strings := context.request.inputOf source limits
    (strings, { context with inputs := (source, strings) :: context.inputs })

end Context

end RequestGuard
