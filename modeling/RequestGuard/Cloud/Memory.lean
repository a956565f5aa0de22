import RequestGuard.Cloud.ControlPlane

/-!
# A control plane in memory

Answers with what it was told to answer, and keeps a record of what it was asked.
-/

namespace RequestGuard.Cloud

/-- What was asked, when, and the event that was sent. -/
structure CallRecord where
  time : Nat
  operation : Operation
  event : Option Event := none
deriving DecidableEq, Repr

structure Memory where
  version : ConfigVersion := {}
  config : Option Config := none
  lists : Option FirewallLists := none
  response : Option Config := none
  failures : List (Operation × CloudError) := []
  now : Nat := 0
  calls : List CallRecord := []
deriving DecidableEq, Repr

namespace Memory

/-- Answers a question, unless it was told to fail. -/
def answer {α : Type} (memory : Memory) (operation : Operation) (event : Option Event)
    (answer : Except CloudError α) : Except CloudError α × Memory :=
  let called :=
    { memory with calls := memory.calls ++ [{ time := memory.now, operation, event }] }
  match memory.failures.lookup operation with
  | some error => (.error error, called)
  | none => (answer, called)

/-- What is there, or else the status of what is not. -/
def found {α : Type} : Option α → Except CloudError α
  | some a => .ok a
  | none => .error (.status 404)

def plane : ControlPlane Memory where
  fetchVersion memory := memory.answer .fetchVersion none (.ok memory.version)
  fetchConfig memory := memory.answer .fetchConfig none (found memory.config)
  fetchLists memory := memory.answer .fetchLists none (found memory.lists)
  sendEvent event memory := memory.answer .sendEvent (some event) (.ok memory.response)
  passTime now memory := { memory with now }

end Memory

end RequestGuard.Cloud
