import RequestGuard.Agent.Basic

/-!
# Scanning the input of a request

Before an operation runs, a detector looks at every string that the request holds, source by source
and in the order of the strings, until it finds one that makes the operation dangerous. A deferred
scan only stores the attack; the next scan for the same kind of attack settles it.
-/

namespace RequestGuard

namespace Scan

/-- A string of a request: its source, the string and its place. -/
structure Input where
  source : Source
  text : String
  path : RequestGuard.Input.Path
deriving DecidableEq, Repr

/-- The first dangerous input, and what the detector says about it. -/
structure Hit where
  input : Input
  detection : Detection
deriving DecidableEq, Repr

/-- What a search through some inputs has shown: the strings that were looked at, how many of them
the detector could not judge, and the first dangerous one. -/
structure Search where
  examined : List String := []
  failures : Nat := 0
  hit : Option Hit := none
deriving DecidableEq, Repr

/-- Looks at inputs up to the first dangerous one. -/
def search {Args : Type} (detector : Detector Args) (args : Args) : List Input → Search
  | [] => {}
  | input :: rest =>
    match detector.judge input.text args with
    | .ok (some detection) => { examined := [input.text], hit := some { input, detection } }
    | .ok none =>
      let later := search detector args rest
      { later with examined := input.text :: later.examined }
    | .error _ =>
      let later := search detector args rest
      { later with examined := input.text :: later.examined, failures := later.failures + 1 }

/-- What two searches have shown, of which the second went on where the first one ended. -/
def Search.followedBy (first second : Search) : Search where
  examined := first.examined ++ second.examined
  failures := first.failures + second.failures
  hit := second.hit

/-- Looks at the inputs of some sources of a request up to the first dangerous one. Nothing is taken
from the sources after it. -/
def searchSources {Args : Type} (limits : RequestGuard.Input.Limits) (detector : Detector Args)
    (args : Args) : List Source → Context → Search × Context
  | [], context => ({}, context)
  | source :: rest, context =>
    let (strings, context) := context.input source limits
    let here := search detector args (strings.map fun (text, path) => { source, text, path })
    if here.hit.isSome then (here, context)
    else
      let (later, context) := searchSources limits detector args rest context
      (here.followedBy later, context)

def Hit.toAttack (hit : Hit) (kind : AttackKind) (operation : String) (blocked : Bool) :
    Attack where
  kind
  operation
  source := hit.input.source
  path := hit.input.path.render
  payload := hit.input.text
  metadata := hit.detection.metadata
  blocked

/-- How a scan ends: the error that blocks the operation, the strings that were looked at, and the
agent and the context afterwards. -/
structure Outcome where
  error : Option AttackBlocked := none
  examined : List String := []
  agent : Agent
  context : Option Context

end Scan

namespace Agent

open Scan (Outcome)

def countCall (agent : Agent) (operation : String) (kind : AttackKind) (withContext : Bool) :
    Agent :=
  { agent with stats := agent.stats.call operation kind withContext }

/-- Counts inputs that the detector of an operation could not judge. -/
def countFailures (agent : Agent) (operation : String) (kind : AttackKind) (count : Nat) : Agent :=
  { agent with
    stats := Nat.repeat (fun stats => stats.detectorError operation kind) count agent.stats }

def settle (agent : Agent) (now : Nat) (context : Context) (deferred : DeferredAttack) : Outcome :=
  let context := { context with deferred := some { deferred with reported := true } }
  { error := deferred.error
    agent :=
      if deferred.reported then agent else agent.report now (some context) deferred.attack
    context := some context }

def found (agent : Agent) (now : Nat) (context : Context) (attack : Attack) (defer : Bool) :
    Outcome :=
  if defer then
    let stored :=
      context.deferred.getD { attack, error := attack.outcome? }
    { agent, context := some { context with deferred := some stored } }
  else
    { error := attack.outcome?
      agent := agent.report now (some context) attack
      context := some context }

def searchInput {Args : Type} (agent : Agent) (now : Nat) (context : Context) (operation : String)
    (detector : Detector Args) (args : Args) (defer : Bool) : Outcome :=
  let (search, context) :=
    Scan.searchSources agent.settings.protection.limits detector args Source.all context
  let counted := agent.countFailures operation detector.kind search.failures
  match search.hit with
  | none => { examined := search.examined, agent := counted, context := some context }
  | some hit =>
    let attack := hit.toAttack detector.kind operation agent.isBlocking
    { counted.found now context attack defer with examined := search.examined }

/-- Scans the input of a request for an operation, at a time. Without a request, and where the
policy turns protection off, nothing is looked at. -/
def scan {Args : Type} (agent : Agent) (now : Nat) (context : Option Context) (operation : String)
    (detector : Detector Args) (args : Args) (defer : Bool) : Outcome :=
  if agent.disabled then { agent, context }
  else
    let counted := agent.countCall operation detector.kind context.isSome
    match context with
    | none => { agent := counted, context }
    | some inner =>
      if agent.policy.isProtectionOff inner.request.method inner.request.route then
        { agent := counted, context }
      else
        match inner.deferred with
        | some deferred =>
          if deferred.attack.kind = detector.kind then counted.settle now inner deferred
          else counted.searchInput now inner operation detector args defer
        | none => counted.searchInput now inner operation detector args defer

end Agent

end RequestGuard
