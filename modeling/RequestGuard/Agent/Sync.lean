import RequestGuard.Agent.Basic
import RequestGuard.Cloud.ControlPlane
import RequestGuard.Cloud.Heartbeat

/-!
# Keeping the policy up to date

An agent receives a configuration in the answer to its first report or to a heartbeat, or fetches
it when the control plane says that there is a newer one. Installing it takes two steps, since the
lists of the firewall are fetched in between: `begin?` keeps the policy that is in force, and
`conclude` offers the new policy, with the lists of the kept one if none could be fetched. A failure
of another call leaves the policy as it is.
-/

namespace RequestGuard

open Cloud (CloudError ControlPlane Event FirewallLists Heartbeat Operation Origin)
open Policy (Snapshot)

/-- An installation that has begun: the configuration, and the policy that was in force. -/
structure Installation where
  config : Cloud.Config
  previous : Snapshot

namespace Installation

def policy (installation : Installation) (lists : Option FirewallLists) : Snapshot :=
  .ofCloud installation.config lists installation.previous

end Installation

namespace Agent

variable {σ : Type}

/-- Counts an operation that failed. A missing token is no failure of the control plane. -/
def countFailure (agent : Agent) (operation : Operation) (error : CloudError) : Agent :=
  if error = .missingToken then agent else agent.countMetric (.controlPlaneError operation)

/-- Begins to install a configuration, if it is newer than the policy in force. -/
def begin? (agent : Agent) (config : Cloud.Config) : Option Installation :=
  if agent.policy.version < config.updatedAt.toInt then some { config, previous := agent.policy }
  else none

/-- Ends an installation, with the lists if they could be fetched. -/
def finish (agent : Agent) (origin : Origin) (installation : Installation)
    (lists : Option FirewallLists) : Bool × Agent :=
  let (installed, agent) := agent.install (installation.policy lists)
  (installed, if installed then agent.countMetric (.policyUpdate origin) else agent)

/-- Ends an installation when the lists have arrived, or could not be fetched. -/
def conclude (agent : Agent) (origin : Origin) (installation : Installation) :
    Except CloudError FirewallLists → Bool × Agent
  | .ok lists => agent.finish origin installation (some lists)
  | .error error => (agent.countFailure .fetchLists error).finish origin installation none

/-- Installs a configuration, and says whether it did. -/
def apply (plane : ControlPlane σ) (origin : Origin) (config : Cloud.Config) (agent : Agent)
    (state : σ) : Bool × Agent × σ :=
  match agent.begin? config with
  | none => (false, agent, state)
  | some installation =>
    let (answer, state) := plane.fetchLists state
    let (installed, agent) := agent.conclude origin installation answer
    (installed, agent, state)

@[simp] theorem policy_countFailure (agent : Agent) (operation : Operation) (error : CloudError) :
    (agent.countFailure operation error).policy = agent.policy := by
  unfold countFailure
  split
  · rfl
  · exact agent.policy_countMetric _

theorem stats_countFailure (agent : Agent) (operation : Operation) (error : CloudError) :
    (agent.countFailure operation error).stats = agent.stats := by
  unfold countFailure
  split
  · rfl
  · exact agent.stats_countMetric _

theorem begin?_of_newer {agent : Agent} {config : Cloud.Config}
    (h : agent.policy.version < config.updatedAt.toInt) :
    agent.begin? config = some { config, previous := agent.policy } :=
  if_pos h

theorem begin?_of_not_newer {agent : Agent} {config : Cloud.Config}
    (h : config.updatedAt.toInt ≤ agent.policy.version) :
    agent.begin? config = none :=
  if_neg (Int.not_lt.2 h)

theorem begin?_eq_some_iff {agent : Agent} {config : Cloud.Config} {installation : Installation} :
    agent.begin? config = some installation
      ↔ agent.policy.version < config.updatedAt.toInt
        ∧ installation = { config, previous := agent.policy } := by
  rw [begin?, Option.ite_none_right_eq_some, Option.some.injEq, eq_comm]

theorem fst_finish (agent : Agent) (origin : Origin) (installation : Installation)
    (lists : Option FirewallLists) :
    (agent.finish origin installation lists).1
      = (installation.policy lists).isNewerThan agent.policy :=
  agent.fst_install _

theorem policy_finish (agent : Agent) (origin : Origin) (installation : Installation)
    (lists : Option FirewallLists) :
    (agent.finish origin installation lists).2.policy
      = if (installation.policy lists).isNewerThan agent.policy then installation.policy lists
        else agent.policy := by
  rw [← policy_install]
  unfold finish
  dsimp only
  split
  · exact policy_countMetric _ _
  · rfl

theorem fst_conclude (agent : Agent) (origin : Origin) (installation : Installation)
    (answer : Except CloudError FirewallLists) :
    (agent.conclude origin installation answer).1
      = (installation.policy answer.toOption).isNewerThan agent.policy := by
  cases answer with
  | ok lists => exact agent.fst_finish origin installation (some lists)
  | error error =>
    rw [conclude, fst_finish, policy_countFailure]
    rfl

theorem policy_conclude (agent : Agent) (origin : Origin) (installation : Installation)
    (answer : Except CloudError FirewallLists) :
    (agent.conclude origin installation answer).2.policy
      = if (installation.policy answer.toOption).isNewerThan agent.policy
        then installation.policy answer.toOption
        else agent.policy := by
  cases answer with
  | ok lists => exact agent.policy_finish origin installation (some lists)
  | error error =>
    rw [conclude, policy_finish, policy_countFailure]
    rfl

theorem stats_finish (agent : Agent) (origin : Origin) (installation : Installation)
    (lists : Option FirewallLists) :
    (agent.finish origin installation lists).2.stats = agent.stats := by
  have hinstall := agent.stats_install (installation.policy lists)
  unfold finish
  dsimp only
  split
  · exact (stats_countMetric _ _).trans hinstall
  · exact hinstall

theorem stats_conclude (agent : Agent) (origin : Origin) (installation : Installation)
    (answer : Except CloudError FirewallLists) :
    (agent.conclude origin installation answer).2.stats = agent.stats := by
  cases answer with
  | ok lists => exact stats_finish _ _ _ _
  | error error => exact (stats_finish _ _ _ _).trans (agent.stats_countFailure _ _)

/-! ### Occasions to install a configuration

Each says whether a policy was installed.
-/

def reportStarted (plane : ControlPlane σ) (agent : Agent) (state : σ) : Bool × Agent × σ :=
  match plane.sendEvent (.started agent.info) state with
  | (.ok (some config), state) => apply plane .started config agent state
  | (.ok none, state) => (false, agent, state)
  | (.error error, state) => (false, agent.countFailure .started error, state)

/-- Asks for the version of the configuration, and fetches the configuration if it is newer. -/
def poll (plane : ControlPlane σ) (agent : Agent) (state : σ) : Bool × Agent × σ :=
  match plane.fetchVersion state with
  | (.error error, state) => (false, agent.countFailure .fetchVersion error, state)
  | (.ok version, state) =>
    if version.updatedAt.toInt ≤ agent.policy.version then (false, agent, state)
    else
      match plane.fetchConfig state with
      | (.ok config, state) => apply plane .poll config agent state
      | (.error error, state) => (false, agent.countFailure .fetchConfig error, state)

def suggestedInterval? (config : Cloud.Config) : Option Nat :=
  if config.heartbeatMillis = 0 then none else some config.heartbeatMillis.toNat

/-- Whether the answer to a heartbeat confirms statistics. An answer without a configuration repeats
what the policy in force says. -/
def confirmsStats (agent : Agent) : Option Cloud.Config → Bool
  | some config => config.receivedAnyStats
  | none => agent.policy.receivedAnyStats

def heartbeat (plane : ControlPlane σ) (beat : Heartbeat) (agent : Agent) (state : σ) :
    Bool × Heartbeat × Agent × σ :=
  let (stats, collector) := agent.stats.snapshot
  let agent := { agent with stats := collector }
  match plane.sendEvent (.heartbeat agent.info stats) state with
  | (.error error, state) => (false, beat, agent.countFailure .heartbeat error, state)
  | (.ok response, state) =>
    let (_, beat) :=
      beat.answered (response.bind suggestedInterval?) (agent.confirmsStats response)
    match response with
    | none => (false, beat, agent, state)
    | some config =>
      let (installed, agent, state) := apply plane .heartbeat config agent state
      (installed, beat, agent, state)

def deliver (plane : ControlPlane σ) (event : Event) (agent : Agent) (state : σ) : Agent × σ :=
  match plane.sendEvent event state with
  | (.ok _, state) => (agent, state)
  | (.error error, state) => (agent.countFailure .sendEvent error, state)

def deliverNext (plane : ControlPlane σ) (agent : Agent) (state : σ) : Agent × σ :=
  match agent.channel.queue with
  | [] => (agent, state)
  | event :: queue =>
    deliver plane event { agent with channel := { agent.channel with queue } } state

def deliverAll (plane : ControlPlane σ) (agent : Agent) (state : σ) : Agent × σ :=
  Nat.repeat (fun (agent, state) => deliverNext plane agent state) agent.channel.queue.length
    (agent, state)

end Agent

end RequestGuard
