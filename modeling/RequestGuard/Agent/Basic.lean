import RequestGuard.Agent.Channel
import RequestGuard.Metrics
import RequestGuard.Route.Discovery
import RequestGuard.Settings.Basic
import RequestGuard.Stats.Collector
import RequestGuard.Throttle

/-!
# The agent

An agent holds the policy in force and the counters that belong to it, collects statistics, and
queues events. Its operations on a request take and give the request's context. While it is disabled
it neither decides nor counts.
-/

namespace RequestGuard

open Cloud (AgentInfo Event)
open Policy (Snapshot)
open RateLimit (Limiter)

structure Agent where
  settings : Settings
  disabled : Bool
  policy : Snapshot := .empty
  limiter : Limiter := {}
  stats : Stats.Collector
  throttle : Throttle
  channel : Channel := {}
  metrics : Metrics := []

namespace Agent

def ofSettings (settings : Settings) : Agent where
  settings
  disabled := settings.protection.disable
  stats :=
    { maxUsers := settings.reporting.maxUsers, maxHostnames := settings.reporting.maxHostnames }
  throttle :=
    { window := settings.attackWindow * 1000, max := settings.reporting.maxAttackEvents }

/-- What an agent says about itself. It is in dry mode unless its settings demand blocking. -/
def info (agent : Agent) : AgentInfo := { dryMode := agent.settings.protection.block != some true }

/-- Whether detected attacks are blocked: as the settings say, or else as the policy says. -/
def isBlocking (agent : Agent) : Bool := agent.settings.protection.block.getD agent.policy.block

def setDisabled (agent : Agent) (disabled : Bool) : Agent := { agent with disabled }

def countMetric (agent : Agent) (metric : Metric) : Agent :=
  if agent.settings.observability.metricsEnabled then
    { agent with metrics := agent.metrics.count metric }
  else agent

/-- Offers a snapshot to take the place of the policy in force. With a new policy all counters start
afresh. -/
def install (agent : Agent) (offered : Snapshot) : Bool × Agent :=
  let (installed, policy) := agent.policy.install offered
  if installed then (true, { agent with policy, limiter := .ofEndpoints policy.endpoints })
  else (false, agent)

def advanceLimiter (agent : Agent) : Agent := { agent with limiter := agent.limiter.advance }

/-- Says whose request it is. This counts only before the decision on the request. -/
def setUser (agent : Agent) (context : Context) (id name : String) :
    Except IdentityError (Agent × Context) :=
  (User.ofTexts id name).map fun user =>
    if context.isDecided then (agent, context)
    else
      let noted :=
        if agent.disabled then agent
        else { agent with stats := agent.stats.user user context.request.ip }
      (noted, { context with user := some user })

/-- Says which group a request counts for. This counts only before the decision on the request. -/
def setGroup (context : Context) (group : String) : Except IdentityError Context :=
  (groupOfText group).map fun group =>
    if context.isDecided then context else { context with group := some group }

def countDecision (agent : Agent) (decision : Option Refusal) : Agent :=
  let counted := { agent with stats := agent.stats.request }.countMetric .request
  match decision with
  | none => counted
  | some refusal =>
    let aborted := counted.stats.aborted
    let stats := if refusal.isRateLimited then aborted.rateLimited else aborted
    { counted with stats }.countMetric (.blockedRequest refusal.reason)

/-- Decides on a request. There is one decision on a request, which is given again afterwards. -/
def decide (agent : Agent) (context : Context) : Option Refusal × Agent × Context :=
  if agent.disabled then (none, agent, context)
  else
    match context.decision with
    | some decision => (decision, agent, context)
    | none =>
      let (decision, limiter) :=
        Decision.decide agent.policy agent.limiter context.request context.user context.group
      (decision, { agent with limiter }.countDecision decision,
        { context with decision := some decision })

def completed (agent : Agent) (method route : String) (status : Nat) : Agent :=
  if !agent.disabled && Route.isDiscovered status route method then
    { agent with stats := agent.stats.route method route }
  else agent

def connected (agent : Agent) (hostname : String) (port : Nat) : Agent :=
  if agent.disabled then agent else { agent with stats := agent.stats.hostname hostname port }

/-- Reports an attack at a time: counts it and queues an event, unless there were too many. -/
def report (agent : Agent) (now : Nat) (context : Option Context) (attack : Attack) : Agent :=
  let counted :=
    { agent with
      stats := agent.stats.attack attack.operation attack.kind attack.blocked }.countMetric
        (.attack attack.kind attack.blocked)
  let (recorded, throttle) := counted.throttle.record now
  let throttled := { counted with throttle }
  if recorded then
    { throttled with
      channel := throttled.channel.send (.ofAttack agent.info attack context) }
  else throttled.countMetric .droppedEvent

theorem install_of_newer {agent : Agent} {offered : Snapshot}
    (h : offered.isNewerThan agent.policy = true) :
    agent.install offered
      = (true, { agent with policy := offered, limiter := .ofEndpoints offered.endpoints }) := by
  rw [install, Snapshot.install, h]
  rfl

theorem install_of_not_newer {agent : Agent} {offered : Snapshot}
    (h : offered.isNewerThan agent.policy = false) : agent.install offered = (false, agent) := by
  rw [install, Snapshot.install, h]
  rfl

theorem fst_install (agent : Agent) (offered : Snapshot) :
    (agent.install offered).1 = offered.isNewerThan agent.policy := by
  cases hnewer : offered.isNewerThan agent.policy with
  | true => rw [install_of_newer hnewer]
  | false => rw [install_of_not_newer hnewer]

theorem policy_install (agent : Agent) (offered : Snapshot) :
    (agent.install offered).2.policy
      = if offered.isNewerThan agent.policy then offered else agent.policy := by
  cases hnewer : offered.isNewerThan agent.policy with
  | true => rw [install_of_newer hnewer, if_pos rfl]
  | false => rw [install_of_not_newer hnewer, if_neg Bool.false_ne_true]

@[simp] theorem stats_countMetric (agent : Agent) (metric : Metric) :
    (agent.countMetric metric).stats = agent.stats := by
  unfold countMetric
  split <;> rfl

@[simp] theorem throttle_countMetric (agent : Agent) (metric : Metric) :
    (agent.countMetric metric).throttle = agent.throttle := by
  unfold countMetric
  split <;> rfl

@[simp] theorem channel_countMetric (agent : Agent) (metric : Metric) :
    (agent.countMetric metric).channel = agent.channel := by
  unfold countMetric
  split <;> rfl

@[simp] theorem settings_countMetric (agent : Agent) (metric : Metric) :
    (agent.countMetric metric).settings = agent.settings := by
  unfold countMetric
  split <;> rfl

@[simp] theorem policy_countMetric (agent : Agent) (metric : Metric) :
    (agent.countMetric metric).policy = agent.policy := by
  unfold countMetric
  split <;> rfl

theorem stats_install (agent : Agent) (offered : Snapshot) :
    (agent.install offered).2.stats = agent.stats := by
  unfold install
  dsimp only
  split <;> rfl

theorem stats_report (agent : Agent) (now : Nat) (context : Option Context) (attack : Attack) :
    (agent.report now context attack).stats
      = agent.stats.attack attack.operation attack.kind attack.blocked := by
  unfold report
  dsimp only
  split <;> simp

theorem throttle_report (agent : Agent) (now : Nat) (context : Option Context) (attack : Attack) :
    (agent.report now context attack).throttle = (agent.throttle.record now).2 := by
  unfold report
  dsimp only
  split <;> simp

theorem channel_report (agent : Agent) (now : Nat) (context : Option Context) (attack : Attack) :
    (agent.report now context attack).channel
      = if (agent.throttle.record now).1
        then agent.channel.send (.ofAttack agent.info attack context)
        else agent.channel := by
  unfold report
  simp only [throttle_countMetric, channel_countMetric]
  split
  · simp [info]
  · simp

end Agent

end RequestGuard
