import RequestGuard.Proofs.Agent.Run
import RequestGuard.Proofs.Stats.Entry

/-!
# What the calls of an agent enter into the statistics

A decision that is made enters the request and what became of it. A scan enters its call, the inputs
that its detector could not judge, and the attack that it reports, if there is one. `World.entries`
are the entries of any call, and they are all that a call changes in the statistics
(`World.stats_step`).
-/

namespace RequestGuard

open Stats (Entry)

namespace Agent

variable {Args : Type}

def decisionEntries : Option Refusal → List Entry
  | none => [.request]
  | some refusal => .request :: .aborted :: if refusal.isRateLimited then [.rateLimited] else []

/-- The entries of a decision, if it is not one that was made before. -/
def decideEntries (agent : Agent) (context : Context) : List Entry :=
  if agent.disabled || context.isDecided then [] else decisionEntries (agent.decide context).1

theorem stats_countDecision (agent : Agent) (decision : Option Refusal) :
    (agent.countDecision decision).stats = agent.stats.enterAll (decisionEntries decision) := by
  unfold countDecision
  cases decision with
  | none => exact stats_countMetric _ _
  | some refusal =>
    dsimp only
    rw [stats_countMetric, stats_countMetric, decisionEntries]
    cases refusal.isRateLimited <;> rfl

theorem stats_decide (agent : Agent) (context : Context) :
    (agent.decide context).2.1.stats = agent.stats.enterAll (agent.decideEntries context) := by
  by_cases hsettled : agent.disabled = true ∨ context.isDecided = true
  · rw [snd_decide_of_settled hsettled, decideEntries, if_pos (by simpa using hsettled)]
    rfl
  · obtain ⟨hdisabled, hdecided⟩ := not_or.1 hsettled
    have hundecided := Context.decision_eq_none (Bool.eq_false_iff.2 hdecided)
    rw [decideEntries, if_neg (by simpa using hsettled),
      decide_of_undecided (Bool.eq_false_iff.2 hdisabled) hundecided]
    exact stats_countDecision _ _

def attackEntry (attack : Attack) : Entry := .attack attack.operation attack.kind attack.blocked

def searchEntries (agent : Agent) (context : Context) (operation : String)
    (detector : Detector Args) (args : Args) (defer : Bool) : List Entry :=
  let search :=
    (Scan.searchSources agent.settings.protection.limits detector args Source.all context).1
  List.replicate search.failures (.detectorError operation detector.kind) ++
    if search.hit.isSome && !defer then [.attack operation detector.kind agent.isBlocking] else []

/-- The entries of a scan for attacks. One that is settled by a deferred attack reports it if it was
not reported. -/
def scanEntries (agent : Agent) (context : Option Context) (operation : String)
    (detector : Detector Args) (args : Args) (defer : Bool) : List Entry :=
  if agent.disabled then []
  else
    .call operation detector.kind context.isSome ::
      match context with
      | none => []
      | some context =>
        if agent.policy.isProtectionOff context.request.method context.request.route then []
        else
          match context.deferred.filter fun deferred => deferred.attack.kind = detector.kind with
          | some deferred => if deferred.reported then [] else [attackEntry deferred.attack]
          | none => agent.searchEntries context operation detector args defer

theorem stats_countFailures (agent : Agent) (operation : String) (kind : AttackKind) (count : Nat) :
    (agent.countFailures operation kind count).stats
      = agent.stats.enterAll (List.replicate count (.detectorError operation kind)) :=
  (agent.stats.enterAll_replicate (.detectorError operation kind) count).symm

theorem stats_searchInput (agent : Agent) (now : Nat) (context : Context) (operation : String)
    (detector : Detector Args) (args : Args) (defer : Bool) :
    (agent.searchInput now context operation detector args defer).agent.stats
      = agent.stats.enterAll (agent.searchEntries context operation detector args defer) := by
  unfold searchInput searchEntries
  dsimp only
  rw [Stats.Collector.enterAll_append, ← stats_countFailures]
  split
  · rename_i hnone
    rw [hnone]
    rfl
  · rename_i hit hsome
    rw [hsome]
    cases defer with
    | true => rfl
    | false => exact stats_report _ _ _ _

theorem stats_settle (agent : Agent) (now : Nat) (context : Context) (deferred : DeferredAttack) :
    (agent.settle now context deferred).agent.stats
      = agent.stats.enterAll (if deferred.reported then [] else [attackEntry deferred.attack]) := by
  unfold settle
  dsimp only
  split
  · rfl
  · exact stats_report _ _ _ _

theorem stats_scan (agent : Agent) (now : Nat) (context : Option Context) (operation : String)
    (detector : Detector Args) (args : Args) (defer : Bool) :
    (agent.scan now context operation detector args defer).agent.stats
      = agent.stats.enterAll (agent.scanEntries context operation detector args defer) := by
  unfold scan scanEntries
  split
  · rfl
  · rw [Stats.Collector.enterAll_cons]
    cases context with
    | none => rfl
    | some context =>
      dsimp only
      split
      · rfl
      · cases hdeferred : context.deferred with
        | none => exact stats_searchInput _ _ _ _ _ _ _
        | some deferred =>
          rw [Option.filter_some]
          dsimp only
          by_cases hkind : deferred.attack.kind = detector.kind
          · rw [if_pos hkind, decide_eq_true hkind]
            exact stats_settle _ _ _ _
          · rw [if_neg hkind, decide_eq_false hkind]
            exact stats_searchInput _ _ _ _ _ _ _

def setUserEntries (agent : Agent) (context : Context) (id name : String) : List Entry :=
  match User.ofTexts id name with
  | .ok user => if context.isDecided || agent.disabled then [] else [.user user context.request.ip]
  | .error _ => []

def completedEntries (agent : Agent) (method route : String) (status : Nat) : List Entry :=
  if !agent.disabled && Route.isDiscovered status route method then [.route method route] else []

def connectedEntries (agent : Agent) (hostname : String) (port : Nat) : List Entry :=
  if agent.disabled then [] else [.hostname hostname port]

theorem stats_setUser {agent after : Agent} {context changed : Context} {id name : String}
    (h : agent.setUser context id name = .ok (after, changed)) :
    after.stats = agent.stats.enterAll (agent.setUserEntries context id name) := by
  unfold setUser at h
  unfold setUserEntries
  cases huser : User.ofTexts id name with
  | error reason =>
    rw [huser] at h
    cases h
  | ok user =>
    rw [huser] at h
    simp only [Except.map, Except.ok.injEq] at h
    cases hdecided : context.isDecided with
    | true =>
      rw [if_pos hdecided] at h
      obtain ⟨rfl, -⟩ := Prod.mk.inj h
      rfl
    | false =>
      rw [if_neg (ne_true_of_eq_false hdecided)] at h
      obtain ⟨rfl, -⟩ := Prod.mk.inj h
      cases agent.disabled <;> rfl

theorem setUserEntries_of_error {agent : Agent} {context : Context} {id name : String}
    {reason : IdentityError} (h : agent.setUser context id name = .error reason) :
    agent.setUserEntries context id name = [] := by
  unfold setUser at h
  unfold setUserEntries
  cases huser : User.ofTexts id name with
  | error reason => rfl
  | ok user =>
    rw [huser] at h
    cases h

theorem stats_completed (agent : Agent) (method route : String) (status : Nat) :
    (agent.completed method route status).stats
      = agent.stats.enterAll (agent.completedEntries method route status) := by
  unfold completed completedEntries
  split <;> rfl

theorem stats_connected (agent : Agent) (hostname : String) (port : Nat) :
    (agent.connected hostname port).stats
      = agent.stats.enterAll (agent.connectedEntries hostname port) := by
  unfold connected connectedEntries
  split <;> rfl

end Agent

namespace World

variable {ι : Type} [DecidableEq ι]

def entries (world : World ι) : Action ι → List Entry
  | .setUser i id name => world.agent.setUserEntries (world.contexts i) id name
  | .decide i => world.agent.decideEntries (world.contexts i)
  | .scan _ i operation detector args defer =>
    world.agent.scanEntries (i.map world.contexts) operation detector args defer
  | .completed method route status => world.agent.completedEntries method route status
  | .connected hostname port => world.agent.connectedEntries hostname port
  | .setGroup _ _ | .install _ | .advance | .setDisabled _ | .takeStats => []

/-- But for a snapshot that is taken, the statistics change by the entries of a call. -/
theorem stats_step (world : World ι) {action : Action ι} (h : action ≠ .takeStats) :
    (world.step action).agent.stats = world.agent.stats.enterAll (world.entries action) := by
  cases action with
  | setUser i id name =>
    rw [step]
    split
    · rename_i after changed hset
      exact Agent.stats_setUser hset
    · rename_i reason herror
      rw [entries, Agent.setUserEntries_of_error herror]
      rfl
  | setGroup i group =>
    rw [step]
    split <;> rfl
  | decide i => exact world.agent.stats_decide (world.contexts i)
  | scan now i operation detector args defer =>
    cases i with
    | none => exact world.agent.stats_scan now none operation detector args defer
    | some i =>
      exact world.agent.stats_scan now (some (world.contexts i)) operation detector args defer
  | completed method route status => exact world.agent.stats_completed method route status
  | connected hostname port => exact world.agent.stats_connected hostname port
  | install offered => exact world.agent.stats_install offered
  | advance => rfl
  | setDisabled disabled => rfl
  | takeStats => exact absurd rfl h

end World

end RequestGuard
