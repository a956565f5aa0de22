import Mathlib.Logic.Function.Basic
import RequestGuard.Proofs.Agent.Scanned

/-!
# Runs of an agent

An agent serves many requests at a time. A `World` is the agent together with the contexts of all
these requests, and an `Action` is one call of the agent, on any of the contexts and in any order. A
run begins with a new agent and with the contexts of requests that just came in.

What can change is small. Only an installation changes the policy; only an installation, a decision
and the end of a minute change the limiter (`Agent.SameRules` is what all other calls keep); and
nothing changes the settings or the requests. `World.Served` collects what holds in every world
that a run can reach.
-/

namespace RequestGuard

open Policy (Snapshot)

/-- An agent and the contexts of the requests that it serves. -/
structure World (ι : Type) where
  agent : Agent
  contexts : ι → Context

/-- A call of the agent. A scan may be made outside of any request. -/
inductive Action (ι : Type) : Type 1 where
  | setUser (i : ι) (id name : String)
  | setGroup (i : ι) (group : String)
  | decide (i : ι)
  | scan {Args : Type} (now : Nat) (i : Option ι) (operation : String)
    (detector : Detector Args) (args : Args)
      (defer : Bool)
  | completed (method route : String) (status : Nat)
  | connected (hostname : String) (port : Nat)
  | install (offered : Snapshot)
  | advance
  | setDisabled (disabled : Bool)
  | takeStats

namespace World

variable {ι : Type}

/-- A new agent and requests that just came in. -/
def start (settings : Settings) (requests : ι → Request.Parts) : World ι where
  agent := .ofSettings settings
  contexts i := .ofRequest (.ofParts (requests i))

variable [DecidableEq ι]

def put (world : World ι) (i : ι) (context : Context) : World ι :=
  { world with contexts := Function.update world.contexts i context }

def step (world : World ι) : Action ι → World ι
  | .setUser i id name =>
    match world.agent.setUser (world.contexts i) id name with
    | .ok (agent, context) => { world with agent }.put i context
    | .error _ => world
  | .setGroup i group =>
    match Agent.setGroup (world.contexts i) group with
    | .ok context => world.put i context
    | .error _ => world
  | .decide i =>
    let (_, agent, context) := world.agent.decide (world.contexts i)
    { world with agent }.put i context
  | .scan now none operation detector args defer =>
    { world with agent := (world.agent.scan now none operation detector args defer).agent }
  | .scan now (some i) operation detector args defer =>
    let outcome := world.agent.scan now (some (world.contexts i)) operation detector args defer
    { world with agent := outcome.agent }.put i (outcome.context.getD (world.contexts i))
  | .completed method route status =>
    { world with agent := world.agent.completed method route status }
  | .connected hostname port => { world with agent := world.agent.connected hostname port }
  | .install offered => { world with agent := (world.agent.install offered).2 }
  | .advance => { world with agent := world.agent.advanceLimiter }
  | .setDisabled disabled => { world with agent := world.agent.setDisabled disabled }
  | .takeStats => { world with agent := { world.agent with stats := world.agent.stats.snapshot.2 } }

def run (world : World ι) (actions : List (Action ι)) : World ι := actions.foldl step world

/-- A world that a new agent with some settings reaches while it serves some requests. -/
def Reachable (settings : Settings) (requests : ι → Request.Parts) (world : World ι) : Prop :=
  ∃ actions, (start settings requests).run actions = world

theorem contexts_put (world : World ι) (i j : ι) (context : Context) :
    (world.put i context).contexts j = if j = i then context else world.contexts j :=
  Function.update_apply ..

theorem step_decide (world : World ι) (i : ι) :
    world.step (.decide i)
      = { world with agent := (world.agent.decide (world.contexts i)).2.1 }.put i
          (world.agent.decide (world.contexts i)).2.2 :=
  rfl

end World

/-! ### What calls keep -/

/-- Two agents that judge requests in the same way, whatever they have counted and reported. -/
structure Agent.SameRules (before after : Agent) : Prop where
  settings : after.settings = before.settings
  disabled : after.disabled = before.disabled
  policy : after.policy = before.policy
  limiter : after.limiter = before.limiter

theorem Context.decision_eq_none {context : Context} (h : context.isDecided = false) :
    context.decision = none :=
  Option.isNone_iff_eq_none.1 (Option.isSome_eq_false_iff.1 h)

namespace Agent

theorem SameRules.refl (agent : Agent) : agent.SameRules agent := ⟨rfl, rfl, rfl, rfl⟩

theorem SameRules.trans {first second third : Agent} (h : first.SameRules second)
    (h' : second.SameRules third) :
    first.SameRules third :=
  ⟨h'.settings.trans h.settings, h'.disabled.trans h.disabled, h'.policy.trans h.policy,
    h'.limiter.trans h.limiter⟩

theorem sameRules_stats (agent : Agent) (stats : Stats.Collector) :
    agent.SameRules { agent with stats } :=
  ⟨rfl, rfl, rfl, rfl⟩

theorem SameRules.countMetric {before after : Agent} (h : before.SameRules after)
    (metric : Metric) :
    before.SameRules (after.countMetric metric) := by
  refine h.trans ?_
  unfold Agent.countMetric
  split <;> exact ⟨rfl, rfl, rfl, rfl⟩

theorem sameRules_countDecision (agent : Agent) (decision : Option Refusal) :
    agent.SameRules (agent.countDecision decision) := by
  have hcounted := (sameRules_stats agent agent.stats.request).countMetric .request
  cases decision with
  | none => exact hcounted
  | some refusal => exact (hcounted.trans (sameRules_stats _ _)).countMetric _

theorem sameRules_report (agent : Agent) (now : Nat) (context : Option Context) (attack : Attack) :
    agent.SameRules (agent.report now context attack) := by
  have hcounted :=
    (sameRules_stats agent
      (agent.stats.attack attack.operation attack.kind attack.blocked)).countMetric
        (.attack attack.kind attack.blocked)
  unfold report
  dsimp only
  split
  · exact hcounted.trans ⟨rfl, rfl, rfl, rfl⟩
  · refine SameRules.countMetric (hcounted.trans ?_) _
    exact ⟨rfl, rfl, rfl, rfl⟩

/-- A scan leaves a context as it is, but for the deferred attack and the strings that were
taken. -/
structure ScanKeeps (limits : Input.Limits) (before after : Context) : Prop where
  request : after.request = before.request
  user : after.user = before.user
  group : after.group = before.group
  decision : after.decision = before.decision
  caches : before.Caches limits → after.Caches limits

theorem ScanKeeps.refl (limits : Input.Limits) (context : Context) :
    ScanKeeps limits context context :=
  ⟨rfl, rfl, rfl, rfl, id⟩

variable {Args : Type}

theorem sameRules_countFailures (agent : Agent) (operation : String) (kind : AttackKind)
    (count : Nat) :
    agent.SameRules (agent.countFailures operation kind count) :=
  sameRules_stats agent _

theorem Searched.sameRules {agent : Agent} {now : Nat} {context : Context} {operation : String}
    {kind : AttackKind} {defer : Bool} {outcome : Scan.Outcome}
    (h : agent.Searched now context operation kind defer outcome) :
    agent.SameRules outcome.agent := by
  cases h with
  | nothing failures _ _ => exact agent.sameRules_countFailures operation kind failures
  | stored failures _ _ _ => exact agent.sameRules_countFailures operation kind failures
  | reported failures _ _ _ =>
    exact (agent.sameRules_countFailures operation kind failures).trans (sameRules_report _ _ _ _)

theorem Searched.keeps {agent : Agent} {now : Nat} {context : Context} {operation : String}
    {kind : AttackKind} {defer : Bool} {outcome : Scan.Outcome}
    (h : agent.Searched now context operation kind defer outcome) :
    ∃ after, outcome.context = some after
      ∧ ScanKeeps agent.settings.protection.limits context after := by
  cases h with
  | nothing _ _ htakes => exact ⟨_, rfl, rfl, rfl, rfl, rfl, htakes⟩
  | stored _ _ htakes _ => exact ⟨_, rfl, rfl, rfl, rfl, rfl, htakes⟩
  | reported _ _ htakes _ => exact ⟨_, rfl, rfl, rfl, rfl, rfl, htakes⟩

theorem Scanned.sameRules {agent : Agent} {now : Nat} {context : Context} {operation : String}
    {kind : AttackKind} {defer : Bool} {outcome : Scan.Outcome}
    (h : agent.Scanned now context operation kind defer outcome) :
    agent.SameRules outcome.agent := by
  have hcounted : agent.SameRules (agent.countCall operation kind true) := sameRules_stats agent _
  cases h with
  | disabled _ => exact SameRules.refl agent
  | off _ _ => exact hcounted
  | settled _ _ _ _ =>
    unfold settle
    dsimp only
    split
    · exact hcounted
    · exact hcounted.trans (sameRules_report _ _ _ _)
  | searched _ _ _ hsearched => exact hcounted.trans hsearched.sameRules

theorem sameRules_scan (agent : Agent) (now : Nat) (context : Option Context) (operation : String)
    (detector : Detector Args) (args : Args) (defer : Bool) :
    agent.SameRules (agent.scan now context operation detector args defer).agent := by
  cases context with
  | none =>
    unfold scan
    split
    · exact SameRules.refl agent
    · exact sameRules_stats agent _
  | some inner => exact (agent.scanned_scan now inner operation detector args defer).sameRules

theorem Scanned.keeps {agent : Agent} {now : Nat} {context : Context} {operation : String}
    {kind : AttackKind} {defer : Bool} {outcome : Scan.Outcome}
    (h : agent.Scanned now context operation kind defer outcome) :
    ∃ after, outcome.context = some after
      ∧ ScanKeeps agent.settings.protection.limits context after := by
  cases h with
  | disabled _ => exact ⟨context, rfl, ScanKeeps.refl _ _⟩
  | off _ _ => exact ⟨context, rfl, ScanKeeps.refl _ _⟩
  | settled _ _ _ _ => exact ⟨_, rfl, rfl, rfl, rfl, rfl, id⟩
  | searched _ _ _ hsearched => exact hsearched.keeps

theorem context_scan (agent : Agent) (now : Nat) (context : Context) (operation : String)
    (detector : Detector Args) (args : Args) (defer : Bool) :
    ∃ after, (agent.scan now (some context) operation detector args defer).context = some after
      ∧ ScanKeeps agent.settings.protection.limits context after :=
  (agent.scanned_scan now context operation detector args defer).keeps

theorem setUser_eq_ok {agent after : Agent} {context changed : Context} {id name : String}
    (h : agent.setUser context id name = .ok (after, changed)) :
    agent.SameRules after
      ∧ (changed = context
        ∨ context.isDecided = false
          ∧ ∃ user : User, user.id ≠ "" ∧ changed = { context with user }) := by
  unfold setUser at h
  cases huser : User.ofTexts id name with
  | error reason =>
    rw [huser] at h
    cases h
  | ok user =>
    have hid : user.id ≠ "" := by
      unfold User.ofTexts at huser
      dsimp only at huser
      split at huser
      · cases huser
      · rename_i hempty
        cases huser
        simp only [Bool.or_eq_true, String.isEmpty_iff, not_or] at hempty
        exact hempty.1
    rw [huser] at h
    simp only [Except.map, Except.ok.injEq] at h
    split at h
    · obtain ⟨rfl, rfl⟩ := Prod.mk.inj h
      exact ⟨SameRules.refl _, .inl rfl⟩
    · rename_i hundecided
      obtain ⟨rfl, rfl⟩ := Prod.mk.inj h
      refine ⟨?_, .inr ⟨Bool.eq_false_iff.2 hundecided, user, hid, rfl⟩⟩
      split
      · exact SameRules.refl _
      · exact sameRules_stats _ _

theorem setGroup_eq_ok {context changed : Context} {group : String}
    (h : Agent.setGroup context group = .ok changed) :
    changed = context ∨ context.isDecided = false ∧ ∃ group, changed = { context with group } := by
  unfold setGroup at h
  cases hgroup : groupOfText group with
  | error reason =>
    rw [hgroup] at h
    cases h
  | ok name =>
    rw [hgroup] at h
    simp only [Except.map, Except.ok.injEq] at h
    subst h
    split
    · exact .inl rfl
    · rename_i hundecided
      exact .inr ⟨Bool.eq_false_iff.2 hundecided, some name, rfl⟩

theorem sameRules_completed (agent : Agent) (method route : String) (status : Nat) :
    agent.SameRules (agent.completed method route status) := by
  unfold completed
  split
  · exact sameRules_stats agent _
  · exact SameRules.refl agent

theorem sameRules_connected (agent : Agent) (hostname : String) (port : Nat) :
    agent.SameRules (agent.connected hostname port) := by
  unfold connected
  split
  · exact SameRules.refl agent
  · exact sameRules_stats agent _

theorem settings_install (agent : Agent) (offered : Snapshot) :
    (agent.install offered).2.settings = agent.settings := by
  unfold install
  dsimp only
  split <;> rfl

theorem decide_of_disabled {agent : Agent} (h : agent.disabled = true) (context : Context) :
    agent.decide context = (none, agent, context) :=
  if_pos h

theorem decide_of_decided {agent : Agent} {context : Context} {decision : Option Refusal}
    (h : agent.disabled = false) (hdecision : context.decision = some decision) :
    agent.decide context = (decision, agent, context) := by
  rw [decide, h, hdecision]
  rfl

theorem decide_of_undecided {agent : Agent} {context : Context} (h : agent.disabled = false)
    (hdecision : context.decision = none) :
    let (decision, limiter) :=
      Decision.decide agent.policy agent.limiter context.request context.user context.group
    agent.decide context
      = (decision, { agent with limiter }.countDecision decision,
        { context with decision := some decision }) := by
  rw [decide, h, hdecision]
  rfl

theorem rules_decide_of_undecided {agent : Agent} {context : Context} (h : agent.disabled = false)
    (hdecision : context.decision = none) :
    (agent.decide context).2.1.policy = agent.policy
      ∧ ((agent.decide context).1, (agent.decide context).2.1.limiter)
        = Decision.decide agent.policy agent.limiter context.request context.user
          context.group := by
  have hrules := sameRules_countDecision
    { agent with
      limiter :=
        (Decision.decide agent.policy agent.limiter context.request context.user context.group).2 }
    (Decision.decide agent.policy agent.limiter context.request context.user context.group).1
  rw [decide_of_undecided h hdecision]
  exact ⟨hrules.policy, Prod.ext rfl hrules.limiter⟩

theorem decide_of_undecided_eq {agent : Agent} {context : Context} (h : agent.disabled = false)
    (hdecision : context.decision = none) :
    let verdict :=
      Decision.decide agent.policy agent.limiter context.request context.user context.group
    { agent with limiter := verdict.2 }.SameRules (agent.decide context).2.1
      ∧ (agent.decide context).2.2 = { context with decision := some verdict.1 } := by
  rw [decide_of_undecided h hdecision]
  exact ⟨sameRules_countDecision _ _, rfl⟩

theorem snd_decide_of_settled {agent : Agent} {context : Context}
    (h : agent.disabled = true ∨ context.isDecided = true) :
    (agent.decide context).2 = (agent, context) := by
  cases hdisabled : agent.disabled with
  | true => rw [decide_of_disabled hdisabled]
  | false =>
    have hdecided : context.isDecided = true := h.resolve_left (ne_true_of_eq_false hdisabled)
    obtain ⟨decision, hdecision⟩ := Option.isSome_iff_exists.1 hdecided
    rw [decide_of_decided hdisabled hdecision]

theorem decide_cases (agent : Agent) (context : Context) :
    (agent.disabled = true ∨ context.isDecided = true) ∧ (agent.decide context).2 = (agent, context)
      ∨ agent.disabled = false ∧ context.isDecided = false
        ∧ let verdict :=
  Decision.decide agent.policy agent.limiter context.request context.user context.group
          { agent with limiter := verdict.2 }.SameRules (agent.decide context).2.1
            ∧ (agent.decide context).2.2 = { context with decision := some verdict.1 } := by
  by_cases hsettled : agent.disabled = true ∨ context.isDecided = true
  · exact .inl ⟨hsettled, snd_decide_of_settled hsettled⟩
  · obtain ⟨hdisabled, hdecided⟩ := not_or.1 hsettled
    have henabled := Bool.eq_false_iff.2 hdisabled
    have hundecided := Bool.eq_false_iff.2 hdecided
    exact .inr ⟨henabled, hundecided,
      decide_of_undecided_eq henabled (Context.decision_eq_none hundecided)⟩

theorem decide_keeps (agent : Agent) (context : Context) :
    (agent.decide context).2.1.settings = agent.settings
      ∧ ∃ decision, (agent.decide context).2.2 = { context with decision } := by
  obtain ⟨-, hsame⟩ | ⟨-, -, hrules, hafter⟩ := agent.decide_cases context
  · rw [hsame]
    exact ⟨rfl, context.decision, rfl⟩
  · exact ⟨hrules.settings, _, hafter⟩

end Agent

/-- A call on which no decision depends. -/
def Action.isQuiet {ι : Type} : Action ι → Bool
  | .decide _ => false
  | .install _ => false
  | .advance => false
  | .setDisabled _ => false
  | _ => true

theorem World.sameRules_step {ι : Type} [DecidableEq ι] (world : World ι) {action : Action ι}
    (h : action.isQuiet = true) :
    world.agent.SameRules (world.step action).agent := by
  cases action with
  | setUser i id name =>
    rw [step]
    split
    · rename_i after changed hset
      exact (Agent.setUser_eq_ok hset).1
    · exact Agent.SameRules.refl _
  | setGroup i group =>
    rw [step]
    split <;> exact Agent.SameRules.refl _
  | scan now i operation detector args defer => cases i <;> exact Agent.sameRules_scan _ _ _ _ _ _ _
  | completed method route status => exact Agent.sameRules_completed _ _ _ _
  | connected hostname port => exact Agent.sameRules_connected _ _ _
  | takeStats => exact ⟨rfl, rfl, rfl, rfl⟩
  | decide => cases h
  | install => cases h
  | advance => cases h
  | setDisabled => cases h

/-! ### What holds in every run -/

/-- The context of a request while it is served with some settings. -/
structure Context.Serves (settings : Settings) (parts : Request.Parts)
    (context : Context) : Prop where
  request : context.request = .ofParts parts
  user {user : User} (h : context.user = some user) : user.id ≠ ""
  caches : context.Caches settings.protection.limits

theorem Context.Serves.of_scanKeeps {settings : Settings} {parts : Request.Parts}
    {before after : Context} (h : before.Serves settings parts)
    (hkeeps : Agent.ScanKeeps settings.protection.limits before after) :
    after.Serves settings parts :=
  ⟨hkeeps.request.trans h.request,
    fun huser => h.user (hkeeps.user.symm.trans huser), hkeeps.caches h.caches⟩

/-- A world that serves some requests with some settings. -/
structure World.Served {ι : Type} (settings : Settings) (requests : ι → Request.Parts)
    (world : World ι) : Prop where
  settings_eq : world.agent.settings = settings
  context (i : ι) : (world.contexts i).Serves settings (requests i)

namespace World

variable {ι : Type} {settings : Settings} {requests : ι → Request.Parts}

theorem served_start (settings : Settings) (requests : ι → Request.Parts) :
    (start settings requests).Served settings requests := by
  refine ⟨rfl, fun i => ⟨rfl, ?_, Context.caches_ofRequest _ _⟩⟩
  intro user huser
  cases huser

theorem Served.agent {world : World ι} (h : world.Served settings requests) {agent : Agent}
    (hagent : agent.settings = world.agent.settings) :
    ({ world with agent } : World ι).Served settings requests :=
  ⟨hagent.trans h.settings_eq, h.context⟩

variable [DecidableEq ι] {world : World ι}

theorem Served.put (h : world.Served settings requests) {i : ι} {context : Context}
    (hcontext : context.Serves settings (requests i)) :
    (world.put i context).Served settings requests := by
  refine ⟨h.settings_eq, fun j => ?_⟩
  rw [contexts_put]
  split
  · rename_i hsame
    rw [hsame]
    exact hcontext
  · exact h.context j

theorem Served.step (h : world.Served settings requests) (action : Action ι) :
    (world.step action).Served settings requests := by
  cases action with
  | setUser i id name =>
    rw [World.step]
    split
    · rename_i after changed hset
      obtain ⟨hrules, hchanged⟩ := Agent.setUser_eq_ok hset
      refine (h.agent hrules.settings).put ?_
      obtain rfl | ⟨-, user, hid, rfl⟩ := hchanged
      · exact h.context i
      · exact ⟨(h.context i).request,
          fun huser => Option.some.inj huser ▸ hid, (h.context i).caches⟩
    · exact h
  | setGroup i group =>
    rw [World.step]
    split
    · rename_i changed hset
      obtain rfl | ⟨-, group, rfl⟩ := Agent.setGroup_eq_ok hset
      · exact h.put (h.context i)
      · exact h.put ⟨(h.context i).request, (h.context i).user, (h.context i).caches⟩
    · exact h
  | decide i =>
    obtain ⟨hsettings, decision, hdecision⟩ := world.agent.decide_keeps (world.contexts i)
    rw [step_decide, hdecision]
    refine (h.agent hsettings).put ?_
    exact ⟨(h.context i).request, (h.context i).user, (h.context i).caches⟩
  | scan now i operation detector args defer =>
    cases i with
    | none => exact h.agent (Agent.sameRules_scan _ _ _ _ _ _ _).settings
    | some i =>
      obtain ⟨after, hafter, hkeeps⟩ :=
        world.agent.context_scan now (world.contexts i) operation detector args defer
      refine (h.agent (Agent.sameRules_scan _ _ _ _ _ _ _).settings).put ?_
      rw [hafter, Option.getD_some]
      rw [h.settings_eq] at hkeeps
      exact (h.context i).of_scanKeeps hkeeps
  | completed method route status => exact h.agent (Agent.sameRules_completed _ _ _ _).settings
  | connected hostname port => exact h.agent (Agent.sameRules_connected _ _ _).settings
  | install offered => exact h.agent (Agent.settings_install _ _)
  | advance => exact h.agent rfl
  | setDisabled disabled => exact h.agent rfl
  | takeStats => exact h.agent rfl

theorem Served.run (h : world.Served settings requests) (actions : List (Action ι)) :
    (world.run actions).Served settings requests := by
  induction actions generalizing world with
  | nil => exact h
  | cons action actions ih => exact ih (h.step action)

/-- Every world that a run reaches serves its requests with the settings of the agent. -/
theorem Reachable.served (h : world.Reachable settings requests) :
    world.Served settings requests := by
  obtain ⟨actions, rfl⟩ := h
  exact (served_start settings requests).run actions

end World

end RequestGuard
