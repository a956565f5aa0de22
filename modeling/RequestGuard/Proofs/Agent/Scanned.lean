import RequestGuard.Proofs.Agent.Search

/-!
# How scans end

A scan of a request is not made at all, or is turned off by the policy, or is settled by a deferred
attack of its kind, or searches the request. A search finds nothing, or an attack, and stores the
attack or reports it. `Agent.Scanned` and `Agent.Searched` list these ends with all that they change
in the agent and in the context, and every scan has one of them (`Agent.scanned_scan`): what scans
keep is read off the lists.
-/

namespace RequestGuard.Agent

variable {Args : Type}

/-- The strings that a search leaves in the cache are what the request holds, if those that it found
there are. -/
def Takes (agent : Agent) (context : Context) (inputs : List (Source × Input.Strings)) : Prop :=
  context.Caches agent.settings.protection.limits →
    ({ context with inputs } : Context).Caches agent.settings.protection.limits

/-- How a search through a request ends: it finds nothing, or an attack that is stored unless there
is a stored one already, or an attack that is reported. -/
inductive Searched (agent : Agent) (now : Nat) (context : Context) (operation : String)
    (kind : AttackKind) :
    Bool → Scan.Outcome → Prop where
  | nothing {defer : Bool} (failures : Nat) {inputs : List (Source × Input.Strings)}
    (examined : List String)
      (hinputs : agent.Takes context inputs) :
      Searched agent now context operation kind defer
        { examined, agent := agent.countFailures operation kind failures,
          context := some { context with inputs } }
  | stored (failures : Nat) {inputs : List (Source × Input.Strings)} (examined : List String)
      (hinputs : agent.Takes context inputs) {attack : Attack} (h : attack.kind = kind) :
      Searched agent now context operation kind true
        { examined, agent := agent.countFailures operation kind failures
          context := some { context with
            inputs, deferred :=
              some (context.deferred.getD { attack, error := attack.outcome? }) } }
  | reported (failures : Nat) {inputs : List (Source × Input.Strings)} (examined : List String)
      (hinputs : agent.Takes context inputs) {attack : Attack} (h : attack.kind = kind) :
      Searched agent now context operation kind false
        { error := attack.outcome?, examined
          agent :=
            (agent.countFailures operation kind failures).report now
              (some { context with inputs }) attack
          context := some { context with inputs } }

theorem exists_snd_searchSources (agent : Agent) (context : Context) (detector : Detector Args)
    (args : Args) :
    ∃ inputs, agent.Takes context inputs
      ∧ (Scan.searchSources agent.settings.protection.limits detector args Source.all context).2
        = { context with inputs } := by
  obtain ⟨inputs, hinputs⟩ :=
    Scan.exists_snd_searchSources agent.settings.protection.limits detector args Source.all context
  refine ⟨inputs, fun hcaches => ?_, hinputs⟩
  rw [← hinputs]
  exact Scan.caches_searchSources hcaches detector args Source.all

theorem searched_searchInput (agent : Agent) (now : Nat) (context : Context) (operation : String)
    (detector : Detector Args) (args : Args) (defer : Bool) :
    agent.Searched now context operation detector.kind defer
      (agent.searchInput now context operation detector args defer) := by
  obtain ⟨inputs, htakes, hinputs⟩ := agent.exists_snd_searchSources context detector args
  unfold searchInput
  dsimp only
  rw [hinputs]
  split
  · exact .nothing _ _ htakes
  · cases defer with
    | true => exact .stored _ _ htakes rfl
    | false => exact .reported _ _ htakes rfl

theorem scan_of_disabled {agent : Agent} (h : agent.disabled = true) (now : Nat)
    (context : Option Context) (operation : String) (detector : Detector Args) (args : Args)
    (defer : Bool) :
    agent.scan now context operation detector args defer = { agent, context } :=
  if_pos h

theorem scan_of_isProtectionOff {agent : Agent} {context : Context} (h : agent.disabled = false)
    (hoff : agent.policy.isProtectionOff context.request.method context.request.route = true)
    (now : Nat) (operation : String) (detector : Detector Args) (args : Args) (defer : Bool) :
    agent.scan now (some context) operation detector args defer
      = { agent := agent.countCall operation detector.kind true, context := some context } := by
  rw [scan, if_neg (by simp [h])]
  exact if_pos hoff

theorem scan_eq_settle {agent : Agent} {context : Context} {detector : Detector Args}
    (h : agent.disabled = false)
    (hon : agent.policy.isProtectionOff context.request.method context.request.route = false)
    {deferred : DeferredAttack} (hdeferred : context.deferred = some deferred)
    (hkind : deferred.attack.kind = detector.kind) (now : Nat) (operation : String) (args : Args)
    (defer : Bool) :
    agent.scan now (some context) operation detector args defer
      = (agent.countCall operation detector.kind true).settle now context deferred := by
  rw [scan, if_neg (by simp [h])]
  dsimp only
  rw [if_neg (by simp [hon]), hdeferred]
  exact if_pos hkind

theorem scan_eq_searchInput {agent : Agent} {context : Context} {detector : Detector Args}
    (henabled : agent.disabled = false)
    (hprotected : agent.policy.isProtectionOff context.request.method context.request.route = false)
    (hdeferred : ∀ deferred, context.deferred = some deferred →
      deferred.attack.kind ≠ detector.kind) (now : Nat) (operation : String) (args : Args)
    (defer : Bool) :
    agent.scan now (some context) operation detector args defer
      = (agent.countCall operation detector.kind true).searchInput now context operation
        detector args defer := by
  rw [scan, if_neg (by simp [henabled])]
  dsimp only
  rw [if_neg (by simp [hprotected])]
  cases hstored : context.deferred with
  | none => rfl
  | some deferred => exact if_neg (hdeferred deferred hstored)

/-- How a scan of a request ends: it is not made, or the policy turns it off, or the deferred attack
settles it, or the request is searched. -/
inductive Scanned (agent : Agent) (now : Nat) (context : Context) (operation : String)
    (kind : AttackKind) (defer : Bool) :
    Scan.Outcome → Prop where
  | disabled (h : agent.disabled = true) :
      Scanned agent now context operation kind defer { agent, context := some context }
  | off (h : agent.disabled = false)
    (hoff : agent.policy.isProtectionOff context.request.method context.request.route = true) :
      Scanned agent now context operation kind defer
        { agent := agent.countCall operation kind true, context := some context }
  | settled (h : agent.disabled = false)
      (hon : agent.policy.isProtectionOff context.request.method context.request.route = false)
        {deferred : DeferredAttack}
      (hdeferred : context.deferred = some deferred) (hkind : deferred.attack.kind = kind) :
      Scanned agent now context operation kind defer
        ((agent.countCall operation kind true).settle now context deferred)
  | searched (h : agent.disabled = false)
      (hon : agent.policy.isProtectionOff context.request.method context.request.route = false)
      (hkind : ∀ deferred, context.deferred = some deferred → deferred.attack.kind ≠ kind)
        {outcome : Scan.Outcome}
      (houtcome : (agent.countCall operation kind true).Searched now context operation
        kind defer outcome) :
      Scanned agent now context operation kind defer outcome

theorem scanned_scan (agent : Agent) (now : Nat) (context : Context) (operation : String)
    (detector : Detector Args) (args : Args) (defer : Bool) :
    agent.Scanned now context operation detector.kind defer
      (agent.scan now (some context) operation detector args defer) := by
  cases hdisabled : agent.disabled with
  | true =>
    rw [scan_of_disabled hdisabled]
    exact .disabled hdisabled
  | false =>
    cases hoff : agent.policy.isProtectionOff context.request.method context.request.route with
    | true =>
      rw [scan_of_isProtectionOff hdisabled hoff]
      exact .off hdisabled hoff
    | false =>
      by_cases hkind :
        ∃ deferred, context.deferred = some deferred ∧ deferred.attack.kind = detector.kind
      · obtain ⟨deferred, hdeferred, hsame⟩ := hkind
        rw [scan_eq_settle hdisabled hoff hdeferred hsame]
        exact .settled hdisabled hoff hdeferred hsame
      · have hother :
            ∀ deferred, context.deferred = some deferred → deferred.attack.kind ≠ detector.kind :=
          fun deferred hdeferred hsame => hkind ⟨deferred, hdeferred, hsame⟩
        rw [scan_eq_searchInput hdisabled hoff hother]
        exact .searched hdisabled hoff hother (searched_searchInput _ _ _ _ _ _ _)

end RequestGuard.Agent
