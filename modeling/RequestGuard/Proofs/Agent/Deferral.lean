import Mathlib.Data.List.Induction
import RequestGuard.Proofs.Agent.Frame

/-!
# Deferred attacks

An attack that a scan defers stays in its request for as long as the request is served. A scan meets
it if the agent looks at the request at all and looks for attacks of its kind (`World.Meets`): such
a scan answers what was stored and shows the detector nothing. The first one reports the attack: it
is counted, and its event is sent if the throttle has room for it. Later ones report nothing, and to
all other scans that report what they find, the attack does not exist
(`World.deferred_reported_once`).
-/

namespace RequestGuard

variable {Args : Type}

/-! ### Searches and the stored attack -/

theorem Context.input_deferred (context : Context) (deferred : Option DeferredAttack)
    (source : Source) (limits : Input.Limits) :
    ({ context with deferred } : Context).input source limits
      = ((context.input source limits).1, { (context.input source limits).2 with deferred }) := by
  unfold input
  dsimp only
  cases context.inputs.lookup source <;> rfl

theorem Scan.searchSources_deferred (limits : Input.Limits) (detector : Detector Args)
    (args : Args) (sources : List Source) (context : Context) (deferred : Option DeferredAttack) :
    searchSources limits detector args sources { context with deferred }
      = ((searchSources limits detector args sources context).1,
          { (searchSources limits detector args sources context).2 with deferred }) := by
  induction sources generalizing context with
  | nil => rfl
  | cons source rest ih =>
    rw [searchSources, searchSources, context.input_deferred]
    dsimp only
    split
    · rfl
    · rw [ih]

namespace Agent

theorem searchInput_deferred (agent : Agent) (now : Nat) (context : Context) (operation : String)
    (detector : Detector Args) (args : Args) (deferred : Option DeferredAttack) :
    agent.searchInput now { context with deferred } operation detector args false
      = { agent.searchInput now context operation detector args false with
          context :=
  (agent.searchInput now context operation detector args false).context.map fun after =>
            { after with deferred } } := by
  unfold searchInput
  rw [Scan.searchSources_deferred]
  dsimp only
  split <;> rfl

/-- A scan that reports what it finds pays no regard to a stored attack of another kind. -/
theorem scan_deferred (agent : Agent) (now : Nat) (context : Context) (operation : String)
    (detector : Detector Args) (args : Args)
    (h : ∀ deferred, context.deferred = some deferred → deferred.attack.kind ≠ detector.kind) :
    let bare :=
      agent.scan now (some { context with deferred := none }) operation detector args false
    agent.scan now (some context) operation detector args false
      = { bare with
          context := bare.context.map fun after =>
            { after with deferred := context.deferred } } := by
  intro bare
  -- The policy and the detector see the request alone, so the scan ends alike with the stored
  -- attack and without it.
  let blank : Context := { context with deferred := none }
  cases hdisabled : agent.disabled with
  | true =>
    have hbare : bare = { agent, context := some blank } := scan_of_disabled hdisabled _ _ _ _ _ _
    rw [scan_of_disabled hdisabled, hbare]
    rfl
  | false =>
    cases hoff : agent.policy.isProtectionOff context.request.method context.request.route with
    | true =>
      have hblank :
          agent.policy.isProtectionOff blank.request.method blank.request.route = true := hoff
      have hbare :
          bare = { agent := agent.countCall operation detector.kind true, context := some blank } :=
        scan_of_isProtectionOff hdisabled hblank now operation detector args false
      rw [scan_of_isProtectionOff hdisabled hoff, hbare]
      rfl
    | false =>
      have hblank :
          agent.policy.isProtectionOff blank.request.method blank.request.route = false := hoff
      have hnone :
          ∀ deferred, blank.deferred = some deferred → deferred.attack.kind ≠ detector.kind := by
        intro deferred hdeferred
        cases hdeferred
      have hbare :
          bare = (agent.countCall operation detector.kind true).searchInput now blank operation
            detector args false :=
        scan_eq_searchInput hdisabled hblank hnone now operation args false
      rw [scan_eq_searchInput hdisabled hoff h, hbare]
      exact (agent.countCall operation detector.kind true).searchInput_deferred now blank
        operation detector args
        context.deferred

variable {agent : Agent} {now : Nat} {context after : Context} {operation : String}
  {kind : AttackKind} {defer : Bool}
  {outcome : Scan.Outcome} {stored : DeferredAttack}

theorem Searched.deferred_of_some (h : agent.Searched now context operation kind defer outcome)
    (hafter : outcome.context = some after) (hstored : context.deferred = some stored) :
    after.deferred = some stored := by
  cases h with
  | nothing _ _ _ =>
    obtain rfl := Option.some.inj hafter
    exact hstored
  | stored _ _ _ _ =>
    obtain rfl := Option.some.inj hafter
    rw [hstored]
    rfl
  | reported _ _ _ _ =>
    obtain rfl := Option.some.inj hafter
    exact hstored

theorem Searched.deferred_of_none (h : agent.Searched now context operation kind defer outcome)
    (hafter : outcome.context = some after) (hnone : context.deferred = none)
    (hstored : after.deferred = some stored) :
    stored.error = stored.attack.outcome? ∧ stored.reported = false
      ∧ agent.SameReports outcome.agent := by
  cases h with
  | nothing _ _ _ =>
    obtain rfl := Option.some.inj hafter
    exact nomatch hnone.symm.trans hstored
  | stored failures _ _ _ =>
    obtain rfl := Option.some.inj hafter
    rw [hnone] at hstored
    obtain rfl := Option.some.inj hstored
    exact ⟨rfl, rfl, agent.sameReports_countFailures operation kind failures⟩
  | reported _ _ _ _ =>
    obtain rfl := Option.some.inj hafter
    exact nomatch hnone.symm.trans hstored

theorem Scanned.deferred_of_some (h : agent.Scanned now context operation kind defer outcome)
    (hafter : outcome.context = some after) (hstored : context.deferred = some stored)
    (hother : agent.disabled = false →
      agent.policy.isProtectionOff context.request.method context.request.route = false →
        stored.attack.kind ≠ kind) :
    after.deferred = some stored := by
  cases h with
  | disabled _ =>
    obtain rfl := Option.some.inj hafter
    exact hstored
  | off _ _ =>
    obtain rfl := Option.some.inj hafter
    exact hstored
  -- Only such a scan marks the attack as reported.
  | settled henabled hon hdeferred hkind =>
    obtain rfl := Option.some.inj (hstored.symm.trans hdeferred)
    exact absurd hkind (hother henabled hon)
  | searched _ _ _ hsearched => exact hsearched.deferred_of_some hafter hstored

theorem Scanned.deferred_of_none (h : agent.Scanned now context operation kind defer outcome)
    (hafter : outcome.context = some after) (hnone : context.deferred = none)
    (hstored : after.deferred = some stored) :
    stored.error = stored.attack.outcome? ∧ stored.reported = false
      ∧ agent.SameReports outcome.agent := by
  cases h with
  | disabled _ =>
    obtain rfl := Option.some.inj hafter
    exact nomatch hnone.symm.trans hstored
  | off _ _ =>
    obtain rfl := Option.some.inj hafter
    exact nomatch hnone.symm.trans hstored
  | settled _ _ hdeferred _ => exact nomatch hnone.symm.trans hdeferred
  | searched _ _ _ hsearched =>
    obtain ⟨herror, hreported, hsame⟩ := hsearched.deferred_of_none hafter hnone hstored
    exact ⟨herror, hreported, (agent.sameReports_countCall operation kind true).trans hsame⟩

theorem Scanned.sameReports (h : agent.Scanned now context operation kind true outcome)
    (hkind : ∀ deferred, context.deferred = some deferred → deferred.attack.kind ≠ kind) :
    outcome.error = none ∧ agent.SameReports outcome.agent := by
  have hcounted := agent.sameReports_countCall operation kind true
  cases h with
  | disabled _ => exact ⟨rfl, SameReports.refl agent⟩
  | off _ _ => exact ⟨rfl, hcounted⟩
  | settled _ _ hdeferred hsame => exact absurd hsame (hkind _ hdeferred)
  | searched _ _ _ hsearched =>
    obtain ⟨herror, hsame⟩ := hsearched.sameReports
    exact ⟨herror, hcounted.trans hsame⟩

end Agent

/-! ### The stored attack in a run -/

namespace World

variable {ι : Type}

/-- A call is a scan of a request that looks for attacks of a kind, and the agent makes it. -/
def Meets (i : ι) (kind : AttackKind) (world : World ι) : Action ι → Prop
  | .scan _ j _ detector _ _ =>
    j = some i ∧ detector.kind = kind ∧ world.agent.disabled = false
      ∧ world.agent.policy.isProtectionOff (world.contexts i).request.method
        (world.contexts i).request.route = false
  | _ => False

variable [DecidableEq ι] {world : World ι} {i : ι} {action : Action ι} {stored : DeferredAttack}

omit [DecidableEq ι] in
theorem Touched.deferred {after : Context} (h : world.Touched i action after)
    (hscan : action.scanned? ≠ some i) :
    after.deferred = (world.contexts i).deferred := by
  cases h with
  | scan _ _ _ _ _ _ => exact absurd rfl hscan
  | _ => rfl

theorem deferred_step_of_meets (h : (world.contexts i).deferred = some stored)
    (hmeets : Meets i stored.attack.kind world action) :
    ((world.step action).contexts i).deferred = some { stored with reported := true } := by
  cases action with
  | scan now j operation detector args defer =>
    obtain ⟨rfl, hkind, henabled, hon⟩ := hmeets
    have hcontext := world.contexts_step_scan i now operation detector args defer
    rw [Agent.scan_eq_settle henabled hon h hkind.symm] at hcontext
    rw [Option.some.inj hcontext]
  | _ => cases hmeets

theorem deferred_step_of_not_meets (h : (world.contexts i).deferred = some stored)
    (hmeets : ¬ Meets i stored.attack.kind world action) :
    ((world.step action).contexts i).deferred = some stored := by
  by_cases hscan : action.scanned? = some i
  · obtain ⟨_, now, operation, detector, args, defer, rfl⟩ := Action.exists_scan hscan
    have hcontext := world.contexts_step_scan i now operation detector args defer
    have hscanned := world.agent.scanned_scan now (world.contexts i) operation detector args defer
    refine hscanned.deferred_of_some hcontext.symm h fun henabled hon hkind => ?_
    exact hmeets ⟨rfl, hkind.symm, henabled, hon⟩
  · rw [(world.touched_step i action).deferred hscan, h]

theorem stored_step (h : (world.contexts i).deferred = none)
    (hstored : ((world.step action).contexts i).deferred = some stored) :
    stored.error = stored.attack.outcome? ∧ stored.reported = false
      ∧ world.agent.SameReports (world.step action).agent := by
  by_cases hscan : action.scanned? = some i
  · obtain ⟨_, now, operation, detector, args, defer, rfl⟩ := Action.exists_scan hscan
    have hcontext := world.contexts_step_scan i now operation detector args defer
    have hscanned := world.agent.scanned_scan now (world.contexts i) operation detector args defer
    exact hscanned.deferred_of_none hcontext.symm h hstored
  · rw [(world.touched_step i action).deferred hscan, h] at hstored
    cases hstored

theorem deferred_run (h : (world.contexts i).deferred = some stored)
    (hreported : stored.reported = false) (actions : List (Action ι)) :
    ∃ reported, ((world.run actions).contexts i).deferred = some { stored with reported }
      ∧ (reported = true ↔ world.Sometime (Meets i stored.attack.kind) actions) := by
  -- By the last call: what it does depends on the policy and the switch that the calls before it
  -- have left.
  induction actions using List.reverseRecOn with
  | nil =>
    refine ⟨false, ?_, nofun, fun hmet => absurd hmet (not_sometime_nil _)⟩
    rw [← hreported]
    exact h
  | append_singleton actions action ih =>
    obtain ⟨reported, hdeferred, hmet⟩ := ih
    rw [run_concat]
    by_cases hmeets : Meets i stored.attack.kind (world.run actions) action
    · have hstep := deferred_step_of_meets hdeferred hmeets
      exact ⟨true, hstep, fun _ => sometime_concat_iff.2 (.inr hmeets), fun _ => rfl⟩
    · have hstep := deferred_step_of_not_meets hdeferred hmeets
      refine ⟨reported, hstep, ?_⟩
      rw [hmet, sometime_concat_iff, or_iff_left hmeets]

/-- What becomes of a stored attack: it is kept, the first scan that meets it reports it, and all
scans that meet it answer it. No other call reports it. -/
structure Replays (i : ι) (stored : DeferredAttack) (met : Prop) (world : World ι) : Prop where
  kept :
    ∃ reported, (world.contexts i).deferred = some { stored with reported }
      ∧ (reported = true ↔ met)
  settled {Args : Type} (now : Nat) (operation : String) (detector : Detector Args)
    (args : Args) (defer : Bool)
    (h : Meets i stored.attack.kind world (.scan now (some i) operation detector args defer)) :
    let outcome := world.agent.scan now (some (world.contexts i)) operation detector args defer
    outcome.error = stored.error ∧ outcome.examined = []
      ∧ outcome.context
        = some { world.contexts i with deferred := some { stored with reported := true } }
      ∧ (¬ met → world.agent.Reports now outcome.context stored.attack outcome.agent)
      ∧ (met → world.agent.SameReports outcome.agent)
  skipped {Args : Type} (now : Nat) (operation : String) (detector : Detector Args)
    (args : Args) (defer : Bool)
    (h : world.agent.disabled = true
      ∨ world.agent.policy.isProtectionOff (world.contexts i).request.method
        (world.contexts i).request.route = true) :
    let outcome := world.agent.scan now (some (world.contexts i)) operation detector args defer
    outcome.error = none ∧ outcome.examined = [] ∧ world.agent.SameReports outcome.agent
  other {Args : Type} (now : Nat) (operation : String) (detector : Detector Args) (args : Args)
    (h : stored.attack.kind ≠ detector.kind) :
    let bare :=
      world.agent.scan now (some { world.contexts i with deferred := none }) operation
        detector args false
    world.agent.scan now (some (world.contexts i)) operation detector args false
      = { bare with
          context := bare.context.map fun after =>
            { after with deferred := (world.contexts i).deferred } }
  deferring {Args : Type} (now : Nat) (operation : String) (detector : Detector Args) (args : Args)
    (h : stored.attack.kind ≠ detector.kind) :
    let outcome := world.agent.scan now (some (world.contexts i)) operation detector args true
    outcome.error = none ∧ world.agent.SameReports outcome.agent
  install (offered : Policy.Snapshot) :
    world.agent.SameReports (world.step (.install offered)).agent
  setDisabled (disabled : Bool) : world.agent.SameReports (world.step (.setDisabled disabled)).agent

theorem Replays.of_kept {met : Prop} {reported : Bool}
    (h : (world.contexts i).deferred = some { stored with reported })
    (hmet : reported = true ↔ met) : world.Replays i stored met where
  kept := ⟨reported, h, hmet⟩
  settled now operation detector args defer hmeets := by
    obtain ⟨-, hkind, henabled, hon⟩ := hmeets
    intro outcome
    have hsame := world.agent.sameReports_countCall operation detector.kind true
    have houtcome : outcome = (world.agent.countCall operation detector.kind true).settle now
        (world.contexts i) { stored with reported } :=
      Agent.scan_eq_settle henabled hon h hkind.symm now operation args defer
    rw [houtcome]
    refine ⟨rfl, rfl, rfl, fun hunmet => ?_, fun hbefore => ?_⟩
    · have hreported : ¬ reported = true := fun hreported => hunmet (hmet.1 hreported)
      rw [Agent.settle, if_neg hreported]
      exact hsame.reports rfl (Agent.reports_report ..)
    · rw [Agent.settle, if_pos (hmet.2 hbefore)]
      exact hsame
  skipped now operation detector args defer hskipped := by
    intro outcome
    cases hdisabled : world.agent.disabled with
    | true =>
      have houtcome : outcome = { agent := world.agent, context := some (world.contexts i) } :=
        Agent.scan_of_disabled hdisabled now _ operation detector args defer
      rw [houtcome]
      exact ⟨rfl, rfl, Agent.SameReports.refl _⟩
    | false =>
      have hoff := hskipped.resolve_left (ne_true_of_eq_false hdisabled)
      have houtcome : outcome
          = { agent := world.agent.countCall operation detector.kind true,
              context := some (world.contexts i) } :=
        Agent.scan_of_isProtectionOff hdisabled hoff now operation detector args defer
      rw [houtcome]
      exact ⟨rfl, rfl, world.agent.sameReports_countCall operation detector.kind true⟩
  other now operation detector args hkind := by
    refine world.agent.scan_deferred now (world.contexts i) operation detector args ?_
    intro deferred hdeferred
    obtain rfl := Option.some.inj (h.symm.trans hdeferred)
    exact hkind
  deferring now operation detector args hkind := by
    have hscanned := world.agent.scanned_scan now (world.contexts i) operation detector args true
    refine hscanned.sameReports ?_
    intro deferred hdeferred
    obtain rfl := Option.some.inj (h.symm.trans hdeferred)
    exact hkind
  install offered := world.agent.sameReports_install offered
  setDisabled disabled := world.agent.sameReports_setDisabled disabled

/-- An attack that a scan has deferred is the only one that its request ever stores, and it fails
the operation exactly if it is blocked. It is reported once, by the first scan that meets it. -/
theorem deferred_reported_once (hnone : (world.contexts i).deferred = none)
    (hstored : ((world.step action).contexts i).deferred = some stored) :
    stored.error = stored.attack.outcome?
      ∧ (stored.error.isSome = true ↔ stored.attack.blocked = true)
      ∧ world.agent.SameReports (world.step action).agent
      ∧ ∀ later, ((world.step action).run later).Replays i stored
          ((world.step action).Sometime (Meets i stored.attack.kind) later) := by
  obtain ⟨herror, hreported, hsame⟩ := stored_step hnone hstored
  refine ⟨herror, ?_, hsame, fun later => ?_⟩
  · rw [herror, Attack.outcome?]
    cases stored.attack.blocked <;> simp
  · obtain ⟨reported, hdeferred, hmet⟩ := deferred_run hstored hreported later
    exact .of_kept hdeferred hmet

/-- The attack is deferred while attacks are blocked. Then a policy that does not block comes into
force, and the operation is scanned three times. -/
theorem deferred_reported_once_new_policy :
    let requests : Unit → Request.Parts := fun _ => { method := "GET", url := "/?q=1%3Bls" }
    let detector : Detector Unit :=
      { kind := .shellInjection, judge := fun s _ => .ok (if s = "1;ls" then some {} else none) }
    let world : World Unit := (start {} requests).run [.install { version := 1, block := true }]
    let defers : Action Unit := .scan 0 (some ()) "exec" detector () true
    let scans (now : Nat) : Action Unit := .scan now (some ()) "exec" detector () false
    let first := (world.step defers).run [.install { version := 2 }]
    let second := (world.step defers).run [.install { version := 2 }, scans 1]
    let attack : Attack :=
      { kind := .shellInjection, operation := "exec", source := .query, path := ".q",
        payload := "1;ls", metadata := [], blocked := true }
    let settled : Context :=
      { first.contexts () with
        deferred := some { attack, error := some attack.toError, reported := true } }
    (world.contexts ()).deferred = none
      ∧ ((world.step defers).contexts ()).deferred = some { attack, error := some attack.toError }
      ∧ world.agent.SameReports (world.step defers).agent
      ∧ (first.agent.scan 1 (some (first.contexts ())) "exec" detector () false).error
        = some attack.toError
      ∧ first.agent.Reports 1 (some settled) attack (first.step (scans 1)).agent
      ∧ (first.step (scans 1)).agent.stats.current.requests.attacks = { total := 1, blocked := 1 }
      ∧ (first.step (scans 1)).agent.channel.queue
        = [.ofAttack first.agent.info attack (some settled)]
      ∧ (second.agent.scan 2 (some (second.contexts ())) "exec" detector () false).error
        = some attack.toError
      ∧ second.agent.SameReports (second.step (scans 2)).agent := by
  intro requests detector world defers scans first second attack settled
  have hstored : ((world.step defers).contexts ()).deferred
      = some { attack, error := some attack.toError } := by
    decide +kernel
  have hnone : (world.contexts ()).deferred = none := rfl
  obtain ⟨-, -, hsame, hreplays⟩ := deferred_reported_once hnone hstored
  have hfirst : Meets () .shellInjection first (scans 1) :=
    ⟨rfl, rfl, by decide +kernel, by decide +kernel⟩
  have hsecond : Meets () .shellInjection second (scans 2) :=
    ⟨rfl, rfl, by decide +kernel, by decide +kernel⟩
  have hunmet : ¬ (world.step defers).Sometime (Meets () .shellInjection)
      ([] ++ [.install { version := 2 }]) := by
    rw [sometime_concat_iff]
    exact not_or.2 ⟨not_sometime_nil _, id⟩
  have hmet : (world.step defers).Sometime (Meets () .shellInjection)
      ([.install { version := 2 }] ++ [scans 1]) :=
    sometime_concat_iff.2 (.inr hfirst)
  obtain ⟨herror, -, hcontext, hreports, -⟩ :=
    (hreplays [.install { version := 2 }]).settled 1 "exec" detector () false hfirst
  obtain ⟨herror', -, -, -, hsilent⟩ :=
    (hreplays [.install { version := 2 }, scans 1]).settled 2 "exec" detector () false hsecond
  have hreport : first.agent.Reports 1 (some settled) attack (first.step (scans 1)).agent := by
    have hreport := hreports hunmet
    rw [hcontext] at hreport
    exact hreport
  exact ⟨hnone, hstored, hsame, herror, hreport, by decide +kernel, by decide +kernel, herror',
    hsilent hmet⟩

end World

end RequestGuard
