import RequestGuard.Proofs.Agent.Deferral
import RequestGuard.Proofs.Agent.Entries
import RequestGuard.Proofs.Stats.AttackTally

/-!
# The attacks that calls report

A scan reports the attack that it finds, unless it defers it, and the attack that an earlier scan
has deferred, unless that one was reported before. `World.reported?` says which attack a call
reports, if any, from what is there before the call: what the request holds, what the detector makes
of it, the policy, and the stored attack.

The entries, the channel and the answer of a call tell of the reported attack and of no other
(`World.countP_entries`, `World.channel_step`, `World.answer?_of_reported?`). The answer is that of
the attack because an attack is stored with its own outcome, which `World.Coherent` adds to the
invariant of all runs.
-/

namespace RequestGuard

open Cloud (Event)
open Stats (AttackTally)

variable {Args : Type}

/-! ### What a scan comes to -/

def Context.stored? (context : Context) (kind : AttackKind) : Option DeferredAttack :=
  context.deferred.filter fun deferred => deferred.attack.kind = kind

namespace Agent

def looksAt (agent : Agent) (request : Request) : Bool :=
  !agent.disabled && !agent.policy.isProtectionOff request.method request.route

/-- The attack that a request is: its first string that the detector finds dangerous. -/
def detects? (agent : Agent) (request : Request) (operation : String) (detector : Detector Args)
    (args : Args) : Option Attack :=
  ((Scan.inputsOf agent.settings.protection.limits request Source.all).findSome?
      (Scan.hitOf? detector args)).map fun hit =>
    hit.toAttack detector.kind operation agent.isBlocking

/-- The attack that a scan finds. It does not search for an attack of a kind of which there is a
stored one. -/
def finds? (agent : Agent) (context : Context) (operation : String) (detector : Detector Args)
    (args : Args) : Option Attack :=
  if agent.looksAt context.request && (context.stored? detector.kind).isNone then
    agent.detects? context.request operation detector args
  else none

/-- The stored attack that a scan is the first to settle. -/
def replays? (agent : Agent) (context : Context) (kind : AttackKind) : Option Attack :=
  if agent.looksAt context.request then
    ((context.stored? kind).filter fun deferred => !deferred.reported).map DeferredAttack.attack
  else none

def reports? (agent : Agent) (context : Context) (operation : String) (detector : Detector Args)
    (args : Args) (defer : Bool) : Option Attack :=
  (if defer then none else agent.finds? context operation detector args)
    <|> agent.replays? context detector.kind

/-- The event of an attack, unless there were too many. -/
def posts? (agent : Agent) (now : Nat) (context : Context) (attack : Attack) : Option Event :=
  if (agent.throttle.record now).1 then
    some (.detectedAttack { dryMode := agent.settings.protection.block != some true }
      { attack := { attack with payload := String.ofList (attack.payload.toList.take 4096) },
        user := context.user }
      (some (.ofRequest context.request)))
  else none

variable {agent : Agent} {context : Context} {detector : Detector Args}

theorem looksAt_iff {request : Request} :
    agent.looksAt request = true
      ↔ agent.disabled = false
        ∧ agent.policy.isProtectionOff request.method request.route = false := by
  simp [looksAt]

theorem finds?_of_unstored (h : agent.looksAt context.request = true)
    (hnone : context.stored? detector.kind = none) (operation : String) (args : Args) :
    agent.finds? context operation detector args
      = agent.detects? context.request operation detector args := by
  rw [finds?, h, hnone]
  rfl

theorem reports?_of_not_looksAt (h : agent.looksAt context.request = false) (operation : String)
    (args : Args) (defer : Bool) : agent.reports? context operation detector args defer = none := by
  rw [reports?, finds?, replays?, h]
  cases defer <;> rfl

theorem reports?_of_stored (h : agent.looksAt context.request = true) {deferred : DeferredAttack}
    (hstored : context.stored? detector.kind = some deferred) (operation : String) (args : Args)
    (defer : Bool) :
    agent.reports? context operation detector args defer
      = if deferred.reported then none else some deferred.attack := by
  rw [reports?, finds?, replays?, h, hstored, Option.filter_some]
  cases defer <;> cases deferred.reported <;> rfl

theorem reports?_of_unstored (h : agent.looksAt context.request = true)
    (hnone : context.stored? detector.kind = none) (operation : String) (args : Args)
    (defer : Bool) :
    agent.reports? context operation detector args defer
      = if defer then none else agent.detects? context.request operation detector args := by
  rw [reports?, finds?_of_unstored h hnone, replays?, hnone, Option.filter_none,
    Option.map_none, ite_self]
  rw [Option.orElse_eq_orElse, Option.orElse_eq_or, Option.or_none]

theorem Scanned.of_not_looksAt {now : Nat} {operation : String} {kind : AttackKind} {defer : Bool}
    {outcome : Scan.Outcome} (h : agent.Scanned now context operation kind defer outcome)
    (hlooks : agent.looksAt context.request = false) :
    outcome.context = some context ∧ agent.SameReports outcome.agent := by
  have hunseen : ¬ (agent.disabled = false
      ∧ agent.policy.isProtectionOff context.request.method context.request.route = false) := by
    rw [← looksAt_iff, hlooks]
    exact Bool.false_ne_true
  cases h with
  | disabled _ => exact ⟨rfl, SameReports.refl agent⟩
  | off _ _ => exact ⟨rfl, agent.sameReports_countCall operation kind true⟩
  | settled henabled hon _ _ => exact absurd ⟨henabled, hon⟩ hunseen
  | searched henabled hon _ _ => exact absurd ⟨henabled, hon⟩ hunseen

theorem scan_of_stored (h : agent.looksAt context.request = true) {deferred : DeferredAttack}
    (hstored : context.stored? detector.kind = some deferred) (now : Nat) (operation : String)
    (args : Args) (defer : Bool) :
    agent.scan now (some context) operation detector args defer
      = (agent.countCall operation detector.kind true).settle now context deferred := by
  obtain ⟨henabled, hon⟩ := looksAt_iff.1 h
  obtain ⟨hdeferred, hkind⟩ := Option.filter_eq_some_iff.1 hstored
  exact scan_eq_settle henabled hon hdeferred (of_decide_eq_true hkind) now operation args defer

theorem map_hit_searchSources (hcaches : context.Caches agent.settings.protection.limits)
    (operation : String) (args : Args) :
    (Scan.searchSources agent.settings.protection.limits detector args Source.all context).1.hit.map
        (fun hit => hit.toAttack detector.kind operation agent.isBlocking)
      = agent.detects? context.request operation detector args := by
  rw [Scan.fst_searchSources hcaches, Scan.hit_search, detects?]

/-- A search ends with the attack that the request is. -/
theorem searchInput_eq (hcaches : context.Caches agent.settings.protection.limits) (now : Nat)
    (operation : String) (args : Args) (defer : Bool) :
    ∃ failures inputs examined, agent.searchInput now context operation detector args defer
      = (agent.detects? context.request operation detector args).elim
          { examined, agent := agent.countFailures operation detector.kind failures,
            context := some { context with inputs } }
          fun attack =>
            { (agent.countFailures operation detector.kind failures).found now
                { context with inputs } attack defer with
              examined } := by
  let search :=
    (Scan.searchSources agent.settings.protection.limits detector args Source.all context).1
  obtain ⟨inputs, -, hinputs⟩ := agent.exists_snd_searchSources context detector args
  refine ⟨search.failures, inputs, search.examined, ?_⟩
  rw [← map_hit_searchSources hcaches, Option.elim_map, searchInput]
  dsimp only
  rw [hinputs]
  cases (Scan.searchSources agent.settings.protection.limits detector args Source.all context).1.hit
    <;> rfl

theorem scan_of_unstored (h : agent.looksAt context.request = true)
    (hnone : context.stored? detector.kind = none)
    (hcaches : context.Caches agent.settings.protection.limits) (now : Nat) (operation : String)
    (args : Args) (defer : Bool) :
    let counted := agent.countCall operation detector.kind true
    ∃ failures inputs examined, agent.scan now (some context) operation detector args defer
      = (agent.detects? context.request operation detector args).elim
          { examined, agent := counted.countFailures operation detector.kind failures,
            context := some { context with inputs } }
          fun attack =>
            { (counted.countFailures operation detector.kind failures).found now
                { context with inputs } attack defer with
              examined } := by
  intro counted
  obtain ⟨henabled, hon⟩ := looksAt_iff.1 h
  rw [Context.stored?, Option.filter_eq_none_iff] at hnone
  have hother (deferred : DeferredAttack) (hdeferred : context.deferred = some deferred) :
      deferred.attack.kind ≠ detector.kind :=
    fun hkind => hnone deferred hdeferred (decide_eq_true hkind)
  rw [scan_eq_searchInput henabled hon hother]
  have hcounted : context.Caches counted.settings.protection.limits := hcaches
  exact searchInput_eq hcounted now operation args defer

/-! ### What a scan tells of the reported attack -/

theorem channel_report_eq (agent : Agent) (now : Nat) (context : Context) (attack : Attack) :
    (agent.report now (some context) attack).channel
      = (agent.posts? now context attack).elim agent.channel agent.channel.send := by
  rw [channel_report, posts?]
  cases (agent.throttle.record now).1 <;> rfl

theorem channel_scan (hcaches : context.Caches agent.settings.protection.limits) (now : Nat)
    (operation : String) (args : Args) (defer : Bool) :
    (agent.scan now (some context) operation detector args defer).agent.channel
      = ((agent.reports? context operation detector args defer).bind
        (agent.posts? now context)).elim agent.channel
          agent.channel.send := by
  -- Whether the scan looks, and whether there is a stored attack of its kind, decide how it ends.
  cases hlooks : agent.looksAt context.request with
  | false =>
    have hsame :=
      ((agent.scanned_scan now context operation detector args defer).of_not_looksAt hlooks).2
    rw [reports?_of_not_looksAt hlooks, hsame.channel]
    rfl
  | true =>
    cases hstored : context.stored? detector.kind with
    | some deferred =>
      rw [scan_of_stored hlooks hstored, reports?_of_stored hlooks hstored, settle]
      dsimp only
      cases deferred.reported with
      | true => rfl
      | false => exact channel_report_eq ..
    | none =>
      obtain ⟨failures, inputs, examined, hscan⟩ :=
        scan_of_unstored hlooks hstored hcaches now operation args defer
      rw [hscan, reports?_of_unstored hlooks hstored]
      cases agent.detects? context.request operation detector args with
      | none => cases defer <;> rfl
      | some attack =>
        cases defer with
        | true => rfl
        | false => exact channel_report_eq ..

theorem error_scan (hcaches : context.Caches agent.settings.protection.limits)
    (herrors : ∀ deferred, context.deferred = some deferred →
      deferred.error = deferred.attack.outcome?) (now : Nat) {operation : String} {args : Args}
    {defer : Bool} {attack : Attack}
    (hreports : agent.reports? context operation detector args defer = some attack) :
    (agent.scan now (some context) operation detector args defer).error = attack.outcome? := by
  cases hlooks : agent.looksAt context.request with
  | false =>
    rw [reports?_of_not_looksAt hlooks] at hreports
    cases hreports
  | true =>
    cases hstored : context.stored? detector.kind with
    | some deferred =>
      rw [reports?_of_stored hlooks hstored, Option.ite_none_left_eq_some] at hreports
      obtain rfl := Option.some.inj hreports.2
      rw [scan_of_stored hlooks hstored]
      exact herrors deferred (Option.filter_eq_some_iff.1 hstored).1
    | none =>
      obtain ⟨failures, inputs, examined, hscan⟩ :=
        scan_of_unstored hlooks hstored hcaches now operation args defer
      rw [reports?_of_unstored hlooks hstored, Option.ite_none_left_eq_some] at hreports
      obtain ⟨hnow, hdetects⟩ := hreports
      rw [hscan, hdetects, Bool.eq_false_iff.2 hnow]
      rfl

theorem countP_searchEntries (hcaches : context.Caches agent.settings.protection.limits)
    (operation : String) (args : Args) (defer : Bool) (tally : AttackTally) :
    (agent.searchEntries context operation detector args defer).countP tally.countsEntry
      = (if defer then none
          else agent.detects? context.request operation detector args).toList.countP
            tally.counts := by
  have hfailures (count : Nat) :
      (List.replicate count (.detectorError operation detector.kind)).countP tally.countsEntry
        = 0 := by
    rw [List.countP_replicate]
    rfl
  rw [searchEntries, List.countP_append, hfailures, Nat.zero_add, ← map_hit_searchSources hcaches]
  let search := Scan.searchSources agent.settings.protection.limits detector args Source.all context
  cases search.1.hit with
  | none => cases defer <;> rfl
  | some hit => cases defer <;> rfl

theorem countP_scanEntries (hcaches : context.Caches agent.settings.protection.limits)
    (operation : String) (args : Args) (defer : Bool) (tally : AttackTally) :
    (agent.scanEntries (some context) operation detector args defer).countP tally.countsEntry
      = (agent.reports? context operation detector args defer).toList.countP tally.counts := by
  cases hlooks : agent.looksAt context.request with
  | false =>
    rw [reports?_of_not_looksAt hlooks, scanEntries]
    rw [looksAt] at hlooks
    cases hdisabled : agent.disabled with
    | true => rfl
    | false =>
      rw [hdisabled, Bool.not_false, Bool.true_and, Bool.not_eq_false'] at hlooks
      simp only [hlooks, Bool.false_eq_true, if_false, if_true]
      rfl
  | true =>
    obtain ⟨henabled, hon⟩ := looksAt_iff.1 hlooks
    rw [scanEntries, henabled]
    simp only [hon, Bool.false_eq_true, if_false]
    rw [List.countP_cons_of_neg Bool.false_ne_true]
    cases hstored : context.stored? detector.kind with
    | some deferred =>
      rw [Context.stored?] at hstored
      simp only [hstored]
      rw [reports?_of_stored hlooks hstored]
      cases deferred.reported <;> rfl
    | none =>
      rw [reports?_of_unstored hlooks hstored, ← countP_searchEntries hcaches]
      rw [Context.stored?] at hstored
      simp only [hstored]

theorem channel_setUser {agent after : Agent} {context changed : Context} {id name : String}
    (h : agent.setUser context id name = .ok (after, changed)) : after.channel = agent.channel := by
  unfold setUser at h
  cases huser : User.ofTexts id name with
  | error reason =>
    rw [huser] at h
    cases h
  | ok user =>
    rw [huser] at h
    simp only [Except.map, Except.ok.injEq] at h
    split at h
    · obtain ⟨rfl, -⟩ := Prod.mk.inj h
      rfl
    · obtain ⟨rfl, -⟩ := Prod.mk.inj h
      split <;> rfl

theorem channel_countDecision (agent : Agent) (decision : Option Refusal) :
    (agent.countDecision decision).channel = agent.channel := by
  unfold countDecision
  cases decision <;> simp

theorem channel_decide (agent : Agent) (context : Context) :
    (agent.decide context).2.1.channel = agent.channel := by
  by_cases hsettled : agent.disabled = true ∨ context.isDecided = true
  · rw [snd_decide_of_settled hsettled]
  · obtain ⟨hdisabled, hdecided⟩ := not_or.1 hsettled
    have hundecided := Context.decision_eq_none (Bool.eq_false_iff.2 hdecided)
    rw [decide_of_undecided (Bool.eq_false_iff.2 hdisabled) hundecided]
    exact channel_countDecision _ _

theorem channel_completed (agent : Agent) (method route : String) (status : Nat) :
    (agent.completed method route status).channel = agent.channel := by
  unfold completed
  split <;> rfl

theorem channel_connected (agent : Agent) (hostname : String) (port : Nat) :
    (agent.connected hostname port).channel = agent.channel := by
  unfold connected
  split <;> rfl

end Agent

/-! ### Calls -/

namespace World

variable {ι : Type}

/-- The attack that a call finds, whether or not it reports it. -/
def found? (world : World ι) : Action ι → Option Attack
  | .scan _ (some i) operation detector args _ =>
    world.agent.finds? (world.contexts i) operation detector args
  | _ => none

/-- The attack that a call finds and does not defer. -/
def detected? (world : World ι) : Action ι → Option Attack
  | .scan _ (some i) operation detector args false =>
    world.agent.finds? (world.contexts i) operation detector args
  | _ => none

/-- The deferred attack that a call is the first to settle. -/
def replayed? (world : World ι) : Action ι → Option Attack
  | .scan _ (some i) _ detector _ _ => world.agent.replays? (world.contexts i) detector.kind
  | _ => none

def reported? (world : World ι) (action : Action ι) :
    Option Attack := world.detected? action <|> world.replayed? action

/-- The event that a call queues: that of the reported attack, unless the throttle refuses it. -/
def posted? (world : World ι) : Action ι → Option Event
  | .scan now (some i) operation detector args defer =>
    (world.reported? (.scan now (some i) operation detector args defer)).bind
      (world.agent.posts? now (world.contexts i))
  | _ => none

def answer? (world : World ι) : Action ι → Option AttackBlocked
  | .scan now i operation detector args defer =>
    (world.agent.scan now (i.map world.contexts) operation detector args defer).error
  | _ => none

theorem reported?_scan (world : World ι) (now : Nat) (i : ι) (operation : String)
    (detector : Detector Args) (args : Args) (defer : Bool) :
    world.reported? (.scan now (some i) operation detector args defer)
      = world.agent.reports? (world.contexts i) operation detector args defer := by
  cases defer <;> rfl

theorem reported?_of_scanned?_eq_none (world : World ι) {action : Action ι}
    (h : action.scanned? = none) :
    world.reported? action = none ∧ world.posted? action = none := by
  cases action with
  | scan _ i _ _ _ _ =>
    obtain rfl : i = none := h
    exact ⟨rfl, rfl⟩
  | _ => exact ⟨rfl, rfl⟩

theorem exists_of_replayed? {world : World ι} {action : Action ι} {attack : Attack}
    (h : world.replayed? action = some attack) :
    ∃ i stored, action.scanned? = some i ∧ (world.contexts i).deferred = some stored
      ∧ stored.attack = attack
      ∧ stored.reported = false ∧ Meets i stored.attack.kind world action := by
  cases action with
  | scan now j operation detector args defer =>
    cases j with
    | none => cases h
    | some i =>
      replace h : world.agent.replays? (world.contexts i) detector.kind = some attack := h
      rw [Agent.replays?, Option.ite_none_right_eq_some, Option.map_eq_some_iff] at h
      obtain ⟨hlooks, stored, hunreported, rfl⟩ := h
      obtain ⟨hstored, hreported⟩ := Option.filter_eq_some_iff.1 hunreported
      obtain ⟨hdeferred, hkind⟩ := Option.filter_eq_some_iff.1 hstored
      refine ⟨i, stored, rfl, hdeferred, rfl,
        by simpa using hreported, rfl, (of_decide_eq_true hkind).symm, ?_⟩
      exact Agent.looksAt_iff.1 hlooks
  | _ => cases h

/-- A scan finds no attack where there is a stored one that it settles. -/
theorem detected?_eq_none_of_replayed? {world : World ι} {action : Action ι} {attack : Attack}
    (h : world.replayed? action = some attack) : world.detected? action = none := by
  obtain ⟨i, stored, hscanned, hdeferred, -, -, hmeets⟩ := exists_of_replayed? h
  obtain ⟨_, now, operation, detector, args, defer, rfl⟩ := Action.exists_scan hscanned
  obtain ⟨-, hkind, -, -⟩ := hmeets
  have hstored : (world.contexts i).stored? detector.kind = some stored :=
    Option.filter_eq_some_iff.2 ⟨hdeferred, decide_eq_true hkind.symm⟩
  cases defer with
  | true => rfl
  | false =>
    show world.agent.finds? (world.contexts i) operation detector args = none
    rw [Agent.finds?, hstored, Option.isNone_some, Bool.and_false]
    rfl

/-- A world that serves some requests with some settings, and in which every stored attack has its
own outcome. -/
structure Coherent (settings : Settings) (requests : ι → Request.Parts) (world : World ι) : Prop
    extends Served settings requests world where
  stored {i : ι} {deferred : DeferredAttack} (h : (world.contexts i).deferred = some deferred) :
    deferred.error = deferred.attack.outcome?

variable {settings : Settings} {requests : ι → Request.Parts} {world : World ι}

theorem coherent_start (settings : Settings) (requests : ι → Request.Parts) :
    (start settings requests).Coherent settings requests where
  toServed := served_start settings requests
  stored h := nomatch h

theorem Coherent.agent (h : world.Coherent settings requests) {agent : Agent}
    (hagent : agent.settings = world.agent.settings) :
    ({ world with agent } : World ι).Coherent settings requests where
  toServed := h.toServed.agent hagent
  stored := h.stored

theorem Coherent.caches (h : world.Coherent settings requests) (i : ι) :
    (world.contexts i).Caches world.agent.settings.protection.limits := by
  rw [h.settings_eq]
  exact (h.context i).caches

/-! ### What a call tells of the reported attack -/

theorem countP_entries_of_scanned?_eq_none (world : World ι) {action : Action ι}
    (h : action.scanned? = none) (tally : AttackTally) :
    (world.entries action).countP tally.countsEntry = 0 := by
  cases action with
  | setUser i id name =>
    rw [entries, Agent.setUserEntries]
    split
    · split <;> rfl
    · rfl
  | decide i =>
    rw [entries, Agent.decideEntries]
    split
    · rfl
    · cases (world.agent.decide (world.contexts i)).1 with
      | none => rfl
      | some refusal =>
        rw [Agent.decisionEntries]
        cases refusal.isRateLimited <;> rfl
  | scan now i operation detector args defer =>
    obtain rfl : i = none := h
    show (world.agent.scanEntries none operation detector args defer).countP tally.countsEntry = 0
    unfold Agent.scanEntries
    split <;> rfl
  | completed method route status =>
    rw [entries, Agent.completedEntries]
    split <;> rfl
  | connected hostname port =>
    rw [entries, Agent.connectedEntries]
    split <;> rfl
  | setGroup | install | advance | setDisabled | takeStats => rfl

/-- The attack that a call reports is the only one among its entries. -/
theorem countP_entries (h : world.Coherent settings requests) (action : Action ι)
    (tally : AttackTally) :
    (world.entries action).countP tally.countsEntry
      = (world.reported? action).toList.countP tally.counts := by
  cases hscanned : action.scanned? with
  | none =>
    rw [world.countP_entries_of_scanned?_eq_none hscanned,
      (world.reported?_of_scanned?_eq_none hscanned).1]
    rfl
  | some i =>
    obtain ⟨_, now, operation, detector, args, defer, rfl⟩ := Action.exists_scan hscanned
    rw [reported?_scan]
    exact Agent.countP_scanEntries (h.caches i) operation args defer tally

/-- A call that reports an attack fails if and only if the attack is blocked. -/
theorem answer?_of_reported? (h : world.Coherent settings requests) {action : Action ι}
    {attack : Attack} (hreported : world.reported? action = some attack) :
    world.answer? action = attack.outcome? := by
  cases hscanned : action.scanned? with
  | none =>
    rw [(world.reported?_of_scanned?_eq_none hscanned).1] at hreported
    cases hreported
  | some i =>
    obtain ⟨_, now, operation, detector, args, defer, rfl⟩ := Action.exists_scan hscanned
    rw [reported?_scan] at hreported
    exact Agent.error_scan (h.caches i) (fun _ => h.stored) now hreported

variable [DecidableEq ι]

theorem channel_step_of_scanned?_eq_none (world : World ι) {action : Action ι}
    (h : action.scanned? = none) :
    (world.step action).agent.channel = world.agent.channel := by
  cases action with
  | setUser i id name =>
    rw [World.step]
    split
    · rename_i after changed hset
      exact Agent.channel_setUser hset
    · rfl
  | setGroup i group =>
    rw [World.step]
    split <;> rfl
  | decide i => exact world.agent.channel_decide (world.contexts i)
  | scan now i operation detector args defer =>
    obtain rfl : i = none := h
    show (world.agent.scan now none operation detector args defer).agent.channel = _
    rw [Agent.scan]
    split <;> rfl
  | completed method route status => exact world.agent.channel_completed method route status
  | connected hostname port => exact world.agent.channel_connected hostname port
  | install offered => exact (world.agent.sameReports_install offered).channel
  | advance | setDisabled | takeStats => rfl

/-- A call queues the event of the attack that it reports, and nothing else. -/
theorem channel_step (h : world.Coherent settings requests) (action : Action ι) :
    (world.step action).agent.channel
      = (world.posted? action).elim world.agent.channel world.agent.channel.send := by
  cases hscanned : action.scanned? with
  | none =>
    rw [(world.reported?_of_scanned?_eq_none hscanned).2]
    exact world.channel_step_of_scanned?_eq_none hscanned
  | some i =>
    obtain ⟨_, now, operation, detector, args, defer, rfl⟩ := Action.exists_scan hscanned
    rw [posted?, reported?_scan]
    exact Agent.channel_scan (h.caches i) now operation args defer

/-- A call that leaves a stored attack has stored it, or it was there before. -/
theorem deferred_step_cases {action : Action ι} {i : ι} {stored : DeferredAttack}
    (h : ((world.step action).contexts i).deferred = some stored) :
    (world.contexts i).deferred = none
      ∨ ∃ reported, (world.contexts i).deferred = some { stored with reported } := by
  cases hbefore : (world.contexts i).deferred with
  | none => exact .inl rfl
  | some deferred =>
    refine .inr ⟨deferred.reported, ?_⟩
    by_cases hmeets : Meets i deferred.attack.kind world action
    · rw [deferred_step_of_meets hbefore hmeets] at h
      obtain rfl := Option.some.inj h
      rfl
    · rw [deferred_step_of_not_meets hbefore hmeets] at h
      obtain rfl := Option.some.inj h
      rfl

theorem Coherent.step (h : world.Coherent settings requests) (action : Action ι) :
    (world.step action).Coherent settings requests where
  toServed := h.toServed.step action
  stored hstored := by
    obtain hnone | ⟨reported, hbefore⟩ := deferred_step_cases hstored
    · exact (stored_step hnone hstored).1
    · have herror := h.stored hbefore
      exact herror

theorem Coherent.run (h : world.Coherent settings requests) (actions : List (Action ι)) :
    (world.run actions).Coherent settings requests := by
  induction actions generalizing world with
  | nil => exact h
  | cons action actions ih => exact ih (h.step action)

end World

end RequestGuard
