import RequestGuard.Proofs.Agent.Reported

/-!
# Events and the mode of their agent

An event says whether its agent is in dry mode, which only the settings decide, and whether the
attack was blocked, which was decided when the attack was found: by the settings, or else by the
policy of that moment. An attack that was deferred keeps what was decided then. So an event in dry
mode tells of a blocked attack exactly if the settings say nothing and the policy demanded blocking
when the attack was found (`World.queued_event_mode`).
-/

namespace RequestGuard

open Cloud (Event ReportedAttack AttackRequest)

namespace Agent

variable {Args : Type} {agent : Agent} {context : Context} {operation : String}
  {detector : Detector Args} {args : Args}

theorem blocked_of_finds? {attack : Attack}
    (h : agent.finds? context operation detector args = some attack) :
    attack.blocked = agent.isBlocking := by
  obtain ⟨hit, -, rfl⟩ := Option.map_eq_some_iff.1 (Option.ite_none_right_eq_some.1 h).2
  rfl

theorem finds?_of_deferred (hcaches : context.Caches agent.settings.protection.limits)
    (hnone : context.deferred = none) {now : Nat} {defer : Bool} {after : Context}
    (hafter : (agent.scan now (some context) operation detector args defer).context = some after)
    {stored : DeferredAttack} (hstored : after.deferred = some stored) :
    agent.finds? context operation detector args = some stored.attack := by
  cases hlooks : agent.looksAt context.request with
  | false =>
    have hsame :=
      ((agent.scanned_scan now context operation detector args defer).of_not_looksAt hlooks).1
    obtain rfl := Option.some.inj (hsame.symm.trans hafter)
    exact nomatch hnone.symm.trans hstored
  | true =>
    have hunstored :
        context.stored? detector.kind = none := by rw [Context.stored?, hnone, Option.filter_none]
    obtain ⟨failures, inputs, examined, hscan⟩ :=
      scan_of_unstored hlooks hunstored hcaches now operation args defer
    rw [hscan] at hafter
    rw [finds?_of_unstored hlooks hunstored]
    cases hdetects : agent.detects? context.request operation detector args with
    | none =>
      rw [hdetects] at hafter
      obtain rfl := Option.some.inj hafter
      exact nomatch hnone.symm.trans hstored
    | some attack =>
      rw [hdetects] at hafter
      cases defer with
      | false =>
        obtain rfl := Option.some.inj hafter
        exact nomatch hnone.symm.trans hstored
      | true =>
        obtain rfl := Option.some.inj hafter
        dsimp only at hstored
        rw [hnone] at hstored
        obtain rfl := Option.some.inj hstored
        rfl

end Agent

namespace World

variable {ι : Type} {settings : Settings} {requests : ι → Request.Parts} {world : World ι}

theorem blocked_of_found? {action : Action ι} {attack : Attack}
    (h : world.found? action = some attack) :
    attack.blocked = world.agent.settings.protection.block.getD world.agent.policy.block := by
  cases action with
  | scan now i operation detector args defer =>
    cases i with
    | none => cases h
    | some i => exact Agent.blocked_of_finds? h
  | _ => cases h

theorem found?_of_detected? {action : Action ι} {attack : Attack}
    (h : world.detected? action = some attack) :
    world.found? action = some attack := by
  cases action with
  | scan now i operation detector args defer =>
    cases i with
    | none => cases h
    | some i =>
      cases defer with
      | false => exact h
      | true => cases h
  | _ => cases h

theorem exists_of_posted? {action : Action ι} {event : Event}
    (h : world.posted? action = some event) :
    ∃ attack user request, world.reported? action = some attack
      ∧ event = .detectedAttack { dryMode := world.agent.settings.protection.block != some true }
          { attack := { attack with payload := String.ofList (attack.payload.toList.take 4096) },
            user } request := by
  cases hscanned : action.scanned? with
  | none =>
    rw [(world.reported?_of_scanned?_eq_none hscanned).2] at h
    cases h
  | some i =>
    obtain ⟨_, now, operation, detector, args, defer, rfl⟩ := Action.exists_scan hscanned
    obtain ⟨attack, hreported, hposts⟩ := Option.bind_eq_some_iff.1 h
    obtain ⟨-, hevent⟩ := Option.ite_none_right_eq_some.1 hposts
    exact ⟨attack, _, _, hreported, (Option.some.inj hevent).symm⟩

variable [DecidableEq ι]

theorem found?_of_stored (h : world.Coherent settings requests) {action : Action ι} {i : ι}
    {stored : DeferredAttack} (hnone : (world.contexts i).deferred = none)
    (hstored : ((world.step action).contexts i).deferred = some stored) :
    world.found? action = some stored.attack := by
  by_cases hscanned : action.scanned? = some i
  · obtain ⟨_, now, operation, detector, args, defer, rfl⟩ := Action.exists_scan hscanned
    have hafter := (world.contexts_step_scan i now operation detector args defer).symm
    exact Agent.finds?_of_deferred (h.caches i) hnone hafter hstored
  · rw [(world.touched_step i action).deferred hscanned, hnone] at hstored
    cases hstored

/-- A call found an attack. -/
def Found (attack : Attack) (moment : World ι) (action : Action ι) :
    Prop := moment.found? action = some attack

/-- Every stored attack was found by a call. -/
theorem sometime_found_of_deferred {actions : List (Action ι)} {i : ι} {stored : DeferredAttack}
    (hstored : (((start settings requests).run actions).contexts i).deferred = some stored) :
    (start settings requests).Sometime (Found stored.attack) actions := by
  induction actions using List.reverseRecOn generalizing stored with
  | nil => cases hstored
  | append_singleton actions action ih =>
    rw [sometime_concat_iff]
    rw [run_concat] at hstored
    obtain hnone | ⟨reported, hbefore⟩ := deferred_step_cases hstored
    · exact .inr (found?_of_stored ((coherent_start settings requests).run actions) hnone hstored)
    · have hfound := ih hbefore
      exact .inl hfound

/-- Every reported attack was found, by the call that reports it or by an earlier one. -/
theorem sometime_found_of_reported {actions : List (Action ι)} {action : Action ι} {attack : Attack}
    (hreported : ((start settings requests).run actions).reported? action = some attack) :
    (start settings requests).Sometime (Found attack) (actions ++ [action]) := by
  rw [sometime_concat_iff]
  rw [reported?, Option.orElse_eq_orElse, Option.orElse_eq_or, Option.or_eq_some_iff] at hreported
  obtain hdetected | ⟨-, hreplayed⟩ := hreported
  · exact .inr (found?_of_detected? hdetected)
  · obtain ⟨i, stored, -, hstored, rfl, -, -⟩ := exists_of_replayed? hreplayed
    exact .inl (sometime_found_of_deferred hstored)

/-- Every event that waits was queued by a call. -/
theorem sometime_posted_of_mem_queue {actions : List (Action ι)} {event : Event}
    (hqueued : event ∈ ((start settings requests).run actions).agent.channel.queue) :
    (start settings requests).Sometime (fun moment action => moment.posted? action = some event)
      actions := by
  induction actions using List.reverseRecOn with
  | nil => cases hqueued
  | append_singleton actions action ih =>
    rw [sometime_concat_iff]
    rw [run_concat, channel_step ((coherent_start settings requests).run actions)] at hqueued
    cases hposted : ((start settings requests).run actions).posted? action with
    | none =>
      rw [hposted] at hqueued
      exact .inl (ih hqueued)
    | some posted =>
      rw [hposted, Option.elim_some, Channel.send] at hqueued
      split at hqueued
      · exact .inl (ih hqueued)
      · obtain hearlier | hlast := List.mem_append.1 hqueued
        · exact .inl (ih hearlier)
        · exact .inr (congrArg some (List.mem_singleton.1 hlast).symm)

/-- An event that waits tells of an attack that some call found, perhaps long before. The event is
in dry mode unless the settings demand blocking; the attack is blocked if the settings say so, or
else if the policy did when it was found. The one contradicts the other exactly if the settings say
nothing and that policy demanded blocking. -/
theorem queued_event_mode (settings : Settings) (requests : ι → Request.Parts)
    {actions : List (Action ι)} {event : Event}
    (hqueued : event ∈ ((start settings requests).run actions).agent.channel.queue) :
    ∃ before action after attack user request, actions = before ++ action :: after
      ∧ let moment := (start settings requests).run before
        let dryMode := settings.protection.block != some true
        moment.found? action = some attack
        ∧ event = .detectedAttack { dryMode }
            { attack := { attack with payload := String.ofList (attack.payload.toList.take 4096) },
              user } request
        ∧ attack.blocked = settings.protection.block.getD moment.agent.policy.block
        ∧ ((dryMode = true → attack.blocked = false)
            ↔ ¬ (settings.protection.block = none ∧ moment.agent.policy.block = true)) := by
  -- Back from the event to the call that queued it, and from its attack to the call that found it.
  obtain ⟨earlier, last, later, rfl, hposted⟩ := sometime_posted_of_mem_queue hqueued
  obtain ⟨attack, user, request, hreported, hevent⟩ := exists_of_posted? hposted
  obtain ⟨before, action, after, hsplit, hfound⟩ := sometime_found_of_reported hreported
  have hsettings (some_actions : List (Action ι)) :
      ((start settings requests).run some_actions).agent.settings = settings :=
    ((served_start settings requests).run some_actions).settings_eq
  have hblocked := blocked_of_found? hfound
  rw [hsettings] at hevent hblocked
  refine ⟨before, action, after ++ later, attack, user, request, ?_, hfound, hevent, hblocked, ?_⟩
  · rw [← List.cons_append, ← List.append_assoc, ← hsplit, List.append_assoc, List.singleton_append]
  · rw [hblocked]
    cases settings.protection.block with
    | none => simp
    | some demanded => cases demanded <;> simp

/-- The attack is found and deferred while the policy does not block. When it is reported, the
policy does. -/
theorem queued_event_mode_deferred :
    let requests : Unit → Request.Parts := fun _ => { method := "GET", url := "/?q=1%3Bls" }
    let detector : Detector Unit :=
      { kind := .shellInjection, judge := fun s _ => .ok (if s = "1;ls" then some {} else none) }
    let scan (now : Nat) (defer : Bool) : Action Unit :=
      .scan now (some ()) "exec" detector () defer
    let actions : List (Action Unit) :=
      [scan 0 true, .install { version := 1, block := true }, scan 1 false]
    let first : World Unit := start {} requests
    let reported : ReportedAttack :=
      { attack :=
          { kind := .shellInjection, operation := "exec", source := .query, path := ".q"
            payload := "1;ls", metadata := [], blocked := false }
        user := none }
    let event : Event :=
      .detectedAttack { dryMode := true } reported (some (.ofRequest (.ofParts (requests ()))))
    event ∈ (first.run actions).agent.channel.queue ∧ (first.run actions).agent.policy.block = true
      ∧ ∃ before action after attack, actions = before ++ action :: after
        ∧ (first.run before).found? action = some attack
        ∧ attack.blocked = false ∧ (first.run before).agent.policy.block = false := by
  intro requests detector scan actions first reported event
  have hqueued : event ∈ (first.run actions).agent.channel.queue := by decide +kernel
  obtain ⟨before, action, after, attack, _, _, hsplit, hfound, hevent, hblocked, -⟩ :=
    queued_event_mode {} requests hqueued
  have hattack : reported.attack.blocked = attack.blocked := by
    injection hevent with _ hreported _
    rw [hreported]
  exact ⟨hqueued, by decide +kernel, before, action, after, attack, hsplit, hfound, hattack.symm,
    hblocked.symm.trans hattack.symm⟩

/-- The settings say nothing and the policy demands blocking: the event is in dry mode, and its
attack is blocked. -/
theorem dryMode_event_blocked :
    let requests : Unit → Request.Parts := fun _ => { method := "GET", url := "/?q=1%3Bls" }
    let detector : Detector Unit :=
      { kind := .shellInjection, judge := fun s _ => .ok (if s = "1;ls" then some {} else none) }
    let actions : List (Action Unit) :=
      [.install { version := 1, block := true }, .scan 0 (some ()) "exec" detector () false]
    let last := (start {} requests).run actions
    let attack : Attack :=
      { kind := .shellInjection, operation := "exec", source := .query, path := ".q",
        payload := "1;ls", metadata := [], blocked := true }
    last.agent.channel.queue
      = [.detectedAttack { dryMode := true } { attack, user := none }
        (some (.ofRequest (.ofParts (requests ()))))] := by
  intro requests detector actions last attack
  decide +kernel

end World

end RequestGuard
