import RequestGuard.Proofs.Agent.Run
import RequestGuard.Proofs.Decision.Order

/-!
# Admission under a rate limit

A request that no other check settles is checked against the limit of its first endpoint under one
key: its group, or else its user, or else the address of its client. If it is admitted it counts for
its group or user and for its address alike, so the counter of an address also tells requests that
were never checked under it.

The requests that are admitted under one key are tallied here for each minute of a run. The tally of
the last minutes never exceeds the counter of the key, and a request is only admitted while that
counter is below the limit; since older windows do not change, no window of the limit's length ever
holds more admitted requests than the limit allows (`World.sum_admissions_le`).
-/

namespace RequestGuard

open Policy (Endpoint Snapshot)
open RateLimit

/-- The key under which a request is checked against a limit. -/
inductive LimitKey where
  | group (name : String)
  | user (id : String)
  | ip (address : String)
deriving DecidableEq, Repr

namespace LimitKey

/-- The group if there is one, or else the user, or else the address. -/
def of? (user : Option User) (group ip : Option String) : Option LimitKey :=
  match group, user, ip with
  | some name, _, _ => some (.group name)
  | none, some user, _ => some (.user user.id)
  | none, none, some address => some (.ip address)
  | none, none, none => none

def table : LimitKey → Trigger
  | .group _ => .user
  | .user _ => .user
  | .ip _ => .ip

def text : LimitKey → String
  | .group name => "group:" ++ name
  | .user id => id
  | .ip address => address

theorem selects_of_of? {user : Option User} {group ip : Option String} {key : LimitKey}
    (h : of? user group ip = some key)
    (huser : ∀ {known : User}, user = some known → known.id ≠ "") (hip : ip ≠ some "") :
    Selects (Decision.limitKey? user group) ip key.table key.text := by
  cases group with
  | some name =>
    obtain rfl := Option.some.inj h
    refine .user rfl ?_
    rw [text, Ne, ← String.toList_inj, String.toList_append]
    simp
  | none =>
    cases user with
    | some known =>
      obtain rfl := Option.some.inj h
      exact .user rfl (huser rfl)
    | none =>
      cases ip with
      | some address =>
        obtain rfl := Option.some.inj h
        exact .ip (.inl rfl) rfl fun hempty => hip (congrArg some hempty)
      | none => cases h

end LimitKey

theorem Request.ip_ofParts_ne_empty (parts : Request.Parts) :
    (Request.ofParts parts).ip ≠ some "" := by
  intro h
  obtain ⟨address, -, hrender⟩ := Option.map_eq_some_iff.1 h
  exact address.render_ne_empty hrender

namespace World

variable {ι : Type}

/-- Whether a call admits a request that is checked against the limit of an endpoint under a key. A
request on which there is a decision is not decided on again. -/
def admits (e : Endpoint) (key : LimitKey) (world : World ι) : Action ι → Bool
  | .decide i =>
    let context := world.contexts i
    decide (world.agent.disabled = false ∧ context.decision = none
      ∧ Decision.checkedEndpoint? world.agent.policy context.request context.user = some e
      ∧ LimitKey.of? context.user context.group context.request.ip = some key
      ∧ (world.agent.decide context).1 = none)
  | _ => false

/-- How many requests were admitted in each minute, the latest first, after a call. -/
def tally (e : Endpoint) (key : LimitKey) (world : World ι) (minutes : List Nat) :
    Action ι → List Nat
  | .advance => 0 :: minutes
  | action => if world.admits e key action then minutes.modifyHead (· + 1) else minutes

theorem tally_decide (e : Endpoint) (key : LimitKey) (world : World ι) (minutes : List Nat)
    (i : ι) :
    world.tally e key minutes (.decide i)
      = if world.admits e key (.decide i) then minutes.modifyHead (· + 1) else minutes :=
  rfl

variable [DecidableEq ι]

/-- How many requests a run admits in each minute, the latest first, after those of earlier
minutes. -/
def admissions (e : Endpoint) (key : LimitKey) : World ι → List Nat → List (Action ι) → List Nat
  | _, minutes, [] => minutes
  | world, minutes, action :: actions =>
    admissions e key (world.step action) (world.tally e key minutes action) actions

/-- What a call can do to the policy and to the limiter: it installs a policy, or begins a minute,
or counts a request that it admits, or leaves both as they are and admits no checked request. -/
inductive Effect (world : World ι) (action : Action ι) : Prop where
  | installs (offered : Snapshot) (h : action = .install offered)
    (hnewer : offered.isNewerThan world.agent.policy = true)
  | advances (h : action = .advance) (policy : (world.step action).agent.policy
    = world.agent.policy)
      (limiter : (world.step action).agent.limiter = world.agent.limiter.advance)
  | counts (i : ι) (endpoint : Endpoint) (h : action = .decide i)
      (checked : Decision.checkedEndpoint? world.agent.policy (world.contexts i).request
        (world.contexts i).user
        = some endpoint)
      (admitted : world.agent.limiter.refusal? endpoint.method endpoint.route
        (Decision.limitKey? (world.contexts i).user (world.contexts i).group)
          (world.contexts i).request.ip = none)
      (policy : (world.step action).agent.policy = world.agent.policy)
      (limiter : (world.step action).agent.limiter
        = world.agent.limiter.count endpoint.method endpoint.route
        (Decision.limitKey? (world.contexts i).user (world.contexts i).group)
          (world.contexts i).request.ip)
  | keeps (tally : ∀ e key minutes, world.tally e key minutes action = minutes)
      (policy : (world.step action).agent.policy = world.agent.policy)
      (limiter : (world.step action).agent.limiter = world.agent.limiter)

theorem Effect.of_sameRules {world : World ι} {action : Action ι}
    (hrules : world.agent.SameRules (world.step action).agent)
    (htally : ∀ e key minutes, world.tally e key minutes action = minutes) : world.Effect action :=
  .keeps htally hrules.policy hrules.limiter

theorem effect_decide (world : World ι) (i : ι) : world.Effect (.decide i) := by
  have hagent : (world.step (.decide i)).agent = (world.agent.decide (world.contexts i)).2.1 := rfl
  obtain ⟨hsettled, hsame⟩ | ⟨henabled, hundecided, -⟩ :=
    world.agent.decide_cases (world.contexts i)
  · rw [hsame] at hagent
    refine .keeps (fun e key minutes => if_neg ?_) (by rw [hagent]) (by rw [hagent])
    rw [admits, decide_eq_true_eq]
    rintro ⟨henabled, hundecided, -⟩
    obtain hdisabled | hdecided := hsettled
    · exact absurd hdisabled (ne_true_of_eq_false henabled)
    · rw [Context.isDecided, hundecided] at hdecided
      cases hdecided
  · obtain ⟨hpolicy, hdecide⟩ :=
      Agent.rules_decide_of_undecided henabled (Context.decision_eq_none hundecided)
    obtain ⟨hsame, hnone⟩ | ⟨endpoint, hchecked, hrefusal, hcount⟩ :=
      Decision.decide_cases world.agent.policy world.agent.limiter (world.contexts i).request
        (world.contexts i).user (world.contexts i).group
    · rw [← hdecide] at hsame hnone
      refine .keeps (fun e key minutes => if_neg ?_) hpolicy hsame
      rw [admits, decide_eq_true_eq]
      rintro ⟨_, _, hchecked, _, hadmitted⟩
      obtain hnone | hrefused := hnone
      · rw [hnone] at hchecked
        cases hchecked
      · exact hrefused hadmitted
    · exact .counts i endpoint rfl hchecked hrefusal hpolicy
        (congrArg Prod.snd (hdecide.trans hcount))

theorem effect (world : World ι) (action : Action ι) : world.Effect action := by
  cases action with
  | install offered =>
    cases hnewer : offered.isNewerThan world.agent.policy with
    | true => exact .installs offered rfl hnewer
    | false =>
      have hsame : world.step (.install offered) = world := by
        rw [step, Agent.install_of_not_newer hnewer]
      exact .keeps (fun _ _ _ => rfl) (by rw [hsame]) (by rw [hsame])
  | advance => exact .advances rfl rfl rfl
  | decide i => exact world.effect_decide i
  | setUser => exact .of_sameRules (world.sameRules_step rfl) fun _ _ _ => rfl
  | setGroup => exact .of_sameRules (world.sameRules_step rfl) fun _ _ _ => rfl
  | scan => exact .of_sameRules (world.sameRules_step rfl) fun _ _ _ => rfl
  | completed => exact .of_sameRules (world.sameRules_step rfl) fun _ _ _ => rfl
  | connected => exact .of_sameRules (world.sameRules_step rfl) fun _ _ _ => rfl
  | setDisabled disabled => exact .keeps (fun _ _ _ => rfl) rfl rfl
  | takeStats => exact .of_sameRules (world.sameRules_step rfl) fun _ _ _ => rfl

end World

/-! ### Windows of minutes -/

/-- No window of some minutes holds more than a bound. -/
def WindowsAtMost (window bound : Nat) (minutes : List Nat) : Prop :=
  ∀ skipped, ((minutes.drop skipped).take window).sum ≤ bound

theorem sum_take_modifyHead_le (minutes : List Nat) (n : Nat) :
    ((minutes.modifyHead (· + 1)).take n).sum ≤ (minutes.take n).sum + 1 := by
  cases minutes with
  | nil => simp
  | cons current past =>
    cases n with
    | zero => simp
    | succ n =>
      rw [List.modifyHead_cons, List.take_succ_cons, List.take_succ_cons,
        List.sum_cons, List.sum_cons]
      omega

namespace WindowsAtMost

variable {window bound : Nat} {minutes : List Nat}

theorem cons_zero (h : WindowsAtMost window bound minutes) :
    WindowsAtMost window bound (0 :: minutes) := by
  intro skipped
  cases skipped with
  | succ skipped => exact h skipped
  | zero =>
    cases window with
    | zero => exact h 0
    | succ window =>
      have hnow := h 0
      rw [List.drop_zero, List.take_add_one, List.sum_append] at hnow
      rw [List.drop_zero, List.take_succ_cons, List.sum_cons]
      omega

/-- A window that has passed does not change, so only the present one needs room. -/
theorem modifyHead (h : WindowsAtMost window bound minutes)
    (hroom : (minutes.take window).sum < bound) :
    WindowsAtMost window bound (minutes.modifyHead (· + 1)) := by
  intro skipped
  cases skipped with
  | zero =>
    have hnow := sum_take_modifyHead_le minutes window
    rw [List.drop_zero]
    omega
  | succ skipped =>
    cases minutes with
    | nil => exact h 0
    | cons current past => exact h (skipped + 1)

end WindowsAtMost

/-! ### Runs under one policy -/

namespace World

variable {ι : Type}

/-- A run under a policy keeps the limit of an endpoint for a key: the counters tell its history,
the tally of the last minutes is at most what they tell, and no window of the tally exceeds the
limit. -/
structure Within (snapshot : Snapshot) (e : Endpoint) (key : LimitKey) (quota : Quota)
    (history : List Operation) (minutes : List Nat) (world : World ι) : Prop where
  policy : world.agent.policy = snapshot
  quota_eq : world.agent.limiter.quota? e.method e.route = some quota
  window_pos : 0 < quota.windowMinutes
  records : quota.Records e.method e.route history
  counted {n : Nat} (h : n ≤ quota.windowMinutes) :
    (minutes.take n).sum ≤ (sinceMinutes n history).countP
      (Operation.carries e.method e.route key.table key.text)
  bounded : WindowsAtMost quota.windowMinutes (max quota.maxRequests 1) minutes

variable {settings : Settings} {requests : ι → Request.Parts} {world : World ι}
  {snapshot : Snapshot}
  {e : Endpoint} {key : LimitKey} {quota : Quota} {history : List Operation} {minutes : List Nat}

theorem Served.selects_of_admits (hserved : world.Served settings requests) {i : ι}
    (h : world.admits e key (.decide i) = true) :
    Selects (Decision.limitKey? (world.contexts i).user (world.contexts i).group)
      (world.contexts i).request.ip key.table
      key.text := by
  obtain ⟨_, _, _, hkey, _⟩ := of_decide_eq_true h
  refine LimitKey.selects_of_of? hkey (hserved.context i).user ?_
  rw [(hserved.context i).request]
  exact Request.ip_ofParts_ne_empty (requests i)

variable [DecidableEq ι]

theorem Within.step (h : world.Within snapshot e key quota history minutes)
    (hserved : world.Served settings requests) {action : Action ι}
    (hkept : ∀ offered, action = .install offered → offered.isNewerThan snapshot = false) :
    ∃ next history, (world.step action).Within snapshot e key next history
      (world.tally e key minutes action)
      ∧ next.maxRequests = quota.maxRequests ∧ next.windowMinutes = quota.windowMinutes := by
  cases world.effect action with
  | installs offered haction hnewer =>
    rw [h.policy, hkept offered haction] at hnewer
    cases hnewer
  | keeps htally hpolicy hlimiter =>
    rw [htally]
    exact ⟨quota, history, ⟨hpolicy.trans h.policy, hlimiter ▸ h.quota_eq, h.window_pos, h.records,
      h.counted, h.bounded⟩,
      rfl, rfl⟩
  | advances haction hpolicy hlimiter =>
    subst haction
    obtain ⟨next, hnext, hmax, hwindow, hrecords⟩ :=
      Limiter.quota?_apply h.quota_eq h.window_pos h.records .advance
    refine ⟨next, .advance :: history,
      ⟨hpolicy.trans h.policy, hlimiter ▸ hnext, hwindow ▸ h.window_pos, hrecords,
      ?_, ?_⟩, hmax, hwindow⟩
    · intro n hn
      cases n with
      | zero => simp
      | succ n =>
        have hpast := h.counted (n := n) (by omega)
        rw [tally, List.take_succ_cons, List.sum_cons, sinceMinutes]
        omega
    · rw [hmax, hwindow]
      exact h.bounded.cons_zero
  | counts i endpoint haction hchecked hadmitted hpolicy hlimiter =>
    subst haction
    obtain ⟨next, hnext, hmax, hwindow, hrecords⟩ :=
      Limiter.quota?_apply h.quota_eq h.window_pos h.records
      (.count endpoint.method endpoint.route
        (Decision.limitKey? (world.contexts i).user (world.contexts i).group)
        (world.contexts i).request.ip)
    have hsnapshot := hpolicy.trans h.policy
    rw [tally_decide]
    -- The counter may also grow for a request that is checked under another key: then the tally
    -- stays behind it.
    cases hadmits : world.admits e key (.decide i) with
    | false =>
      refine ⟨next, _, ⟨hsnapshot, hlimiter ▸ hnext, hwindow ▸ h.window_pos, hrecords, ?_, ?_⟩,
        hmax, hwindow⟩
      · intro n hn
        rw [hwindow] at hn
        exact Nat.le_trans (h.counted hn) (countP_sinceMinutes_le_count _ n _ _ _ _ history)
      · rw [hmax, hwindow]
        exact h.bounded
    | true =>
      have hselects := hserved.selects_of_admits hadmits
      obtain ⟨_, _, hendpoint, _, _⟩ := of_decide_eq_true hadmits
      obtain rfl : endpoint = e := Option.some.inj (hchecked.symm.trans hendpoint)
      refine ⟨next, _, ⟨hsnapshot, hlimiter ▸ hnext, hwindow ▸ h.window_pos, hrecords, ?_, ?_⟩,
        hmax, hwindow⟩
      · intro n hn
        rw [hwindow] at hn
        cases n with
        | zero => simp
        | succ n =>
          rw [sinceMinutes_count, List.countP_cons_of_pos (hselects.carries _ _)]
          exact Nat.le_trans (sum_take_modifyHead_le minutes (n + 1))
            (Nat.succ_le_succ (h.counted hn))
      · rw [Limiter.refusal?, h.quota_eq, Option.bind_some] at hadmitted
        have hroom := h.records.countP_lt_of_refusal?_eq_none hselects hadmitted
        rw [hmax, hwindow]
        exact h.bounded.modifyHead (Nat.lt_of_le_of_lt (h.counted (Nat.le_refl _)) hroom)

theorem Within.admissions (h : world.Within snapshot e key quota history minutes)
    (hserved : world.Served settings requests) {actions : List (Action ι)}
    (hkept : ∀ offered, .install offered ∈ actions → offered.isNewerThan snapshot = false) :
    ∃ last history, (world.run actions).Within snapshot e key last history
      (admissions e key world minutes actions)
      ∧ last.maxRequests = quota.maxRequests ∧ last.windowMinutes = quota.windowMinutes := by
  induction actions generalizing world quota history minutes with
  | nil => exact ⟨quota, history, h, rfl, rfl⟩
  | cons action actions ih =>
    obtain ⟨next, later, hnext, hmax, hwindow⟩ :=
      h.step hserved fun offered haction => hkept offered (haction ▸ List.mem_cons_self)
    obtain ⟨last, latest, hlast, hlastMax, hlastWindow⟩ :=
      ih hnext (hserved.step action) fun offered hmem => hkept offered (List.mem_cons_of_mem _ hmem)
    exact ⟨last, latest, hlast, hlastMax.trans hmax, hlastWindow.trans hwindow⟩

/-- The limit of an endpoint right after its policy came into force. -/
theorem within_install (hnewer : snapshot.isNewerThan world.agent.policy = true)
    (he : e ∈ snapshot.endpoints) (henabled : e.rateLimit.enabled = true) (key : LimitKey) :
    ∃ quota, (world.step (.install snapshot)).Within snapshot e key quota [] [0] := by
  have hagent : (world.step (.install snapshot)).agent
      = { world.agent with policy := snapshot, limiter := .ofEndpoints snapshot.endpoints } := by
    rw [World.step, Agent.install_of_newer hnewer]
  have hsome := Limiter.quota?_ofEndpoints_isSome_iff.2 ⟨e, he, henabled, rfl, rfl⟩
  obtain ⟨quota, hquota⟩ := Option.isSome_iff_exists.1 hsome
  obtain ⟨⟨_, _, _, _, _, _, hwindow⟩, hrecords⟩ := Limiter.quota?_ofEndpoints_eq_some hquota
  refine ⟨quota, by rw [hagent], by rw [hagent]; exact hquota, by omega, hrecords, ?_, ?_⟩
  · intro n _
    cases n <;> simp
  · intro skipped
    cases skipped with
    | zero => cases quota.windowMinutes <;> simp
    | succ skipped => simp

/-- While a policy is in force, no window of an endpoint's rate limit sees more requests admitted
under one key than the limit allows, and at most one if it allows none. -/
theorem sum_admissions_le (hworld : world.Reachable settings requests)
    (hnewer : snapshot.isNewerThan world.agent.policy = true) {actions : List (Action ι)}
    (hkept : ∀ offered, .install offered ∈ actions → offered.isNewerThan snapshot = false)
    (he : e ∈ snapshot.endpoints) (henabled : e.rateLimit.enabled = true) (key : LimitKey)
    (skipped : Nat) :
    let installed := world.step (.install snapshot)
    ∃ quota, (installed.run actions).agent.limiter.quota? e.method e.route = some quota
      ∧ 1 ≤ quota.windowMinutes
      ∧ (((admissions e key installed [0] actions).drop skipped).take quota.windowMinutes).sum
          ≤ max quota.maxRequests 1 := by
  intro installed
  obtain ⟨fresh, hfresh⟩ := within_install hnewer he henabled key
  obtain ⟨quota, history, hwithin, _, _⟩ := hfresh.admissions (hworld.served.step _) hkept
  exact ⟨quota, hwithin.quota_eq, hwithin.window_pos, hwithin.bounded skipped⟩

/-- One of the first two requests of a user is admitted, and the third one a minute later. -/
theorem sum_admissions_le_one_user :
    let e : Endpoint :=
      { method := "GET", route := "/", rateLimit := { enabled := true, maxRequests := 1 } }
    let snapshot : Snapshot := { version := 1, endpoints := [e] }
    let requests : Nat → Request.Parts := fun _ => { method := "GET", url := "/" }
    let actions : List (Action Nat) :=
      [.setUser 0 "ada" "Ada", .decide 0, .setUser 1 "ada" "Ada", .decide 1, .advance,
        .setUser 2 "ada" "Ada", .decide 2]
    let installed := (start {} requests).step (.install snapshot)
    (start {} requests).Reachable {} requests
      ∧ snapshot.isNewerThan (start {} requests).agent.policy = true
      ∧ (∀ offered, .install offered ∈ actions → offered.isNewerThan snapshot = false)
      ∧ e ∈ snapshot.endpoints ∧ e.rateLimit.enabled = true
      ∧ admissions e (.user "ada") installed [0] actions = [1, 1]
      ∧ ∃ quota, (installed.run actions).agent.limiter.quota? e.method e.route = some quota
        ∧ 1 ≤ quota.windowMinutes
        ∧ (((admissions e (.user "ada") installed [0] actions).drop 0).take
            quota.windowMinutes).sum ≤ max quota.maxRequests 1 := by
  intro e snapshot requests actions
  have hworld : (start {} requests).Reachable {} requests := ⟨[], rfl⟩
  have hnewer : snapshot.isNewerThan (start {} requests).agent.policy = true := by decide
  have hkept : ∀ offered, .install offered ∈ actions → offered.isNewerThan snapshot = false := by
    intro offered hmem
    simp [actions] at hmem
  have he : e ∈ snapshot.endpoints := List.mem_singleton_self e
  refine ⟨hworld, hnewer, hkept, he, rfl, by decide +kernel, ?_⟩
  exact sum_admissions_le hworld hnewer hkept he rfl _ 0

end World

end RequestGuard
