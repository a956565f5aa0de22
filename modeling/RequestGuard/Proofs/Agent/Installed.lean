import RequestGuard.Proofs.Agent.Admission

/-!
# The limiter of the policy in force

A policy and its limiter come into force together. An installation puts fresh counters in the place
of the old ones, and until the next one the limiter only counts and begins minutes. So in every
world that a run reaches, the limiter is the one that the policy in force began with, after some
operations (`World.Reachable.limiter_eq_run`), and all that is known of the history of a limiter
holds of it.
-/

namespace RequestGuard

open Policy (Endpoint Snapshot)
open RateLimit

namespace RateLimit.Limiter

theorem run_concat (limiter : Limiter) (operations : List Operation) (operation : Operation) :
    limiter.run (operations ++ [operation]) = (limiter.run operations).apply operation := by
  rw [run, run, List.foldl_append]
  rfl

theorem counter?_ofEndpoints (endpoints : List Endpoint) (method route : String) (table : Trigger)
    (key : String) :
    (ofEndpoints endpoints).counter? method route table key = none := by
  rw [counter?, quota?_ofEndpoints]
  cases endpoints.reverse.find? fun e => e.rateLimit.enabled &&
    decide (e.method = method ∧ e.route = route) with
  | none => rfl
  | some e => cases table <;> rfl

end RateLimit.Limiter

namespace Agent

/-- The limiter of an agent is the one that its policy began with, after some operations. -/
def FollowsPolicy (agent : Agent) : Prop :=
  ∃ operations, agent.limiter = (Limiter.ofEndpoints agent.policy.endpoints).run operations

theorem followsPolicy_ofSettings (settings : Settings) :
    (ofSettings settings).FollowsPolicy := ⟨[], rfl⟩

theorem FollowsPolicy.apply {agent after : Agent} (h : agent.FollowsPolicy)
    (operation : Operation) (hpolicy : after.policy = agent.policy)
    (hlimiter : after.limiter = agent.limiter.apply operation) :
    after.FollowsPolicy := by
  obtain ⟨operations, hrun⟩ := h
  refine ⟨operations ++ [operation], ?_⟩
  rw [hlimiter, hrun, hpolicy, Limiter.run_concat]

theorem FollowsPolicy.isSome_quota?_iff {agent : Agent} (h : agent.FollowsPolicy)
    (method route : String) :
    (agent.limiter.quota? method route).isSome = true ↔
      ∃ e ∈ agent.policy.endpoints, e.method = method ∧ e.route = route
        ∧ e.rateLimit.enabled = true := by
  obtain ⟨operations, hrun⟩ := h
  rw [hrun, Limiter.quota?_run_isSome_iff]
  refine exists_congr fun e => and_congr_right fun _ => ?_
  rw [and_comm, and_assoc]

end Agent

namespace World

variable {ι : Type} [DecidableEq ι] {world : World ι} {settings : Settings}
  {requests : ι → Request.Parts}

theorem followsPolicy_step (h : world.agent.FollowsPolicy) (action : Action ι) :
    (world.step action).agent.FollowsPolicy := by
  cases world.effect action with
  | installs offered haction hnewer =>
    subst haction
    refine ⟨[], ?_⟩
    rw [step, Agent.install_of_newer hnewer]
    rfl
  | advances _ hpolicy hlimiter => exact h.apply .advance hpolicy hlimiter
  | counts i endpoint _ _ _ hpolicy hlimiter =>
    exact h.apply (.count endpoint.method endpoint.route _ _) hpolicy hlimiter
  | keeps _ hpolicy hlimiter =>
    obtain ⟨operations, hrun⟩ := h
    exact ⟨operations, by rw [hlimiter, hpolicy, hrun]⟩

theorem followsPolicy_run (h : world.agent.FollowsPolicy) (actions : List (Action ι)) :
    (world.run actions).agent.FollowsPolicy := by
  induction actions generalizing world with
  | nil => exact h
  | cons action actions ih => exact ih (followsPolicy_step h action)

theorem Reachable.limiter_eq_run (h : world.Reachable settings requests) :
    ∃ operations,
      world.agent.limiter = (Limiter.ofEndpoints world.agent.policy.endpoints).run operations := by
  obtain ⟨actions, rfl⟩ := h
  exact followsPolicy_run (Agent.followsPolicy_ofSettings settings) actions

/-- An agent installs a snapshot if and only if its version is greater, then as a whole and with all
counters afresh, and otherwise nothing changes. Its limiter has an entry for the endpoints of the
policy in force that have a rate limit and for no others, so there is one for every request whose
first endpoint has a limit. -/
theorem install_replaces_policy_and_limiter (settings : Settings) (requests : ι → Request.Parts)
    (actions : List (Action ι)) (offered : Snapshot) :
    let agent := ((start settings requests).run actions).agent
    let outcome := agent.install offered
    (outcome.1 = true ↔ agent.policy.version < offered.version)
      ∧ (outcome.1 = true → outcome.2.policy = offered
          ∧ ∀ method route table key, outcome.2.limiter.counter? method route table key = none)
      ∧ (outcome.1 = false → outcome.2 = agent)
      ∧ (∀ method route, (agent.limiter.quota? method route).isSome = true ↔
          ∃ e ∈ agent.policy.endpoints, e.method = method ∧ e.route = route
            ∧ e.rateLimit.enabled = true)
      ∧ ∀ (request : Request) (e : Endpoint),
          (agent.policy.endpointsFor request.method request.route).head? = some e →
            e.rateLimit.enabled = true →
          (agent.limiter.quota? e.method e.route).isSome = true := by
  intro agent outcome
  have hfollows : agent.FollowsPolicy :=
    followsPolicy_run (Agent.followsPolicy_ofSettings settings) actions
  have houtcome : outcome.1 = offered.isNewerThan agent.policy := agent.fst_install offered
  refine ⟨?_, ?_, ?_, hfollows.isSome_quota?_iff, ?_⟩
  · rw [houtcome, Snapshot.isNewerThan_iff]
  · intro hinstalled
    have hagent := Agent.install_of_newer (houtcome.symm.trans hinstalled)
    have hafter :
        outcome.2 = { agent with policy := offered, limiter := .ofEndpoints offered.endpoints } :=
      congrArg Prod.snd hagent
    rw [hafter]
    exact ⟨rfl, Limiter.counter?_ofEndpoints offered.endpoints⟩
  · intro hrefused
    exact congrArg Prod.snd (Agent.install_of_not_newer (houtcome.symm.trans hrefused))
  · intro request e hfirst henabled
    have hmem : e ∈ agent.policy.endpoints := Policy.mem_of_mem_matching (List.mem_of_head? hfirst)
    exact (hfollows.isSome_quota?_iff e.method e.route).2 ⟨e, hmem, rfl, rfl, henabled⟩

/-- The user has used up the limit when a newer policy with the same limit comes into force, or the
same version is offered again. -/
theorem install_replaces_policy_and_limiter_used_up :
    let e : Endpoint :=
      { method := "GET", route := "/", rateLimit := { enabled := true, maxRequests := 1 } }
    let requests : Nat → Request.Parts := fun _ => { method := "GET", url := "/" }
    let actions : List (Action Nat) :=
      [.install { version := 1, endpoints := [e] }, .setUser 0 "ada" "Ada", .decide 0]
    let agent := ((start {} requests).run actions).agent
    let newer : Snapshot := { version := 2, endpoints := [e], block := true }
    let again : Snapshot := { version := 1, block := true }
    let request := Request.ofParts (requests 0)
    agent.limiter.counter? "GET" "/" .user "ada" = some { total := 1, buckets := [1] }
      ∧ (agent.install newer).1 = true ∧ (agent.install newer).2.policy = newer
      ∧ (agent.install newer).2.limiter.counter? "GET" "/" .user "ada" = none
      ∧ (agent.install again).1 = false ∧ (agent.install again).2 = agent
      ∧ (agent.policy.endpointsFor request.method request.route).head? = some e
      ∧ (agent.limiter.quota? "GET" "/").isSome = true := by
  intro e requests actions agent newer again request
  obtain ⟨hiff, hreplaced, -, -, hlimited⟩ :=
    install_replaces_policy_and_limiter {} requests actions newer
  obtain ⟨hiff', -, hkept, -, -⟩ := install_replaces_policy_and_limiter {} requests actions again
  have hinstalled : (agent.install newer).1 = true := hiff.2 (by decide +kernel)
  have hrefused : (agent.install again).1 = false := by
    rw [← Bool.not_eq_true, hiff']
    decide +kernel
  have hfirst : (agent.policy.endpointsFor request.method request.route).head?
      = some e := by decide +kernel
  obtain ⟨hpolicy, hfresh⟩ := hreplaced hinstalled
  refine ⟨by decide +kernel, hinstalled, hpolicy, hfresh .., hrefused, hkept hrefused, hfirst, ?_⟩
  exact hlimited request e hfirst rfl

end World

end RequestGuard
