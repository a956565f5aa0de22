import Mathlib.Data.List.Induction
import RequestGuard.Cloud.Memory
import RequestGuard.Proofs.Agent.Admission
import RequestGuard.Proofs.Agent.Session

/-!
# The policy only moves forward

An exchange with the control plane either installs a newer policy, made from the configuration that
just arrived and from the lists that were fetched for it, or leaves the policy and what the limiter
has counted as they are (`Agent.Exchanged.advances`). Without lists those in force stay. In a
session the policy in force stays until a newer one takes its place, whatever the control plane
answers.
-/

namespace RequestGuard

open Cloud (Call CloudError Config ControlPlane FirewallLists Heartbeat Memory Operation Origin)
open Policy (Snapshot)

namespace Agent

variable {agent after : Agent} {beat beat' : Heartbeat} {origin : Origin} {operation : Operation}
  {installed : Bool}
  {calls : List Call}

theorem sameRules_countFailure (agent : Agent) (operation : Operation) (error : CloudError) :
    agent.SameRules (agent.countFailure operation error) := by
  unfold countFailure
  split
  · exact .refl agent
  · exact (SameRules.refl agent).countMetric _

/-- What some calls of the control plane do to the policy and its counters. -/
inductive Advances (before after : Agent) : Bool → List Call → Prop where
  | kept (calls : List Call) (policy : after.policy = before.policy) (limiter : after.limiter
    = before.limiter) :
      Advances before after false calls
  | installed (earlier : List Call) (call : Call) {config : Config}
    {answer : Except CloudError FirewallLists}
      (hconfig : call.config? = some config) (hnewer : before.policy.version
        < config.updatedAt.toInt)
      (policy : after.policy = .ofCloud config answer.toOption before.policy) :
      Advances before after true (earlier ++ [call, .fetchLists answer])

theorem Advances.installed_iff (h : agent.Advances after installed calls) :
    installed = true ↔ agent.policy.version < after.policy.version := by
  cases h with
  | kept _ hpolicy _ =>
    rw [hpolicy]
    simp
  | installed _ _ _ hnewer hpolicy =>
    rw [hpolicy]
    exact iff_of_true rfl hnewer

theorem Advances.policy (h : agent.Advances after installed calls) :
    after.policy = agent.policy ∨ agent.policy.version < after.policy.version := by
  cases h with
  | kept _ hpolicy _ => exact .inl hpolicy
  | installed _ _ _ hnewer hpolicy =>
    right
    rw [hpolicy]
    exact hnewer

theorem Advances.of_sameRules {before : Agent} (hsame : before.SameRules agent)
    (h : agent.Advances after installed calls) : before.Advances after installed calls := by
  cases h with
  | kept calls hpolicy hlimiter =>
    exact .kept calls (hpolicy.trans hsame.policy) (hlimiter.trans hsame.limiter)
  | installed earlier call hconfig hnewer hpolicy =>
    rw [hsame.policy] at hnewer hpolicy
    exact .installed earlier call hconfig hnewer hpolicy

theorem Responds.advances {answer : Except CloudError (Option Config)}
    (h : agent.Responds origin operation answer installed after calls) (earlier : List Call)
    {call : Call} (hcall : call.config? = answer.toOption.join) :
    agent.Advances after installed (earlier ++ call :: calls) := by
  cases h with
  | failed error =>
    have hsame := agent.sameRules_countFailure operation error
    exact .kept _ hsame.policy hsame.limiter
  | nothing => exact .kept _ rfl rfl
  | passed _ => exact .kept _ rfl rfl
  | installed hnewer lists =>
    refine .installed earlier call hcall hnewer ?_
    rw [policy_conclude, if_pos (Snapshot.isNewerThan_iff.2 hnewer)]
    rfl

theorem Exchanged.advances (h : agent.Exchanged beat origin installed beat' after calls) :
    agent.Advances after installed calls := by
  cases h with
  | started h => exact h.advances [] rfl
  | unpolled error =>
    have hsame := agent.sameRules_countFailure .fetchVersion error
    exact .kept _ hsame.policy hsame.limiter
  | current _ => exact .kept _ rfl rfl
  | @fetched version _ answer _ _ _ h =>
    have hcall : (Call.fetchConfig answer).config? = (answer.map some).toOption.join := by
      cases answer <;> rfl
    exact h.advances [.fetchVersion (.ok version)] hcall
  | heartbeat h => exact (h.advances [] rfl).of_sameRules (agent.sameRules_stats _)

/-- A poll asks for the version first, and for nothing else if that is not newer. -/
theorem Exchanged.calls_of_poll (h : agent.Exchanged beat .poll installed beat' after calls) :
    ∃ answer, calls.head? = some (.fetchVersion answer)
      ∧ ∀ version, answer = .ok version → version.updatedAt.toInt ≤ agent.policy.version →
          calls = [.fetchVersion (.ok version)] := by
  cases h with
  | unpolled error => exact ⟨_, rfl, fun _ h => nomatch h⟩
  | @current version _ =>
    refine ⟨_, rfl, ?_⟩
    rintro _ ⟨⟩ _
    rfl
  | fetched hnewer _ =>
    refine ⟨_, rfl, ?_⟩
    rintro _ ⟨⟩ hcurrent
    exact absurd hnewer (Int.not_lt.2 hcurrent)

theorem Exchanged.beat_of_heartbeat
    (h : agent.Exchanged beat .heartbeat installed beat' after calls) :
    ∃ stats answer, calls.head? = some (.sendEvent (.heartbeat agent.info stats) answer)
      ∧ ∀ error, answer = .error error → beat' = beat := by
  cases h with
  | @heartbeat answer _ _ _ _ =>
    refine ⟨_, answer, rfl, ?_⟩
    rintro error rfl
    rfl

theorem Exchanged.beat_of_ne_heartbeat (h : agent.Exchanged beat origin installed beat' after calls)
    (horigin : origin ≠ .heartbeat) : beat' = beat := by
  cases h with
  | heartbeat _ => exact absurd rfl horigin
  | _ => rfl

end Agent

theorem World.policy_step {ι : Type} [DecidableEq ι] (world : World ι) (action : Action ι) :
    (world.step action).agent.policy = world.agent.policy
      ∨ world.agent.policy.version < (world.step action).agent.policy.version := by
  cases world.effect action with
  | installs offered haction hnewer =>
    right
    subst haction
    rw [step, Agent.install_of_newer hnewer]
    exact Snapshot.isNewerThan_iff.1 hnewer
  | advances _ hpolicy _ => exact .inl hpolicy
  | counts _ _ _ _ _ hpolicy _ => exact .inl hpolicy
  | keeps _ hpolicy _ => exact .inl hpolicy

namespace Session

variable {ι σ : Type} [DecidableEq ι]

theorem policy_step (plane : ControlPlane σ) (session : Session ι σ) (turn : Turn ι) :
    (session.step plane turn).world.agent.policy = session.world.agent.policy
      ∨ session.world.agent.policy.version
        < (session.step plane turn).world.agent.policy.version := by
  cases turn with
  | call action => exact session.world.policy_step action
  | exchange origin =>
    obtain ⟨calls, -, hexchanged⟩ := session.exists_exchanged plane origin
    exact hexchanged.advances.policy

theorem policy_run (plane : ControlPlane σ) (session : Session ι σ) (turns : List (Turn ι)) :
    (session.run plane turns).world.agent.policy = session.world.agent.policy
      ∨ session.world.agent.policy.version
        < (session.run plane turns).world.agent.policy.version := by
  induction turns using List.reverseRecOn with
  | nil => exact .inl rfl
  | append_singleton turns turn ih =>
    rw [run_concat]
    exact Snapshot.eq_or_version_lt_trans ih ((session.run plane turns).policy_step plane turn)

/-- Whatever happened in a session before, an exchange of the agent installs a policy if and only if
the version in force grows, and then the policy is that of the configuration that just arrived, with
the lists that were fetched for it or with those in force before. Otherwise the policy and all
counters of the limiter stay. A heartbeat that is not answered leaves the schedule of heartbeats as
it is, and a poll goes no further than a version that is not newer. -/
theorem exchange_moves_forward (plane : ControlPlane σ) (session : Session ι σ)
    (turns : List (Turn ι)) (origin : Origin) :
    let before := session.run plane turns
    let outcome := before.exchange plane origin
    let agent := before.world.agent
    let after := outcome.2.world.agent
    (agent.policy = session.world.agent.policy
      ∨ session.world.agent.policy.version < agent.policy.version)
      ∧ agent.exchange plane origin before.beat before.log.state
          = (outcome.1, outcome.2.beat, after, outcome.2.log.state)
      ∧ (outcome.1 = true ↔ agent.policy.version < after.policy.version)
      ∧ ∃ calls, outcome.2.log.calls = before.log.calls ++ calls
          ∧ (outcome.1 = true → ∃ earlier call config answer,
              calls = earlier ++ [call, .fetchLists answer] ∧ call.config? = some config
                ∧ after.policy = .ofCloud config answer.toOption agent.policy
                ∧ ∀ error, answer = .error error →
                    after.policy.blocklists = agent.policy.blocklists
                      ∧ after.policy.blockedUserAgents = agent.policy.blockedUserAgents)
          ∧ (outcome.1 = false → after.policy = agent.policy ∧ after.limiter = agent.limiter)
          ∧ (origin = .heartbeat → ∃ stats answer,
              calls.head? = some (.sendEvent (.heartbeat agent.info stats) answer)
                ∧ ∀ error, answer = .error error → outcome.2.beat = before.beat)
          ∧ (origin ≠ .heartbeat → outcome.2.beat = before.beat)
          ∧ (origin = .poll → ∃ answer, calls.head? = some (.fetchVersion answer)
              ∧ ∀ version, answer = .ok version → version.updatedAt.toInt ≤ agent.policy.version →
                  calls = [.fetchVersion (.ok version)]) := by
  intro before outcome agent after
  obtain ⟨calls, hcalls, hexchanged⟩ := before.exists_exchanged plane origin
  have hadvances : agent.Advances after outcome.1 calls := hexchanged.advances
  have hplain := agent.exchange_logged plane origin before.beat before.log
  refine ⟨session.policy_run plane turns, hplain.symm, hadvances.installed_iff, calls, hcalls, ?_,
    ?_, ?_, hexchanged.beat_of_ne_heartbeat, ?_⟩
  · intro hinstalled
    rw [hinstalled] at hadvances
    cases hadvances with
    | installed earlier call hconfig _ hpolicy =>
      refine ⟨earlier, call, _, _, rfl, hconfig, hpolicy, ?_⟩
      rintro error rfl
      rw [hpolicy]
      exact ⟨rfl, rfl⟩
  · intro hkept
    rw [hkept] at hadvances
    cases hadvances with
    | kept _ hpolicy hlimiter => exact ⟨hpolicy, hlimiter⟩
  · rintro rfl
    exact hexchanged.beat_of_heartbeat
  · rintro rfl
    exact hexchanged.calls_of_poll

/-- The control plane says that there is version 5, but gives out version 3, and has no lists. The
first poll installs version 3 and the second one nothing. -/
theorem exchange_moves_forward_two_polls :
    let lists : FirewallLists := { blockedUserAgents := "bytespider" }
    let memory : Memory :=
      { version := { updatedAt := 5 }, config := some { updatedAt := 3, block := some true }, lists
        failures := [(.fetchLists, .status 503)] }
    let session : Session Nat Memory := start {} (fun _ => { method := "GET", url := "/" }) memory
    let first := session.exchange Memory.plane .poll
    let second := first.2.exchange Memory.plane .poll
    first.1 = true ∧ first.2.world.agent.policy.version = 3
      ∧ first.2.world.agent.policy.block = true
      ∧ second.1 = false ∧ second.2.world.agent.policy = first.2.world.agent.policy
      ∧ second.2.beat = first.2.beat
      ∧ second.2.log.calls.length = first.2.log.calls.length + 2 := by
  intro lists memory session first second
  obtain ⟨-, -, hiff, -⟩ := exchange_moves_forward Memory.plane session [] .poll
  obtain ⟨-, -, -, -, -, -, hkept, -, hbeat, -⟩ :=
    exchange_moves_forward Memory.plane session [.exchange .poll] .poll
  have hinstalled : first.1 = true := hiff.2 (by decide +kernel)
  have hrefused : second.1 = false := by decide +kernel
  refine ⟨hinstalled, by decide +kernel,
    by decide +kernel, hrefused, (hkept hrefused).1, hbeat (by decide), ?_⟩
  decide +kernel

end Session

end RequestGuard
