import RequestGuard.Agent.Sync
import RequestGuard.Cloud.Memory

/-!
# Polls and failures of the control plane

A poll makes up to three calls, and each of them may fail. While the control plane holds one
configuration, the first poll that gets its version and the configuration decides what is in force
from then on (`Agent.policy_polls`): all later ones stop at the version. So a poll after any
failures brings the agent to the version of the configuration, but the lists of the firewall are
those of the control plane only if that first poll got them too. If it did not, no later poll asks
for them.
-/

namespace RequestGuard

open Cloud (CloudError Config ConfigVersion ControlPlane FirewallLists Memory)
open Policy (Snapshot)

/-! ### The calls of a poll -/

namespace Cloud

/-- The answers to the calls of a poll, each of which may be an error. -/
structure PollAnswers where
  version : Except CloudError ConfigVersion
  config : Except CloudError Config
  lists : Except CloudError FirewallLists

namespace PollAnswers

/-- Whether the version and the configuration arrive. -/
def delivers (answers : PollAnswers) : Bool := answers.version.isOk && answers.config.isOk

def isComplete (answers : PollAnswers) : Bool := answers.delivers && answers.lists.isOk

/-- What arrives is what a control plane with a configuration and lists answers. -/
structure Tell (config : Config) (lists : FirewallLists) (answers : PollAnswers) : Prop where
  version {answer : ConfigVersion} (h : answers.version = .ok answer) : answer.updatedAt
    = config.updatedAt
  config {answer : Config} (h : answers.config = .ok answer) : answer = config
  lists {answer : FirewallLists} (h : answers.lists = .ok answer) : answer = lists

theorem exists_of_delivers {answers : PollAnswers} (h : answers.delivers = true) :
    ∃ version config, answers.version = .ok version ∧ answers.config = .ok config := by
  obtain ⟨version, config, lists⟩ := answers
  cases version with
  | error _ => cases h
  | ok version =>
    cases config with
    | error _ => cases h
    | ok config => exact ⟨version, config, rfl, rfl⟩

theorem Tell.lists_of_isOk {config : Config} {lists : FirewallLists} {answers : PollAnswers}
    (h : answers.Tell config lists) (hok : answers.lists.isOk = true) :
    answers.lists.toOption = some lists := by
  cases hlists : answers.lists with
  | error error =>
    rw [hlists] at hok
    cases hok
  | ok answer =>
    rw [h.lists hlists]
    rfl

end PollAnswers

/-- The answers to a poll that begins in a state, if it makes all of its calls. -/
def ControlPlane.pollAnswers {σ : Type} (plane : ControlPlane σ) (state : σ) : PollAnswers :=
  let (version, state) := plane.fetchVersion state
  let (config, state) := plane.fetchConfig state
  let (lists, _) := plane.fetchLists state
  { version, config, lists }

end Cloud

namespace Agent

variable {σ : Type} {plane : ControlPlane σ} {agent : Agent} {config : Config}
  {lists : FirewallLists}

theorem policy_apply (plane : ControlPlane σ) (origin : Cloud.Origin) (config : Config)
    (agent : Agent) (state : σ) :
    (apply plane origin config agent state).2.1.policy
      = if agent.policy.version < config.updatedAt.toInt then
          .ofCloud config (plane.fetchLists state).1.toOption agent.policy
        else agent.policy := by
  unfold apply
  by_cases hnewer : agent.policy.version < config.updatedAt.toInt
  · rw [begin?_of_newer hnewer, if_pos hnewer]
    exact (policy_conclude _ _ _ _).trans (if_pos (Snapshot.isNewerThan_iff.2 hnewer))
  · rw [begin?_of_not_newer (Int.not_lt.1 hnewer), if_neg hnewer]

theorem policy_poll_of_not_delivers {state : σ} (h : (plane.pollAnswers state).delivers = false) :
    (poll plane agent state).2.1.policy = agent.policy := by
  rcases hversion : plane.fetchVersion state with ⟨version, afterVersion⟩
  rcases hconfig : plane.fetchConfig afterVersion with ⟨config, afterConfig⟩
  unfold poll
  rw [hversion]
  cases version with
  | error error => exact policy_countFailure _ _ _
  | ok version =>
    dsimp only
    split
    · rfl
    · rw [hconfig]
      cases config with
      | error error => exact policy_countFailure _ _ _
      | ok config =>
        have hdelivers : (plane.pollAnswers state).delivers = true := by
          simp only [ControlPlane.pollAnswers, hversion, hconfig]
          rfl
        rw [h] at hdelivers
        cases hdelivers

/-- A poll that gets the version and the configuration installs it if it is newer. -/
theorem policy_poll_of_delivers {state : σ} (htells : (plane.pollAnswers state).Tell config lists)
    (h : (plane.pollAnswers state).delivers = true) :
    (poll plane agent state).2.1.policy
      = if agent.policy.version < config.updatedAt.toInt then
          .ofCloud config (plane.pollAnswers state).lists.toOption agent.policy
        else agent.policy := by
  obtain ⟨version, answer, hversion, hanswer⟩ := Cloud.PollAnswers.exists_of_delivers h
  have hupdated : version.updatedAt = config.updatedAt := htells.version hversion
  obtain rfl : answer = config := htells.config hanswer
  rcases hfetched : plane.fetchVersion state with ⟨fetched, afterVersion⟩
  rcases hfound : plane.fetchConfig afterVersion with ⟨found, afterConfig⟩
  simp only [ControlPlane.pollAnswers, hfetched, hfound] at hversion hanswer ⊢
  subst hversion hanswer
  unfold poll
  simp only [hfetched, hfound, hupdated]
  split
  · rename_i hcurrent
    rw [if_neg (Int.not_lt.2 hcurrent)]
  · exact policy_apply plane .poll answer agent afterConfig

theorem policy_poll_of_not_newer {state : σ}
    (htells : (plane.pollAnswers state).Tell config lists)
    (h : config.updatedAt.toInt ≤ agent.policy.version) :
    (poll plane agent state).2.1.policy = agent.policy := by
  cases hdelivers : (plane.pollAnswers state).delivers with
  | false => exact policy_poll_of_not_delivers hdelivers
  | true => rw [policy_poll_of_delivers htells hdelivers, if_neg (Int.not_lt.2 h)]

/-- The agent after polls that begin in some states of the control plane. -/
def polls (plane : ControlPlane σ) (agent : Agent) (states : List σ) : Agent :=
  states.foldl (fun agent state => (poll plane agent state).2.1) agent

theorem policy_polls_of_not_newer {states : List σ}
    (htells : ∀ state ∈ states, (plane.pollAnswers state).Tell config lists)
    (h : config.updatedAt.toInt ≤ agent.policy.version) :
    (agent.polls plane states).policy = agent.policy := by
  induction states generalizing agent with
  | nil => rfl
  | cons state states ih =>
    obtain ⟨hstate, hrest⟩ := List.forall_mem_cons.1 htells
    have hkept : (poll plane agent state).2.1.policy = agent.policy :=
      policy_poll_of_not_newer hstate h
    exact (ih hrest (by rw [hkept]; exact h)).trans hkept

/-- The first poll that gets the version and the configuration decides. -/
theorem policy_polls {states : List σ}
    (htells : ∀ state ∈ states, (plane.pollAnswers state).Tell config lists)
    (hnewer : agent.policy.version < config.updatedAt.toInt) :
    (agent.polls plane states).policy
      = match states.find? fun state => (plane.pollAnswers state).delivers with
        | some first => .ofCloud config (plane.pollAnswers first).lists.toOption agent.policy
        | none => agent.policy := by
  induction states generalizing agent with
  | nil => rfl
  | cons state states ih =>
    obtain ⟨hstate, hrest⟩ := List.forall_mem_cons.1 htells
    cases hdelivers : (plane.pollAnswers state).delivers with
    | false =>
      -- Metrics may have changed, so the induction goes on with another agent of the same policy.
      have hkept : (poll plane agent state).2.1.policy = agent.policy :=
        policy_poll_of_not_delivers hdelivers
      rw [List.find?_cons, hdelivers, ← hkept]
      exact ih hrest (by rw [hkept]; exact hnewer)
    | true =>
      have hinstalled : (poll plane agent state).2.1.policy = _ :=
        policy_poll_of_delivers hstate hdelivers
      rw [if_pos hnewer] at hinstalled
      rw [List.find?_cons, hdelivers]
      -- From here on the version in force is that of the configuration, and no poll goes past it.
      refine (policy_polls_of_not_newer hrest ?_).trans hinstalled
      rw [hinstalled]
      exact Int.le_refl _

/-- Whether no call of a poll fails. One that finds the agent up to date asks for the version
only. -/
def pollSucceeds (plane : ControlPlane σ) (agent : Agent) (state : σ) : Bool :=
  (plane.pollAnswers state).isComplete ||
    match (plane.pollAnswers state).version with
    | .ok version => version.updatedAt.toInt ≤ agent.policy.version
    | .error _ => false

theorem isComplete_of_pollSucceeds {state : σ} (h : pollSucceeds plane agent state = true)
    (htells : (plane.pollAnswers state).Tell config lists)
    (hnewer : agent.policy.version < config.updatedAt.toInt) :
    (plane.pollAnswers state).isComplete = true := by
  refine (Bool.or_eq_true_iff.1 h).resolve_right fun hcurrent => ?_
  split at hcurrent
  · rename_i version hversion
    rw [htells.version hversion, decide_eq_true_eq] at hcurrent
    exact absurd hnewer (Int.not_lt.2 hcurrent)
  · cases hcurrent

/-- After any polls in which calls fail, and one in which none fails, the version of the
configuration is in force. The lists in force are the ones that arrived with the first poll that got
the version and the configuration, or those from before if they did not arrive then; in particular
they are those of the control plane if no such poll lacked them. -/
theorem polls_keep_first_delivery {states : List σ} {last : σ}
    (htells : ∀ state ∈ states ++ [last], (plane.pollAnswers state).Tell config lists)
    (hnewer : agent.policy.version < config.updatedAt.toInt)
    (hlast : pollSucceeds plane (agent.polls plane states) last = true) :
    let policy := (agent.polls plane (states ++ [last])).policy
    policy.version = config.updatedAt.toInt
      ∧ (∃ first, (states ++ [last]).find? (fun state => (plane.pollAnswers state).delivers)
        = some first
          ∧ policy = .ofCloud config (plane.pollAnswers first).lists.toOption agent.policy)
      ∧ ((∀ state ∈ states, (plane.pollAnswers state).delivers = true →
        (plane.pollAnswers state).lists.isOk = true) →
          policy = .ofCloud config (some lists) agent.policy) := by
  intro policy
  obtain ⟨hstates, htellsLast⟩ := List.forall_mem_append.1 htells
  have hbefore := policy_polls hstates hnewer
  obtain ⟨first, hfirst, harrives⟩ : ∃ first,
      (states ++ [last]).find? (fun state => (plane.pollAnswers state).delivers) = some first
        ∧ (first ∈ states ∨ (plane.pollAnswers first).lists.isOk = true) := by
    rw [List.find?_append]
    cases hearlier : states.find? fun state => (plane.pollAnswers state).delivers with
    | some first => exact ⟨first, rfl, .inl (List.mem_of_find?_eq_some hearlier)⟩
    | none =>
      rw [hearlier] at hbefore
      have hcomplete :=
        isComplete_of_pollSucceeds hlast (htellsLast last List.mem_cons_self)
          (by rw [hbefore]; exact hnewer)
      obtain ⟨hdelivers, hlists⟩ := Bool.and_eq_true_iff.1 hcomplete
      exact ⟨last, by rw [Option.none_or, List.find?_cons, hdelivers], .inr hlists⟩
  have hinstalled :
      policy = .ofCloud config (plane.pollAnswers first).lists.toOption agent.policy := by
    have hpolicy : policy = _ := policy_polls htells hnewer
    rw [hpolicy, hfirst]
  refine ⟨?_, ⟨first, hfirst, hinstalled⟩, fun harrive => ?_⟩
  · rw [hinstalled]
    rfl
  · have hdelivered := List.find?_some hfirst
    have hok : (plane.pollAnswers first).lists.isOk = true :=
      harrives.elim (harrive first · hdelivered) id
    rw [hinstalled, (htells first (List.mem_of_find?_eq_some hfirst)).lists_of_isOk hok]

end Agent

/-! ### A control plane in memory -/

namespace Cloud.Memory

/-- The answer to a call: the error that it was told to give, or else what is there. -/
def reply {α : Type} (memory : Memory) (operation : Operation) (answer : Except CloudError α) :
    Except CloudError α :=
  (memory.failures.lookup operation).elim answer .error

theorem answer_eq {α : Type} (memory : Memory) (operation : Operation) (event : Option Event)
    (answer : Except CloudError α) :
    memory.answer operation event answer
      = (memory.reply operation answer,
          { memory with calls := memory.calls ++ [{ time := memory.now, operation, event }] }) := by
  unfold Memory.answer reply
  cases memory.failures.lookup operation <;> rfl

theorem pollAnswers_eq (memory : Memory) :
    plane.pollAnswers memory
      = { version := memory.reply .fetchVersion (.ok memory.version)
          config := memory.reply .fetchConfig (found memory.config)
          lists := memory.reply .fetchLists (found memory.lists) } := by
  simp only [ControlPlane.pollAnswers, plane, answer_eq]
  rfl

theorem eq_of_reply_eq_ok {α : Type} {memory : Memory} {operation : Operation} {held answer : α}
    (h : memory.reply operation (.ok held) = .ok answer) : answer = held := by
  unfold reply at h
  cases hfails : memory.failures.lookup operation with
  | some error =>
    rw [hfails] at h
    cases h
  | none =>
    rw [hfails] at h
    exact (Except.ok.inj h).symm

theorem tell_pollAnswers {memory : Memory} {config : Config} {lists : FirewallLists}
    (hversion : memory.version.updatedAt = config.updatedAt) (hconfig : memory.config = some config)
    (hlists : memory.lists = some lists) : (plane.pollAnswers memory).Tell config lists := by
  rw [pollAnswers_eq, hconfig, hlists]
  refine ⟨fun h => ?_, eq_of_reply_eq_ok, eq_of_reply_eq_ok⟩
  rw [eq_of_reply_eq_ok h]
  exact hversion

end Cloud.Memory

namespace Agent

/-- The configuration does not arrive at first, and then it does, together with the lists. -/
theorem polls_keep_first_delivery_second_poll :
    let config : Config := { updatedAt := 5 }
    let lists : FirewallLists :=
      { blocklists := [{ description := "known bad", ips := ["1.2.3.0/24"] }] }
    let memory : Memory := { version := { updatedAt := 5 }, config, lists }
    let failing : Memory :=
      { memory with failures := [(.fetchConfig, .transport), (.fetchLists, .status 503)] }
    let policy := ((ofSettings {}).polls Memory.plane [failing, memory]).policy
    policy.version = 5 ∧ policy = .ofCloud config (some lists) .empty
      ∧ policy.blocklists.map Policy.Blocklist.description = ["known bad"] := by
  intro config lists memory failing policy
  have hfailing : (Memory.plane.pollAnswers failing).Tell config lists :=
    Memory.tell_pollAnswers rfl rfl rfl
  have hmemory : (Memory.plane.pollAnswers memory).Tell config lists :=
    Memory.tell_pollAnswers rfl rfl rfl
  have htells :
      ∀ state ∈ [failing] ++ [memory], (Memory.plane.pollAnswers state).Tell config lists :=
    List.forall_mem_cons.2 ⟨hfailing, List.forall_mem_singleton.2 hmemory⟩
  have hnewer : (ofSettings {}).policy.version < config.updatedAt.toInt := by decide +kernel
  obtain ⟨hversion, -, hlists⟩ := polls_keep_first_delivery htells hnewer (by decide +kernel)
  have hpolicy : policy = .ofCloud config (some lists) .empty := by
    refine hlists fun state hstate hdelivers => ?_
    obtain rfl := List.mem_singleton.1 hstate
    exact absurd hdelivers (by decide +kernel)
  exact ⟨hversion, hpolicy, by rw [hpolicy]; rfl⟩

/-- The lists do not arrive with the first poll. A second one in which no call fails does not ask
for them. -/
theorem polls_leave_lists_missing :
    let config : Config := { updatedAt := 5 }
    let lists : FirewallLists :=
      { blocklists := [{ description := "known bad", ips := ["1.2.3.0/24"] }],
        blockedUserAgents := "bytespider" }
    let memory : Memory := { version := { updatedAt := 5 }, config, lists }
    let failing : Memory := { memory with failures := [(.fetchLists, .status 503)] }
    let agent := ofSettings {}
    let policy := (agent.polls Memory.plane [failing, memory]).policy
    let intended : Snapshot := .ofCloud config (some lists) agent.policy
    agent.policy.version < config.updatedAt.toInt
      ∧ (Memory.plane.pollAnswers failing).Tell config lists
      ∧ (Memory.plane.pollAnswers memory).Tell config lists
      ∧ (Memory.plane.pollAnswers memory).isComplete = true
      ∧ policy.version = 5 ∧ intended.version = 5 ∧ policy ≠ intended
      ∧ policy.blocklists = []
      ∧ intended.blocklists.map Policy.Blocklist.description = ["known bad"]
      ∧ policy.isUserAgentBlocked "bytespider" = false
      ∧ intended.isUserAgentBlocked "bytespider" = true := by
  intro config lists memory failing agent policy intended
  have hmissing : policy.blocklists = [] := rfl
  have hheld : intended.blocklists.map Policy.Blocklist.description = ["known bad"] := rfl
  have hdiffer : policy ≠ intended := by
    intro hsame
    rw [← hsame, hmissing] at hheld
    cases hheld
  exact ⟨by decide +kernel, Memory.tell_pollAnswers rfl rfl rfl,
    Memory.tell_pollAnswers rfl rfl rfl, by decide +kernel,
    by decide +kernel, by decide +kernel, hdiffer, hmissing, hheld,
      by decide +kernel, by decide +kernel⟩

end Agent

end RequestGuard
