import Mathlib.Data.List.Induction
import Mathlib.Logic.Function.Basic
import RequestGuard.Agent.Sync

/-!
# Installations at the same time

The tasks of an agent install configurations on their own, and each installation waits for the lists
of the firewall between its two steps. `Installations` is an agent together with the installations
that have begun, and a `Move` is one of the two steps of any of them. A task that waits for lists
does not begin another installation.

The policy in force only ever gets newer (`Installations.policy_run`). An installation that gets no
lists carries on those of the policy that was in force when it began, which another installation may
have replaced.
-/

namespace RequestGuard

open Cloud (CloudError Config FirewallLists Origin)
open Policy (Snapshot)

/-- An agent, and the installations that tasks have begun and not yet ended. -/
structure Installations (κ : Type) where
  agent : Agent
  begun : κ → Option Installation

namespace Installations

/-- A step of an installation: a task has received a configuration, or has its answer about the
lists. -/
inductive Move (κ : Type) where
  | begins (k : κ) (config : Config)
  | ends (k : κ) (origin : Origin) (answer : Except CloudError FirewallLists)

variable {κ : Type}

def start (agent : Agent) : Installations κ where
  agent
  begun _ := none

variable [DecidableEq κ]

def step (world : Installations κ) : Move κ → Installations κ
  | .begins k config =>
    match world.begun k with
    | none => { world with begun := Function.update world.begun k (world.agent.begin? config) }
    | some _ => world
  | .ends k origin answer =>
    match world.begun k with
    | none => world
    | some installation =>
      { agent := (world.agent.conclude origin installation answer).2
        begun := Function.update world.begun k none }

def run (world : Installations κ) (moves : List (Move κ)) :
    Installations κ := moves.foldl step world

theorem run_concat (world : Installations κ) (moves : List (Move κ)) (move : Move κ) :
    world.run (moves ++ [move]) = (world.run moves).step move := by
  rw [run, run, List.foldl_append]
  rfl

variable {world : Installations κ}

theorem step_begins_of_none {k : κ} (h : world.begun k = none) (config : Config) :
    world.step (.begins k config)
      = { world with begun := Function.update world.begun k (world.agent.begin? config) } := by
  rw [step, h]

theorem step_ends_of_some {k : κ} {installation : Installation}
    (h : world.begun k = some installation) (origin : Origin)
    (answer : Except CloudError FirewallLists) :
    world.step (.ends k origin answer)
      = { agent := (world.agent.conclude origin installation answer).2
          begun := Function.update world.begun k none } := by
  rw [step, h]

theorem step_ends_of_none {k : κ} (h : world.begun k = none) (origin : Origin)
    (answer : Except CloudError FirewallLists) : world.step (.ends k origin answer) = world := by
  rw [step, h]

theorem agent_step_begins (world : Installations κ) (k : κ) (config : Config) :
    (world.step (.begins k config)).agent = world.agent := by
  rw [step]
  split <;> rfl

/-- An installation that nothing comes between takes these two steps. -/
theorem agent_run_eq_apply {σ : Type} (plane : Cloud.ControlPlane σ) (state : σ) {k : κ}
    (h : world.begun k = none) (origin : Origin) (config : Config) :
    (world.run [.begins k config, .ends k origin (plane.fetchLists state).1]).agent
      = (Agent.apply plane origin config world.agent state).2.1 := by
  show ((world.step (.begins k config)).step (.ends k origin (plane.fetchLists state).1)).agent = _
  rw [step_begins_of_none h, Agent.apply]
  cases hbegin : world.agent.begin? config with
  | none => rw [step_ends_of_none (Function.update_self ..)]
  | some installation => rw [step_ends_of_some (Function.update_self ..)]

theorem policy_step (world : Installations κ) (move : Move κ) :
    (world.step move).agent.policy = world.agent.policy
      ∨ world.agent.policy.version < (world.step move).agent.policy.version := by
  cases move with
  | begins k config => exact .inl (congrArg Agent.policy (world.agent_step_begins k config))
  | ends k origin answer =>
    cases hbegun : world.begun k with
    | none => exact .inl (by rw [step_ends_of_none hbegun])
    | some installation =>
      rw [step_ends_of_some hbegun]
      dsimp only
      rw [Agent.policy_conclude]
      split
      · rename_i hnewer
        exact .inr (Snapshot.isNewerThan_iff.1 hnewer)
      · exact .inl rfl

/-- The policy in force stays until a newer one takes its place. -/
theorem policy_run (world : Installations κ) (moves : List (Move κ)) :
    (world.run moves).agent.policy = world.agent.policy
      ∨ world.agent.policy.version < (world.run moves).agent.policy.version := by
  induction moves using List.reverseRecOn with
  | nil => exact .inl rfl
  | append_singleton moves move ih =>
    rw [run_concat]
    exact Snapshot.eq_or_version_lt_trans ih ((world.run moves).policy_step move)

theorem begun_step {k : κ} {installation : Installation} {move : Move κ}
    (h : (world.step move).begun k = some installation) :
    world.begun k = some installation
      ∨ move = .begins k installation.config ∧ installation.previous = world.agent.policy := by
  cases move with
  | begins j config =>
    cases hbegun : world.begun j with
    | some _ =>
      rw [step, hbegun] at h
      exact .inl h
    | none =>
      rw [step_begins_of_none hbegun] at h
      dsimp only at h
      by_cases hsame : k = j
      · subst hsame
        rw [Function.update_self] at h
        obtain ⟨-, rfl⟩ := Agent.begin?_eq_some_iff.1 h
        exact .inr ⟨rfl, rfl⟩
      · rw [Function.update_of_ne hsame] at h
        exact .inl h
  | ends j origin answer =>
    cases hbegun : world.begun j with
    | none =>
      rw [step_ends_of_none hbegun] at h
      exact .inl h
    | some ended =>
      rw [step_ends_of_some hbegun] at h
      dsimp only at h
      by_cases hsame : k = j
      · subst hsame
        rw [Function.update_self] at h
        cases h
      · rw [Function.update_of_ne hsame] at h
        exact .inl h

/-- An installation began at some time, and kept the policy that was in force then. -/
theorem exists_begins_of_begun {agent : Agent} {moves : List (Move κ)} {k : κ}
    {installation : Installation} (h : ((start agent).run moves).begun k = some installation) :
    ∃ before between, moves = before ++ .begins k installation.config :: between
      ∧ installation.previous = ((start agent).run before).agent.policy := by
  induction moves using List.reverseRecOn with
  | nil => cases h
  | append_singleton moves move ih =>
    rw [run_concat] at h
    -- What is begun at the end of a run was begun before its last move, or begins with it.
    obtain hearlier | ⟨rfl, hprevious⟩ := begun_step h
    · obtain ⟨before, between, rfl, hprevious⟩ := ih hearlier
      exact ⟨before, between ++ [move], by rw [List.append_assoc]; rfl, hprevious⟩
    · exact ⟨moves, [], rfl, hprevious⟩

/-- The policy that an installation keeps is in force until a newer one takes its place. -/
theorem previous_of_begun {agent : Agent} {moves : List (Move κ)} {k : κ}
    {installation : Installation} (h : ((start agent).run moves).begun k = some installation) :
    ((start agent).run moves).agent.policy = installation.previous
      ∨ installation.previous.version < ((start agent).run moves).agent.policy.version := by
  obtain ⟨before, between, rfl, hprevious⟩ := exists_begins_of_begun h
  have hrun : (start agent).run (before ++ .begins k installation.config :: between)
      = (((start agent).run before).step (.begins k installation.config)).run between :=
    List.foldl_append ..
  have hkept : (((start agent).run before).step (.begins k installation.config)).agent.policy
      = installation.previous := by
    rw [agent_step_begins, hprevious]
  rw [hrun, ← hkept]
  exact policy_run _ between

/-- An installation that gets no lists but comes into force carries on the lists of the policy that
was in force when it began. These are the lists of the policy that it replaces, unless a newer
policy has come into force in between. -/
theorem lists_of_conclude_error (agent : Agent) (moves : List (Move κ)) {k : κ}
    {installation : Installation} (hbegun : ((start agent).run moves).begun k = some installation)
    (origin : Origin) (error : CloudError)
    (hinstalls : (((start agent).run moves).agent.conclude origin installation (.error error)).1
      = true) :
    let replaced := ((start agent).run moves).agent.policy
    let policy := (((start agent).run moves).step (.ends k origin (.error error))).agent.policy
    (∃ before between, moves = before ++ .begins k installation.config :: between
        ∧ policy.blocklists = ((start agent).run before).agent.policy.blocklists
        ∧ policy.blockedUserAgents = ((start agent).run before).agent.policy.blockedUserAgents)
      ∧ (policy.blocklists = replaced.blocklists
        ∧ policy.blockedUserAgents = replaced.blockedUserAgents
        ∨ installation.previous.version < replaced.version) := by
  intro replaced policy
  have hpolicy : policy = installation.policy none := by
    rw [Agent.fst_conclude] at hinstalls
    show (((start agent).run moves).step _).agent.policy = _
    rw [step_ends_of_some hbegun]
    exact (Agent.policy_conclude ..).trans (if_pos hinstalls)
  have hblocklists : policy.blocklists = installation.previous.blocklists := by
    rw [hpolicy]
    rfl
  have huserAgents : policy.blockedUserAgents = installation.previous.blockedUserAgents := by
    rw [hpolicy]
    rfl
  constructor
  · obtain ⟨before, between, hmoves, hprevious⟩ := exists_begins_of_begun hbegun
    exact ⟨before, between, hmoves, by rw [hblocklists, hprevious], by rw [huserAgents, hprevious]⟩
  · obtain hsame | hnewer := previous_of_begun hbegun
    · exact .inl ⟨by rw [hblocklists, ← hsame], by rw [huserAgents, ← hsame]⟩
    · exact .inr hnewer

/-- The lists arrive with the first configuration and not with the second one, while another task
receives the first configuration again. -/
theorem lists_of_conclude_error_second_config :
    let lists : FirewallLists :=
      { blocklists := [{ description := "known bad", ips := ["1.2.3.0/24"] }],
        blockedUserAgents := "bytespider" }
    let moves : List (Move Origin) :=
      [.begins .poll { updatedAt := 1 }, .ends .poll .poll (.ok lists),
        .begins .poll { updatedAt := 2 },
        .begins .heartbeat { updatedAt := 1 }]
    let world := (start (Agent.ofSettings {})).run moves
    let policy := (world.step (.ends .poll .poll (.error (.status 503)))).agent.policy
    policy.version = 2 ∧ world.agent.policy.version = 1
      ∧ policy.blocklists = world.agent.policy.blocklists
      ∧ policy.blockedUserAgents = world.agent.policy.blockedUserAgents
      ∧ policy.blocklists.map Policy.Blocklist.description = ["known bad"] := by
  intro lists moves world policy
  let installation : Installation :=
    { config := { updatedAt := 2 }
      previous := ((start (Agent.ofSettings {})).run (moves.take 2)).agent.policy }
  have hbegun : world.begun .poll = some installation := rfl
  have hinstalls : (world.agent.conclude .poll installation (.error (.status 503))).1
      = true := by decide +kernel
  have hversion : ¬ installation.previous.version < world.agent.policy.version := by decide +kernel
  obtain ⟨-, hlists⟩ :=
    lists_of_conclude_error (Agent.ofSettings {}) moves hbegun .poll (.status 503) hinstalls
  obtain ⟨hblocklists, huserAgents⟩ := hlists.resolve_right hversion
  exact ⟨rfl, rfl, hblocklists, huserAgents, rfl⟩

/-- The poll has received a newer configuration when the heartbeat receives one and installs it with
its lists. The poll gets no lists, and carries on those from before. -/
theorem lists_lost_to_late_installation :
    let lists : FirewallLists :=
      { blocklists := [{ description := "known bad", ips := ["1.2.3.0/24"] }],
        blockedUserAgents := "bytespider" }
    let moves : List (Move Origin) :=
      [.begins .poll { updatedAt := 2 }, .begins .heartbeat { updatedAt := 1 },
        .ends .heartbeat .heartbeat (.ok lists)]
    let world := (start (Agent.ofSettings {})).run moves
    let last := world.step (.ends .poll .poll (.error (.status 503)))
    world.agent.policy.version = 1 ∧ last.agent.policy.version = 2
      ∧ world.agent.policy.blocklists.map Policy.Blocklist.description = ["known bad"]
      ∧ last.agent.policy.blocklists = []
      ∧ world.agent.policy.isUserAgentBlocked "bytespider" = true
      ∧ last.agent.policy.isUserAgentBlocked "bytespider" = false := by
  exact ⟨rfl, rfl, rfl, rfl, by decide +kernel, by decide +kernel⟩

end Installations

end RequestGuard
