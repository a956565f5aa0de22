import RequestGuard.Proofs.Agent.Interleaving

/-!
# The newest configuration wins

Installations of several tasks may overtake each other. None of them is lost for good: one that
gives up or is refused has met a policy that is at least as new (`Installations.Awaits` is kept by
every move), and one that comes into force replaces an older policy as a whole. So when all
installations have ended, the newest configuration that any task has received is in force, or else
the policy from before (`Installations.converges_to_newest`).
-/

namespace RequestGuard

open Cloud (Config FirewallLists)
open Policy (Endpoint Snapshot)

theorem Keyed.mem_keys_ofList_iff {key : String} {names : List String} :
    key ∈ keys (ofList (names.map fun name => (name, ()))) ↔ key ∈ names := by
  rw [← contains_iff_mem_keys, contains, find?_ofList, Option.isSome_map, List.find?_isSome]
  simp

/-- What a snapshot takes from a configuration, whatever lists it holds. -/
structure Policy.Snapshot.TakenFrom (snapshot : Snapshot) (config : Config) : Prop where
  version : snapshot.version = config.updatedAt.toInt
  endpoints : snapshot.endpoints = config.endpoints.map Endpoint.ofCloud
  blockedUsers (id : String) : id ∈ snapshot.blockedUsers ↔ id ∈ config.blockedUserIds
  bypassed : snapshot.bypassed = .ofEntries config.bypassedIps
  block : snapshot.block = config.block.getD false

theorem Installation.takenFrom_policy (installation : Installation) (lists : Option FirewallLists) :
    (installation.policy lists).TakenFrom installation.config :=
  ⟨rfl, rfl, fun _ => Keyed.mem_keys_ofList_iff, rfl, rfl⟩

namespace Installations

variable {κ : Type} {world : Installations κ} {config : Config} {move : Move κ}

/-- The configuration that a task receives in a move. A task that waits for lists receives none. -/
def offer? (world : Installations κ) : Move κ → Option Config
  | .begins k config => if (world.begun k).isNone then some config else none
  | .ends _ _ _ => none

theorem offer?_eq_some_iff : world.offer? move = some config
    ↔ ∃ k, world.begun k = none ∧ move = .begins k config := by
  cases move with
  | ends k origin answer =>
    constructor
    · intro h
      cases h
    · rintro ⟨_, _, hmove⟩
      cases hmove
  | begins k received =>
    simp only [offer?, Option.ite_none_right_eq_some, Option.isNone_iff_eq_none, Option.some.injEq,
      Move.begins.injEq]
    constructor
    · rintro ⟨hfree, rfl⟩
      exact ⟨k, hfree, rfl, rfl⟩
    · rintro ⟨_, hfree, rfl, rfl⟩
      exact ⟨hfree, rfl⟩

/-- A configuration is at most as new as the policy in force, or its installation has begun. -/
def Awaits (world : Installations κ) (config : Config) : Prop :=
  config.updatedAt.toInt ≤ world.agent.policy.version
    ∨ ∃ k installation, world.begun k = some installation ∧ installation.config = config

variable [DecidableEq κ]

/-- The configurations that tasks receive in a run. -/
def offers : Installations κ → List (Move κ) → List Config
  | _, [] => []
  | world, move :: moves => (world.offer? move).toList ++ offers (world.step move) moves

theorem offers_concat (world : Installations κ) (moves : List (Move κ)) (move : Move κ) :
    world.offers (moves ++ [move])
      = world.offers moves ++ ((world.run moves).offer? move).toList := by
  induction moves generalizing world with
  | nil => simp [offers, run]
  | cons first moves ih =>
    rw [List.cons_append, offers, offers, ih (world.step first), List.append_assoc]
    rfl

/-! ### No configuration is lost -/

theorem version_le_step (world : Installations κ) (move : Move κ) :
    world.agent.policy.version ≤ (world.step move).agent.policy.version := by
  rcases world.policy_step move with hsame | hnewer
  · exact Int.le_of_eq (by rw [hsame])
  · exact Int.le_of_lt hnewer

theorem awaits_step_of_offer (h : world.offer? move = some config) :
    (world.step move).Awaits config := by
  obtain ⟨k, hfree, rfl⟩ := offer?_eq_some_iff.1 h
  rw [step_begins_of_none hfree]
  rcases Int.lt_or_le world.agent.policy.version config.updatedAt.toInt with hnewer | hcurrent
  · right
    exact ⟨k, _, (Function.update_self ..).trans (Agent.begin?_of_newer hnewer), rfl⟩
  · left
    exact hcurrent

theorem version_le_step_ends {k : κ} {installation : Installation}
    (h : world.begun k = some installation) (origin : Cloud.Origin)
    (answer : Except Cloud.CloudError FirewallLists) :
    installation.config.updatedAt.toInt
      ≤ (world.step (.ends k origin answer)).agent.policy.version := by
  rw [step_ends_of_some h]
  show _ ≤ (world.agent.conclude origin installation answer).2.policy.version
  rw [Agent.policy_conclude]
  split
  · exact Int.le_refl _
  · rename_i hrefused
    rw [Snapshot.isNewerThan_iff] at hrefused
    exact Int.not_lt.1 hrefused

theorem Awaits.step (h : world.Awaits config) (move : Move κ) :
    (world.step move).Awaits config := by
  rcases h with hcurrent | ⟨k, installation, hbegun, rfl⟩
  · left
    exact Int.le_trans hcurrent (world.version_le_step move)
  · cases move with
    | begins j received =>
      right
      refine ⟨k, installation, ?_, rfl⟩
      cases hother : world.begun j with
      | some waiting =>
        rw [Installations.step, hother]
        exact hbegun
      | none =>
        have hne : k ≠ j := by
          rintro rfl
          rw [hbegun] at hother
          cases hother
        rw [step_begins_of_none hother]
        exact (Function.update_of_ne hne ..).trans hbegun
    | ends j origin answer =>
      by_cases hsame : k = j
      · subst hsame
        left
        exact version_le_step_ends hbegun origin answer
      · right
        refine ⟨k, installation, ?_, rfl⟩
        cases hother : world.begun j with
        | none =>
          rw [step_ends_of_none hother]
          exact hbegun
        | some ended =>
          rw [step_ends_of_some hother]
          exact (Function.update_of_ne hsame ..).trans hbegun

theorem awaits_run (world : Installations κ) (moves : List (Move κ)) :
    ∀ config ∈ world.offers moves, (world.run moves).Awaits config := by
  induction moves using List.reverseRecOn with
  | nil => exact List.forall_mem_nil _
  | append_singleton moves move ih =>
    intro config hconfig
    rw [offers_concat, List.mem_append, Option.mem_toList] at hconfig
    rw [run_concat]
    rcases hconfig with hearlier | hoffer
    · exact (ih config hearlier).step move
    · exact awaits_step_of_offer hoffer

theorem config_mem_offers_of_begun {agent : Agent} {moves : List (Move κ)} {k : κ}
    {installation : Installation} (h : ((start agent).run moves).begun k = some installation) :
    installation.config ∈ (start agent).offers moves := by
  induction moves using List.reverseRecOn generalizing k installation with
  | nil => cases h
  | append_singleton moves move ih =>
    rw [run_concat] at h
    rw [offers_concat, List.mem_append, Option.mem_toList]
    by_cases hearlier : ((start agent).run moves).begun k = some installation
    · left
      exact ih hearlier
    · right
      obtain ⟨rfl, -⟩ := (begun_step h).resolve_left hearlier
      apply offer?_eq_some_iff.2
      refine ⟨k, ?_, rfl⟩
      -- A task that was waiting already would still wait for the lists of what it received before.
      cases hwaiting : ((start agent).run moves).begun k with
      | none => rfl
      | some waiting =>
        rw [step, hwaiting] at h
        exact absurd h hearlier

/-- A policy comes into force as a whole, from the configuration of an installation that has
begun. -/
theorem takenFrom_step (world : Installations κ) (move : Move κ) :
    (world.step move).agent.policy = world.agent.policy
      ∨ world.agent.policy.version < (world.step move).agent.policy.version
        ∧ ∃ k installation, world.begun k = some installation
          ∧ (world.step move).agent.policy.TakenFrom installation.config := by
  cases move with
  | begins k received => exact .inl (congrArg Agent.policy (world.agent_step_begins k received))
  | ends k origin answer =>
    cases hbegun : world.begun k with
    | none => exact .inl (by rw [step_ends_of_none hbegun])
    | some installation =>
      have hpolicy : (world.step (.ends k origin answer)).agent.policy = _ :=
        (congrArg (fun next => next.agent.policy) (step_ends_of_some hbegun origin answer)).trans
          (world.agent.policy_conclude origin installation answer)
      rw [hpolicy]
      split
      · rename_i hnewer
        right
        exact ⟨Snapshot.isNewerThan_iff.1 hnewer, k, installation, hbegun,
          installation.takenFrom_policy _⟩
      · left
        rfl

theorem takenFrom_run (agent : Agent) (moves : List (Move κ)) :
    ((start agent).run moves).agent.policy = agent.policy
      ∨ agent.policy.version < ((start agent).run moves).agent.policy.version
        ∧ ∃ config ∈ (start agent).offers moves,
          ((start agent).run moves).agent.policy.TakenFrom config := by
  induction moves using List.reverseRecOn with
  | nil => exact .inl rfl
  | append_singleton moves move ih =>
    rw [run_concat, offers_concat]
    rcases ((start agent).run moves).takenFrom_step move with
      hsame | ⟨hnewer, k, installation, hbegun, htaken⟩
    · rw [hsame]
      refine ih.imp id fun ⟨hlater, config, hconfig, htaken⟩ => ?_
      exact ⟨hlater, config, List.mem_append_left _ hconfig, htaken⟩
    · right
      have hinitial : agent.policy.version ≤ ((start agent).run moves).agent.policy.version := by
        rcases ih with hsame | ⟨hlater, -⟩
        · exact Int.le_of_eq (by rw [hsame])
        · exact Int.le_of_lt hlater
      refine ⟨Int.lt_of_le_of_lt hinitial hnewer, installation.config, ?_, htaken⟩
      exact List.mem_append_left _ (config_mem_offers_of_begun hbegun)

/-! ### When all installations have ended -/

theorem run_append (world : Installations κ) (before after : List (Move κ)) :
    world.run (before ++ after) = (world.run before).run after :=
  List.foldl_append ..

/-- The version in force never decreases. When every installation that tasks have begun has ended,
it is the greatest of the first one and of those that tasks have received. The policy is then taken
from one of the received configurations with that version, and it is the first policy, unchanged, if
none of them was newer. -/
theorem converges_to_newest (agent : Agent) (moves : List (Move κ)) :
    let offered := (start agent).offers moves
    let policy := ((start agent).run moves).agent.policy
    (∀ before after, moves = before ++ after →
      ((start agent).run before).agent.policy.version ≤ policy.version)
      ∧ ((∀ k, ((start agent).run moves).begun k = none) →
          (agent.policy.version :: offered.map fun config => config.updatedAt.toInt).max?
            = some policy.version
          ∧ ((∀ config ∈ offered, config.updatedAt.toInt ≤ agent.policy.version) →
            policy = agent.policy)
          ∧ ((∃ config ∈ offered, agent.policy.version < config.updatedAt.toInt) →
              ∃ config ∈ offered, policy.TakenFrom config)) := by
  intro offered policy
  have htaken : policy = agent.policy ∨ agent.policy.version < policy.version
      ∧ ∃ config ∈ offered, policy.TakenFrom config :=
    takenFrom_run agent moves
  constructor
  · rintro before after rfl
    show _ ≤ ((start agent).run (before ++ after)).agent.policy.version
    rw [run_append]
    rcases policy_run ((start agent).run before) after with hsame | hnewer
    · exact Int.le_of_eq (by rw [hsame])
    · exact Int.le_of_lt hnewer
  intro hended
  have hreached : ∀ config ∈ offered, config.updatedAt.toInt ≤ policy.version := by
    intro config hconfig
    refine ((start agent).awaits_run moves config hconfig).resolve_right ?_
    rintro ⟨k, installation, hbegun, -⟩
    rw [hended k] at hbegun
    cases hbegun
  refine ⟨?_, fun hold => ?_, fun ⟨config, hconfig, hnewer⟩ => ?_⟩
  · rw [List.max?_eq_some_iff]
    constructor
    · rcases htaken with hsame | ⟨-, config, hconfig, htaken⟩
      · rw [hsame]
        exact List.mem_cons_self
      · rw [htaken.version]
        exact List.mem_cons_of_mem _ (List.mem_map_of_mem hconfig)
    · intro version hversion
      rcases List.mem_cons.1 hversion with rfl | hversion
      · rcases htaken with hsame | ⟨hlater, -⟩
        · exact Int.le_of_eq (by rw [hsame])
        · exact Int.le_of_lt hlater
      · obtain ⟨config, hconfig, rfl⟩ := List.mem_map.1 hversion
        exact hreached config hconfig
  · apply htaken.resolve_right
    rintro ⟨hlater, config, hconfig, htaken⟩
    have hle := hold config hconfig
    rw [← htaken.version] at hle
    exact absurd hlater (Int.not_lt.2 hle)
  · refine (htaken.resolve_left fun hsame => ?_).2
    have hle := hreached config hconfig
    rw [hsame] at hle
    exact absurd hnewer (Int.not_lt.2 hle)

/-- The heartbeat overtakes the poll with the newest configuration, though it gets no lists. The
poll, which does get them, is refused, and gives up on the configuration that it receives after
that. -/
theorem converges_to_newest_overtaken :
    let newest : Config := { updatedAt := 3, blockedUserIds := ["mallory"], block := some true }
    let moves : List (Move Cloud.Origin) :=
      [.begins .poll { updatedAt := 2 }, .begins .heartbeat newest,
        .ends .heartbeat .heartbeat (.error .transport),
        .ends .poll .poll (.ok {}), .begins .poll { updatedAt := 1 }]
    let last := (start (Agent.ofSettings {})).run moves
    (start (Agent.ofSettings {})).offers moves = [{ updatedAt := 2 }, newest, { updatedAt := 1 }]
      ∧ (∀ k, last.begun k = none)
      ∧ last.agent.policy.version = 3 ∧ last.agent.policy.TakenFrom newest
      ∧ ((start (Agent.ofSettings {})).run (moves.take 2)).agent.policy.version
        ≤ last.agent.policy.version := by
  intro newest moves last
  have hoffers : (start (Agent.ofSettings {})).offers moves
      = [{ updatedAt := 2 }, newest, { updatedAt := 1 }] := by
    decide +kernel
  have hended : ∀ k, last.begun k = none := by
    intro k
    cases k <;> rfl
  obtain ⟨hgrows, hsettled⟩ := converges_to_newest (Agent.ofSettings {}) moves
  obtain ⟨hmax, -, hnewest⟩ := hsettled hended
  rw [hoffers] at hmax hnewest
  have hversion : last.agent.policy.version = 3 :=
    Option.some.inj (hmax.symm.trans (by decide +kernel))
  obtain ⟨config, hconfig, htaken⟩ := hnewest ⟨newest, by simp, by decide +kernel⟩
  refine ⟨hoffers, hended, hversion, ?_,
    hgrows (moves.take 2) (moves.drop 2) (List.take_append_drop 2 moves).symm⟩
  -- Only one of the received configurations has the version in force.
  have hnew : config.updatedAt.toInt = 3 := htaken.version.symm.trans hversion
  rcases List.mem_cons.1 hconfig with rfl | hconfig
  · exact absurd hnew (by decide)
  rcases List.mem_cons.1 hconfig with rfl | hconfig
  · exact htaken
  · obtain rfl := List.mem_singleton.1 hconfig
    exact absurd hnew (by decide)

end Installations

end RequestGuard
