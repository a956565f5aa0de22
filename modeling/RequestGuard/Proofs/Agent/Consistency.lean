import RequestGuard.Proofs.Agent.Conservation
import RequestGuard.Proofs.Stats.Consistency

/-!
# The statistics of an agent fit together

Whatever an agent is asked to do, the entries that it makes keep the relations between the counters:
a decision enters the request before it enters what became of it, and nothing else enters requests
(`World.nested_entries`). An exchange with the control plane leaves the counters alone or starts
over. So the statistics are consistent after every run of an agent, and so is each snapshot of them,
whoever takes it (`Session.statistics_consistent`).
-/

namespace RequestGuard

open Cloud (Call CloudError Config ControlPlane Heartbeat Origin)
open Stats (Entry Nested)

namespace Agent

variable {Args : Type} (agent : Agent)

theorem nested_decisionEntries (decision : Option Refusal) : Nested (decisionEntries decision) := by
  cases decision with
  | none => exact ⟨by decide, by decide⟩
  | some refusal =>
    rw [decisionEntries]
    cases refusal.isRateLimited <;> exact ⟨by decide, by decide⟩

theorem nested_decideEntries (context : Context) : Nested (agent.decideEntries context) := by
  unfold decideEntries
  split
  · exact ⟨Nat.le_refl _, Nat.le_refl _⟩
  · exact nested_decisionEntries _

variable {agent}

theorem isSome_operation?_of_mem_searchEntries {context : Context} {operation : String}
    {detector : Detector Args} {args : Args} {defer : Bool} {entry : Entry}
    (h : entry ∈ agent.searchEntries context operation detector args defer) :
    entry.operation?.isSome := by
  rcases List.mem_append.1 h with hfailure | hattack
  · rw [List.eq_of_mem_replicate hfailure]
    rfl
  · split at hattack
    · rw [List.mem_singleton.1 hattack]
      rfl
    · cases hattack

theorem isSome_operation?_of_mem_scanEntries {context : Option Context} {operation : String}
    {detector : Detector Args} {args : Args} {defer : Bool} {entry : Entry}
    (h : entry ∈ agent.scanEntries context operation detector args defer) :
    entry.operation?.isSome := by
  unfold scanEntries at h
  split at h
  · cases h
  · rcases List.mem_cons.1 h with rfl | hrest
    · rfl
    · cases context with
      | none => cases hrest
      | some context =>
        dsimp only at hrest
        split at hrest
        · cases hrest
        · split at hrest
          · split at hrest
            · cases hrest
            · rw [List.mem_singleton.1 hrest]
              rfl
          · exact isSome_operation?_of_mem_searchEntries hrest

end Agent

namespace World

variable {ι : Type}

/-- Each request that a call enters as limited it enters as aborted, and each of those as a
request. -/
theorem nested_entries (world : World ι) (action : Action ι) : Nested (world.entries action) := by
  cases action with
  | decide i => exact world.agent.nested_decideEntries (world.contexts i)
  | scan now i operation detector args defer =>
    refine Stats.nested_of_not_mem ?_ ?_
    · intro hmem
      cases Agent.isSome_operation?_of_mem_scanEntries hmem
    · intro hmem
      cases Agent.isSome_operation?_of_mem_scanEntries hmem
  | setUser i id name =>
    rw [entries, Agent.setUserEntries]
    split
    · split <;> exact Stats.nested_of_not_mem (by simp) (by simp)
    · exact Stats.nested_of_not_mem (by simp) (by simp)
  | completed method route status =>
    rw [entries, Agent.completedEntries]
    split <;> exact Stats.nested_of_not_mem (by simp) (by simp)
  | connected hostname port =>
    rw [entries, Agent.connectedEntries]
    split <;> exact Stats.nested_of_not_mem (by simp) (by simp)
  | setGroup _ _ | install _ | advance | setDisabled _ | takeStats =>
    exact ⟨Nat.le_refl _, Nat.le_refl _⟩

variable [DecidableEq ι]

theorem consistent_step {world : World ι} (h : world.agent.stats.current.Consistent)
    (action : Action ι) :
    (world.step action).agent.stats.current.Consistent := by
  by_cases htake : action = .takeStats
  · subst htake
    exact Stats.consistent_empty
  · rw [world.stats_step htake]
    exact h.enterAll (world.nested_entries action)

end World

namespace Cloud

def Call.heartbeat? : Call → Option Stats
  | .sendEvent (.heartbeat _ stats) _ => some stats
  | _ => none

end Cloud

namespace Agent

variable {agent after : Agent} {beat beat' : Heartbeat} {origin : Origin} {installed : Bool}
  {calls : List Call}

theorem Responds.heartbeats_eq_nil {operation : Cloud.Operation}
    {answer : Except CloudError (Option Config)}
    (h : agent.Responds origin operation answer installed after calls) :
    calls.filterMap Call.heartbeat? = [] := by
  cases h <;> rfl

/-- An exchange leaves the statistics alone, or it sends them and starts over. -/
theorem Exchanged.stats_or (h : agent.Exchanged beat origin installed beat' after calls) :
    (after.stats = agent.stats ∧ calls.filterMap Call.heartbeat? = [])
      ∨ (after.stats = agent.stats.snapshot.2
        ∧ calls.filterMap Call.heartbeat? = [agent.stats.snapshot.1]) := by
  cases h with
  | started h => exact .inl ⟨h.stats, h.heartbeats_eq_nil⟩
  | unpolled error => exact .inl ⟨agent.stats_countFailure .fetchVersion error, rfl⟩
  | current _ => exact .inl ⟨rfl, rfl⟩
  | fetched _ h => exact .inl ⟨h.stats, h.heartbeats_eq_nil⟩
  | heartbeat h => exact .inr ⟨h.stats, congrArg (List.cons _) h.heartbeats_eq_nil⟩

end Agent

namespace Session

variable {ι σ : Type}

/-- The statistics that were sent to the control plane, whether or not it accepted them. -/
def sentStats (session : Session ι σ) : List Stats := session.log.calls.filterMap Call.heartbeat?

/-- What an agent holds and what it has sent is consistent. -/
structure StatsConsistent (session : Session ι σ) : Prop where
  held : session.world.agent.stats.current.Consistent
  sent {stats : Stats} (hmem : stats ∈ session.sentStats) : stats.Consistent

variable [DecidableEq ι]

/-- The snapshot that is taken in a step, by a caller of the agent or for a heartbeat. -/
def taken? (session : Session ι σ) : Turn ι → Option Stats
  | .call .takeStats | .exchange .heartbeat => some session.world.agent.stats.snapshot.1
  | _ => none

def snapshots (plane : ControlPlane σ) (session : Session ι σ) : List (Turn ι) → List Stats
  | [] => []
  | turn :: turns => (session.taken? turn).toList ++ snapshots plane (session.step plane turn) turns

theorem StatsConsistent.step {session : Session ι σ} (h : session.StatsConsistent)
    (plane : ControlPlane σ) (turn : Turn ι) : (session.step plane turn).StatsConsistent := by
  cases turn with
  | call action => exact ⟨World.consistent_step h.held action, h.sent⟩
  | exchange origin =>
    obtain ⟨calls, hcalls, hexchanged⟩ := session.exists_exchanged plane origin
    have hlog : (session.step plane (.exchange origin)).sentStats
        = session.sentStats ++ calls.filterMap Call.heartbeat? :=
      (congrArg (List.filterMap Call.heartbeat?) hcalls).trans List.filterMap_append
    rcases hexchanged.stats_or with ⟨hstats, hsent⟩ | ⟨hstats, hsent⟩
    · refine ⟨hstats ▸ h.held, fun hmem => h.sent ?_⟩
      rwa [hlog, hsent, List.append_nil] at hmem
    · refine ⟨hstats ▸ Stats.consistent_empty, fun hmem => ?_⟩
      rw [hlog, hsent, List.mem_append, List.mem_singleton] at hmem
      rcases hmem with hold | rfl
      · exact h.sent hold
      · exact h.held

theorem StatsConsistent.run {session : Session ι σ} (h : session.StatsConsistent)
    (plane : ControlPlane σ) (turns : List (Turn ι)) :
    (session.run plane turns).StatsConsistent
      ∧ ∀ stats ∈ session.snapshots plane turns, stats.Consistent := by
  induction turns generalizing session with
  | nil => exact ⟨h, by simp [snapshots]⟩
  | cons turn turns ih =>
    obtain ⟨hlast, htaken⟩ := ih (h.step plane turn)
    refine ⟨hlast, fun stats hmem => ?_⟩
    rcases List.mem_append.1 hmem with hfirst | hrest
    · have hheld : stats = session.world.agent.stats.snapshot.1 := by
        unfold taken? at hfirst
        split at hfirst
        · exact List.mem_singleton.1 hfirst
        · exact List.mem_singleton.1 hfirst
        · cases hfirst
      rw [hheld]
      exact h.held
    · exact htaken stats hrest

/-- After every run of a new agent its statistics are consistent, and so are all snapshots that were
taken on the way and all statistics that were sent. -/
theorem statistics_consistent (settings : Settings) (requests : ι → Request.Parts)
    (plane : ControlPlane σ) (state : σ) (turns : List (Turn ι)) :
    let first := start settings requests state
    let last := first.run plane turns
    last.world.agent.stats.current.Consistent
      ∧ (∀ stats ∈ first.snapshots plane turns, stats.Consistent)
      ∧ ∀ stats ∈ last.sentStats, stats.Consistent := by
  intro first last
  have hfirst : first.StatsConsistent := ⟨Stats.consistent_empty, fun hmem => by cases hmem⟩
  obtain ⟨hlast, htaken⟩ := hfirst.run plane turns
  exact ⟨hlast.held, htaken, fun _ hmem => hlast.sent hmem⟩

end Session

end RequestGuard
