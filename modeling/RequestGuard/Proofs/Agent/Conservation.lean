import RequestGuard.Cloud.Memory
import RequestGuard.Proofs.Agent.Entries
import RequestGuard.Proofs.Agent.Session

/-!
# Where the statistics go

A heartbeat takes the statistics out of the collector before it sends them, and the collector starts
over whether or not the control plane accepts them. So everything that was entered is in a heartbeat
that was accepted, or in one that failed, or is still held (`Session.count_run`). Nothing is sent a
second time: what a failed heartbeat carried is lost.
-/

namespace RequestGuard

open Cloud (Call CloudError Config ControlPlane FirewallLists Heartbeat Memory Operation Origin)
open Stats (Entry Tally)

namespace Cloud

def Call.accepted? : Call → Option Stats
  | .sendEvent (.heartbeat _ stats) (.ok _) => some stats
  | _ => none

def Call.failed? : Call → Option Stats
  | .sendEvent (.heartbeat _ stats) (.error _) => some stats
  | _ => none

/-- What a counter held in some of the statistics that were sent, summed up. -/
def sent (select : Call → Option Stats) (tally : Tally) : List Call → Nat
  | [] => 0
  | call :: calls => (select call).elim 0 (fun stats => stats.count tally) + sent select tally calls

theorem sent_append (select : Call → Option Stats) (tally : Tally) (first second : List Call) :
    sent select tally (first ++ second) = sent select tally first + sent select tally second := by
  induction first with
  | nil => exact (Nat.zero_add _).symm
  | cons call calls ih =>
    rw [List.cons_append, sent, sent, ih]
    omega

theorem sent_cons_of_none {select : Call → Option Stats} {call : Call} (h : select call = none)
    (tally : Tally) (calls : List Call) :
    sent select tally (call :: calls) = sent select tally calls := by
  rw [sent, h]
  exact Nat.zero_add _

theorem sent_cons_of_some {select : Call → Option Stats} {call : Call} {stats : Stats}
    (h : select call = some stats) (tally : Tally) (calls : List Call) :
    sent select tally (call :: calls) = stats.count tally + sent select tally calls := by
  rw [sent, h]
  rfl

end Cloud

open Cloud (sent)

namespace Agent

variable {agent after : Agent} {beat beat' : Heartbeat} {origin : Origin} {operation : Operation}
  {installed : Bool}
  {calls : List Call}

theorem Responds.stats {answer : Except CloudError (Option Config)}
    (h : agent.Responds origin operation answer installed after calls) :
    after.stats = agent.stats := by
  cases h with
  | failed error => exact agent.stats_countFailure operation error
  | nothing => rfl
  | passed _ => rfl
  | installed _ lists => exact agent.stats_conclude origin _ lists

theorem Responds.sent_eq_zero {answer : Except CloudError (Option Config)}
    (h : agent.Responds origin operation answer installed after calls)
    {select : Call → Option Stats} (hselect : ∀ lists, select (.fetchLists lists) = none)
    (tally : Tally) : sent select tally calls = 0 := by
  cases h with
  | failed error => rfl
  | nothing => rfl
  | passed _ => rfl
  | installed _ lists => exact Cloud.sent_cons_of_none (hselect lists) tally []

/-- What the collector held before an exchange it still holds, or it was sent. -/
theorem Exchanged.count (h : agent.Exchanged beat origin installed beat' after calls)
    (tally : Tally) :
    sent Call.accepted? tally calls + sent Call.failed? tally calls
      + after.stats.current.count tally
      = agent.stats.current.count tally := by
  cases h with
  | started h =>
    rw [Cloud.sent_cons_of_none rfl, Cloud.sent_cons_of_none rfl, h.sent_eq_zero fun _ => rfl,
      h.sent_eq_zero fun _ => rfl, h.stats]
    omega
  | unpolled error =>
    rw [stats_countFailure]
    exact Nat.zero_add _
  | current _ => exact Nat.zero_add _
  | fetched _ h =>
    rw [Cloud.sent_cons_of_none rfl, Cloud.sent_cons_of_none rfl, Cloud.sent_cons_of_none rfl,
      Cloud.sent_cons_of_none rfl,
        h.sent_eq_zero fun _ => rfl, h.sent_eq_zero fun _ => rfl, h.stats]
    omega
  | @heartbeat answer _ _ _ h =>
    have hheld : after.stats.current.count tally = 0 := by
      rw [h.stats]
      exact Stats.count_empty tally
    have haccepted :=
      h.sent_eq_zero (fun _ => rfl : ∀ lists, Call.accepted? (.fetchLists lists) = none) tally
    have hfailed :=
      h.sent_eq_zero (fun _ => rfl : ∀ lists, Call.failed? (.fetchLists lists) = none) tally
    -- The snapshot goes to one of the two sums, and the collector is empty from then on.
    cases answer with
    | ok response =>
      rw [Cloud.sent_cons_of_some rfl, Cloud.sent_cons_of_none rfl, haccepted, hfailed, hheld]
      rfl
    | error error =>
      rw [Cloud.sent_cons_of_none rfl, Cloud.sent_cons_of_some rfl, haccepted, hfailed, hheld]
      exact Nat.zero_add _

end Agent

namespace Session

variable {ι σ : Type}

/-- What a counter holds: in the heartbeats that were accepted, in those that failed, and in the
collector. -/
def accepted (session : Session ι σ) (tally : Tally) :
    Nat := sent Call.accepted? tally session.log.calls

def failed (session : Session ι σ) (tally : Tally) :
    Nat := sent Call.failed? tally session.log.calls

def held (session : Session ι σ) (tally : Tally) :
    Nat := session.world.agent.stats.current.count tally

variable [DecidableEq ι]

def turnEntries (session : Session ι σ) : Turn ι → List Entry
  | .call action => session.world.entries action
  | .exchange _ => []

def entries (plane : ControlPlane σ) (session : Session ι σ) : List (Turn ι) → List Entry
  | [] => []
  | turn :: turns => session.turnEntries turn ++ entries plane (session.step plane turn) turns

def increments (plane : ControlPlane σ) (session : Session ι σ) (turns : List (Turn ι))
    (tally : Tally) : Nat :=
  (session.entries plane turns).countP tally.counts

theorem count_step (plane : ControlPlane σ) (session : Session ι σ) {turn : Turn ι}
    (h : turn ≠ .call .takeStats) (tally : Tally) :
    let after := session.step plane turn
    after.accepted tally + after.failed tally + after.held tally
      = session.accepted tally + session.failed tally + session.held tally
        + (session.turnEntries turn).countP tally.counts := by
  intro after
  cases turn with
  | call action =>
    have haction : action ≠ .takeStats := by
      rintro rfl
      exact h rfl
    have hheld : after.held tally = session.held tally
        + (session.world.entries action).countP tally.counts := by
      show (session.world.step action).agent.stats.current.count tally = _
      rw [session.world.stats_step haction, Stats.Collector.count_enterAll]
      rfl
    show session.accepted tally + session.failed tally + after.held tally = _
    rw [hheld]
    exact (Nat.add_assoc ..).symm
  | exchange origin =>
    obtain ⟨calls, hcalls, hexchanged⟩ := session.exists_exchanged plane origin
    have hcount := hexchanged.count tally
    have haccepted :
        after.accepted tally = session.accepted tally + sent Call.accepted? tally calls := by
      rw [accepted, accepted, ← Cloud.sent_append]
      exact congrArg _ hcalls
    have hfailed : after.failed tally = session.failed tally + sent Call.failed? tally calls := by
      rw [failed, failed, ← Cloud.sent_append]
      exact congrArg _ hcalls
    show _ = session.accepted tally + session.failed tally + session.held tally
    rw [haccepted, hfailed, held, held, ← hcount]
    show _ + after.world.agent.stats.current.count tally
      = _ + (_ + after.world.agent.stats.current.count tally)
    omega

theorem count_run (plane : ControlPlane σ) (session : Session ι σ) {turns : List (Turn ι)}
    (h : ∀ turn ∈ turns, turn ≠ .call .takeStats) (tally : Tally) :
    let after := session.run plane turns
    after.accepted tally + after.failed tally + after.held tally
      = session.accepted tally + session.failed tally + session.held tally
        + session.increments plane turns tally := by
  induction turns generalizing session with
  | nil => rfl
  | cons turn turns ih =>
    obtain ⟨hturn, hturns⟩ := List.forall_mem_cons.1 h
    have hstep := session.count_step plane hturn tally
    have hrun := ih (session.step plane turn) hturns
    have hincrements : session.increments plane (turn :: turns) tally
        = (session.turnEntries turn).countP tally.counts
          + (session.step plane turn).increments plane turns tally :=
      List.countP_append
    rw [hincrements, ← Nat.add_assoc, ← hstep]
    exact hrun

/-- As long as nobody else takes the statistics, a counter was incremented as often as the accepted
heartbeats, the failed ones and the collector say together. The failed ones are missing for the
control plane. -/
theorem increments_eq_accepted_add_failed_add_held (settings : Settings)
    (requests : ι → Request.Parts) (plane : ControlPlane σ) (state : σ) {turns : List (Turn ι)}
    (h : ∀ turn ∈ turns, turn ≠ .call .takeStats) (tally : Tally) :
    let first := start settings requests state
    let last := first.run plane turns
    first.increments plane turns tally = last.accepted tally + last.failed tally + last.held tally
      ∧ (last.accepted tally + last.held tally = first.increments plane turns tally
        ↔ last.failed tally = 0) := by
  intro first last
  have hcount : last.accepted tally + last.failed tally + last.held tally
      = first.accepted tally + first.failed tally + first.held tally
        + first.increments plane turns tally :=
    first.count_run plane h tally
  have hfresh : first.accepted tally = 0 ∧ first.failed tally = 0 ∧ first.held tally = 0 :=
    ⟨rfl, rfl, Stats.count_empty tally⟩
  constructor <;> omega

/-- The second of three heartbeats fails, with a request between any two of them and two more after
the last one. -/
theorem increments_eq_accepted_add_failed_add_held_second_heartbeat :
    let plane : ControlPlane Nat :=
      { fetchVersion := fun n => (.error .transport, n)
        fetchConfig := fun n => (.error .transport, n)
        fetchLists := fun n => (.error .transport, n)
        sendEvent := fun _ n => (if n = 1 then .error (.status 503) else .ok none, n + 1)
        passTime := fun _ n => n }
    let requests : Nat → Request.Parts := fun _ => { method := "GET", url := "/" }
    let turns : List (Turn Nat) :=
      [.exchange .heartbeat, .call (.decide 0), .exchange .heartbeat, .call (.decide 1),
        .exchange .heartbeat,
        .call (.decide 2), .call (.decide 3)]
    let first := start {} requests 0
    let last := first.run plane turns
    (∀ turn ∈ turns, turn ≠ .call .takeStats) ∧ last.accepted .requests = 1
      ∧ last.failed .requests = 1
      ∧ last.held .requests = 2 ∧ first.increments plane turns .requests = 4 := by
  intro plane requests turns first last
  have hturns : ∀ turn ∈ turns, turn ≠ .call .takeStats := by simp [turns]
  obtain ⟨hsum, -⟩ :=
    increments_eq_accepted_add_failed_add_held {} requests plane 0 hturns .requests
  have haccepted : last.accepted .requests = 1 := by decide +kernel
  have hfailed : last.failed .requests = 1 := by decide +kernel
  have hheld : last.held .requests = 2 := by decide +kernel
  refine ⟨hturns, haccepted, hfailed, hheld, hsum.trans ?_⟩
  rw [haccepted, hfailed, hheld]

/-- A request is counted, the heartbeat fails, and the request is neither reported nor held. -/
theorem request_lost_with_heartbeat :
    let memory : Memory := { failures := [(.sendEvent, .status 503)] }
    let turns : List (Turn Nat) := [.call (.decide 0), .exchange .heartbeat]
    let first := start {} (fun _ => { method := "GET", url := "/" }) memory
    let last := first.run Memory.plane turns
    first.increments Memory.plane turns .requests = 1 ∧ last.accepted .requests = 0
      ∧ last.held .requests = 0
      ∧ last.accepted .requests + last.held .requests
        ≠ first.increments Memory.plane turns .requests := by
  intro memory turns first last
  exact ⟨by decide +kernel, by decide +kernel, by decide +kernel, by decide +kernel⟩

end Session

end RequestGuard
