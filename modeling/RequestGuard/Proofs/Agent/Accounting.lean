import Mathlib.Algebra.GroupWithZero.Nat
import RequestGuard.Proofs.Agent.Reported

/-!
# Accounting for attacks

A `Watch` is a world together with all that was taken out of it: the snapshots of its statistics,
and the events that the receiver of its channel got. Of an attack that is reported there are three
traces in it, in the statistics, in the events and in the answer of the call. They agree over every
run, whatever is scanned, deferred, installed and switched in between (`Watch.attacks_accounted`):
the counters hold the reported attacks, the events are those of the reported attacks that the
throttle let pass, in their order, and the calls that fail are those whose attack is blocked.
-/

namespace RequestGuard

open Cloud (Event)
open Stats (AttackTally)

/-- A world, the snapshots that were taken of its statistics, and the events that its receiver
got. -/
structure Watch (ι : Type) where
  world : World ι
  taken : List Stats := []
  received : List Event := []

/-- What happens to a world that is watched: a call, or the receiving end of its channel is handed
out, gets the oldest event, or is dropped. -/
inductive Watch.Move (ι : Type) : Type 1 where
  | call (action : Action ι)
  | takeReceiver
  | receive
  | dropReceiver

def Watch.Move.action? {ι : Type} : Move ι → Option (Action ι)
  | .call action => some action
  | _ => none

namespace Watch

variable {ι : Type}

def start (settings : Settings) (requests : ι → Request.Parts) : Watch ι where
  world := .start settings requests

def channel (watch : Watch ι) : Channel := watch.world.agent.channel

def setChannel (watch : Watch ι) (channel : Channel) : Watch ι :=
  { watch with world := { watch.world with agent := { watch.world.agent with channel } } }

/-- What a counter of attacks says in all the snapshots and at present, summed up. -/
def attackCount (watch : Watch ι) (tally : AttackTally) : Nat :=
  (watch.taken.map fun stats => stats.attackCount tally).sum
    + watch.world.agent.stats.current.attackCount tally

def snapshot? (watch : Watch ι) : Action ι → Option Stats
  | .takeStats => some watch.world.agent.stats.snapshot.1
  | _ => none

theorem Move.call_or_not (move : Move ι) :
    (∃ action, move = .call action) ∨ move.action? = none := by
  cases move with
  | call action => exact .inl ⟨action, rfl⟩
  | _ => exact .inr rfl

variable [DecidableEq ι]

def step (watch : Watch ι) : Move ι → Watch ι
  | .call action =>
    { watch with
      world := watch.world.step action
      taken := watch.taken ++ (watch.snapshot? action).toList }
  | .takeReceiver => watch.setChannel watch.channel.take.2
  | .receive =>
    match watch.channel.queue with
    | [] => watch
    | event :: queue =>
      { watch.setChannel { watch.channel with queue } with received := watch.received ++ [event] }
  | .dropReceiver => watch.setChannel watch.channel.drop

def run (watch : Watch ι) (moves : List (Move ι)) : Watch ι := moves.foldl step watch

/-- The calls of a run, each with the world in which it is made. -/
def calls (watch : Watch ι) : List (Move ι) → List (World ι × Action ι)
  | [] => []
  | move :: moves =>
    (move.action?.map fun action => (watch.world, action)).toList ++ (watch.step move).calls moves

/-- What the calls of a run are, one after the other. -/
def trace {α : Type} (watch : Watch ι) (read : World ι → Action ι → Option α)
    (moves : List (Move ι)) : List α :=
  (watch.calls moves).filterMap fun call => read call.1 call.2

/-- But for calls, moves change the channel and what was received. An event is received when it
leaves the queue. -/
theorem step_of_not_call (watch : Watch ι) {move : Move ι} (h : move.action? = none) :
    ∃ channel received, watch.step move = { watch.setChannel channel with received }
      ∧ (watch.channel.receiver = .dropped → channel.receiver = .dropped)
      ∧ (channel.receiver ≠ .dropped →
        received ++ channel.queue = watch.received ++ watch.channel.queue) := by
  cases move with
  | call action => cases h
  | takeReceiver =>
    refine ⟨watch.channel.take.2, watch.received, rfl, fun hdropped => ?_, fun _ => ?_⟩
    · rw [Channel.take, hdropped]
      exact hdropped
    · rw [Channel.take]
      split <;> rfl
  | receive =>
    rw [step]
    cases hqueue : watch.channel.queue with
    | nil => exact ⟨watch.channel, watch.received, rfl, id, fun _ => by rw [hqueue]⟩
    | cons event queue =>
      exact ⟨{ watch.channel with queue }, watch.received ++ [event], rfl, id, fun _ => by simp⟩
  | dropReceiver =>
    exact ⟨watch.channel.drop, watch.received, rfl, fun _ => rfl, fun hkept => absurd rfl hkept⟩

variable {settings : Settings} {requests : ι → Request.Parts} {watch : Watch ι}

theorem coherent_step (h : watch.world.Coherent settings requests) (move : Move ι) :
    (watch.step move).world.Coherent settings requests := by
  obtain ⟨action, rfl⟩ | hother := move.call_or_not
  · exact h.step action
  · obtain ⟨channel, received, hstep, -, -⟩ := watch.step_of_not_call hother
    rw [hstep]
    exact h.agent rfl

theorem attackCount_call (h : watch.world.Coherent settings requests) (action : Action ι)
    (tally : AttackTally) :
    (watch.step (.call action)).attackCount tally
      = watch.attackCount tally + (watch.world.reported? action).toList.countP tally.counts := by
  rw [← World.countP_entries h]
  by_cases htaken : action = .takeStats
  · -- The present counters move over to the snapshots and start again at zero.
    subst htaken
    show ((watch.taken ++ [watch.world.agent.stats.current]).map
      fun stats => stats.attackCount tally).sum
      + Stats.attackCount {} tally = watch.attackCount tally + 0
    rw [List.map_append, List.sum_append, Stats.attackCount_empty]
    rfl
  · have htaken' : watch.taken ++ (watch.snapshot? action).toList = watch.taken := by
      cases action with
      | takeStats => exact absurd rfl htaken
      | _ => exact List.append_nil _
    have hcount : (watch.world.step action).agent.stats.current.attackCount tally
        = watch.world.agent.stats.current.attackCount tally
          + (watch.world.entries action).countP tally.countsEntry := by
      rw [watch.world.stats_step htaken, Stats.Collector.attackCount_enterAll]
    rw [attackCount, attackCount, step]
    dsimp only
    rw [htaken', hcount, Nat.add_assoc]

theorem receiver_step_of_dropped (h : watch.world.Coherent settings requests)
    (hdropped : watch.channel.receiver = .dropped) (move : Move ι) :
    (watch.step move).channel.receiver = .dropped := by
  obtain ⟨action, rfl⟩ | hother := move.call_or_not
  · show (watch.world.step action).agent.channel.receiver = .dropped
    rw [World.channel_step h]
    cases watch.world.posted? action with
    | none => exact hdropped
    | some event =>
      rw [Option.elim_some, Channel.send]
      split <;> exact hdropped
  · obtain ⟨channel, received, hstep, hstays, -⟩ := watch.step_of_not_call hother
    rw [hstep]
    exact hstays hdropped

/-- While there is a receiver, what it got and what waits for it grow by the event that a call
queues. -/
theorem events_call (h : watch.world.Coherent settings requests)
    (hkept : watch.channel.receiver ≠ .dropped) (action : Action ι) :
    (watch.step (.call action)).channel.queue
      = watch.channel.queue ++ (watch.world.posted? action).toList := by
  show (watch.world.step action).agent.channel.queue = _
  rw [World.channel_step h]
  cases watch.world.posted? action with
  | none => exact (List.append_nil _).symm
  | some event =>
    rw [Option.elim_some, Channel.send]
    exact congrArg Channel.queue (if_neg hkept)

/-! ### All moves -/

theorem calls_call (watch : Watch ι) (action : Action ι) (moves : List (Move ι)) :
    watch.calls (.call action :: moves)
      = (watch.world, action) :: (watch.step (.call action)).calls moves :=
  rfl

theorem calls_of_not_call (watch : Watch ι) {move : Move ι} (h : move.action? = none)
    (moves : List (Move ι)) :
    watch.calls (move :: moves) = (watch.step move).calls moves := by
  rw [calls, h]
  rfl

theorem trace_call {α : Type} (watch : Watch ι) (read : World ι → Action ι → Option α)
    (action : Action ι) (moves : List (Move ι)) :
    watch.trace read (.call action :: moves)
      = (read watch.world action).toList ++ (watch.step (.call action)).trace read moves := by
  rw [trace, calls_call, List.filterMap_cons]
  cases read watch.world action <;> rfl

theorem trace_of_not_call {α : Type} (watch : Watch ι) (read : World ι → Action ι → Option α)
    {move : Move ι} (h : move.action? = none) (moves : List (Move ι)) :
    watch.trace read (move :: moves) = (watch.step move).trace read moves := by
  rw [trace, watch.calls_of_not_call h]
  rfl

theorem attackCount_run (h : watch.world.Coherent settings requests) (moves : List (Move ι))
    (tally : AttackTally) :
    (watch.run moves).attackCount tally
      = watch.attackCount tally + (watch.trace World.reported? moves).countP tally.counts := by
  induction moves generalizing watch with
  | nil => rfl
  | cons move moves ih =>
    have hrun : (watch.run (move :: moves)).attackCount tally
        = (watch.step move).attackCount tally
          + ((watch.step move).trace World.reported? moves).countP tally.counts :=
      ih (coherent_step h move)
    obtain ⟨action, rfl⟩ | hother := move.call_or_not
    · rw [hrun, attackCount_call h, trace_call, List.countP_append, Nat.add_assoc]
    · obtain ⟨channel, received, hstep, -, -⟩ := watch.step_of_not_call hother
      rw [hrun, trace_of_not_call _ _ hother, hstep]
      rfl

theorem receiver_run_of_dropped (h : watch.world.Coherent settings requests)
    (hdropped : watch.channel.receiver = .dropped) (moves : List (Move ι)) :
    (watch.run moves).channel.receiver = .dropped := by
  induction moves generalizing watch with
  | nil => exact hdropped
  | cons move moves ih => exact ih (coherent_step h move) (receiver_step_of_dropped h hdropped move)

theorem events_run (h : watch.world.Coherent settings requests) {moves : List (Move ι)}
    (hkept : (watch.run moves).channel.receiver ≠ .dropped) :
    (watch.run moves).received ++ (watch.run moves).channel.queue
      = watch.received ++ watch.channel.queue ++ watch.trace World.posted? moves := by
  -- A dropped receiver does not come back, so one that is there at the end was there before each
  -- move.
  induction moves generalizing watch with
  | nil => exact (List.append_nil _).symm
  | cons move moves ih =>
    have hafter := coherent_step h move
    have hstep_kept : (watch.step move).channel.receiver ≠ .dropped := fun hdropped =>
      hkept (receiver_run_of_dropped hafter hdropped moves)
    have hwatch_kept : watch.channel.receiver ≠ .dropped := fun hdropped =>
      hstep_kept (receiver_step_of_dropped h hdropped move)
    have hrun : (watch.run (move :: moves)).received ++ (watch.run (move :: moves)).channel.queue
        = (watch.step move).received ++ (watch.step move).channel.queue
          ++ (watch.step move).trace World.posted? moves :=
      ih hafter hkept
    obtain ⟨action, rfl⟩ | hother := move.call_or_not
    · rw [hrun, events_call h hwatch_kept, trace_call, ← List.append_assoc, ← List.append_assoc]
      rfl
    · obtain ⟨channel, received, hstep, -, hevents⟩ := watch.step_of_not_call hother
      rw [hrun, trace_of_not_call _ _ hother]
      rw [hstep] at hstep_kept ⊢
      exact congrArg (· ++ _) (hevents hstep_kept)

/-! ### Replays -/

/-- A call is the first one to settle the deferred attack of a request. -/
def replays (i : ι) (call : World ι × Action ι) : Bool :=
  call.2.scanned? = some i && (call.1.replayed? call.2).isSome

theorem exists_of_replays {i : ι} {world : World ι} {action : Action ι}
    (h : replays i (world, action) = true) :
    ∃ stored, (world.contexts i).deferred = some stored ∧ stored.reported = false
      ∧ World.Meets i stored.attack.kind world action := by
  obtain ⟨hscanned, hreplayed⟩ := (Bool.and_eq_true _ _).mp h
  obtain ⟨attack, hattack⟩ := Option.isSome_iff_exists.1 hreplayed
  obtain ⟨j, stored, hscanned', hstored, -, hreported, hmeets⟩ := World.exists_of_replayed? hattack
  obtain rfl := Option.some.inj ((of_decide_eq_true hscanned).symm.trans hscanned')
  exact ⟨stored, hstored, hreported, hmeets⟩

theorem countP_replays_of_reported {i : ι} {stored : DeferredAttack}
    (hstored : (watch.world.contexts i).deferred = some { stored with reported := true })
    (moves : List (Move ι)) :
    (watch.calls moves).countP (replays i) = 0 := by
  induction moves generalizing watch with
  | nil => rfl
  | cons move moves ih =>
    obtain ⟨action, rfl⟩ | hother := move.call_or_not
    · have hno : ¬ replays i (watch.world, action) = true := by
        intro hreplays
        obtain ⟨_, hsame, hunreported, -⟩ := exists_of_replays hreplays
        obtain rfl := Option.some.inj (hstored.symm.trans hsame)
        cases hunreported
      rw [calls_call, List.countP_cons_of_neg hno]
      refine ih ?_
      show ((watch.world.step action).contexts i).deferred = _
      by_cases hmeets : World.Meets i stored.attack.kind watch.world action
      · have hsettled := World.deferred_step_of_meets hstored hmeets
        exact hsettled
      · exact World.deferred_step_of_not_meets hstored hmeets
    · obtain ⟨channel, received, hstep, -, -⟩ := watch.step_of_not_call hother
      rw [watch.calls_of_not_call hother, hstep]
      exact ih hstored

/-- A request has at most one deferred attack, and it is settled for the first time once. -/
theorem countP_replays_le_one (i : ι) (moves : List (Move ι)) :
    (watch.calls moves).countP (replays i) ≤ 1 := by
  induction moves generalizing watch with
  | nil => exact Nat.zero_le 1
  | cons move moves ih =>
    obtain ⟨action, rfl⟩ | hother := move.call_or_not
    · rw [calls_call, List.countP_cons]
      cases hreplays : replays i (watch.world, action) with
      | false => exact ih
      | true =>
        obtain ⟨stored, hstored, -, hmeets⟩ := exists_of_replays hreplays
        have hlater : ((watch.step (.call action)).calls moves).countP (replays i) = 0 :=
          countP_replays_of_reported (World.deferred_step_of_meets hstored hmeets) moves
        rw [hlater]
        exact Nat.le_refl 1
    · rw [watch.calls_of_not_call hother]
      exact ih

theorem length_trace_reported? (watch : Watch ι) (moves : List (Move ι)) :
    (watch.trace World.reported? moves).length
      = (watch.trace World.detected? moves).length
        + (watch.trace World.replayed? moves).length := by
  simp only [trace, List.length_filterMap_eq_countP]
  induction watch.calls moves with
  | nil => rfl
  | cons call calls ih =>
    obtain ⟨world, action⟩ := call
    have hone : (if (world.reported? action).isSome then 1 else 0)
        = (if (world.detected? action).isSome then 1 else 0)
          + if (world.replayed? action).isSome then 1 else 0 := by
      rw [World.reported?]
      cases hreplayed : world.replayed? action with
      | none => cases world.detected? action <;> rfl
      | some attack => rw [World.detected?_eq_none_of_replayed? hreplayed]; rfl
    simp only [List.countP_cons]
    omega

theorem answer?_of_mem_calls (h : watch.world.Coherent settings requests) {moves : List (Move ι)}
    {call : World ι × Action ι} (hcall : call ∈ watch.calls moves) {attack : Attack}
    (hreported : call.1.reported? call.2 = some attack) :
    call.1.answer? call.2 = attack.outcome? := by
  induction moves generalizing watch with
  | nil => cases hcall
  | cons move moves ih =>
    have hafter := coherent_step h move
    obtain ⟨action, rfl⟩ | hother := move.call_or_not
    · obtain rfl | hlater := List.mem_cons.1 hcall
      · exact World.answer?_of_reported? h hreported
      · exact ih hafter hlater
    · rw [watch.calls_of_not_call hother] at hcall
      exact ih hafter hcall

/-- Whatever is scanned, with whatever options, policies and switches: as many attacks are counted
as were detected without being deferred, or deferred and then settled for the first time, which
happens at most once to a request; and each counter holds those that move it. As long as the
receiver is there, it gets the events of exactly these attacks, but for those that the throttle
refuses, in the order of the attacks. And the call that reports an attack fails if and only if the
attack is blocked. -/
theorem attacks_accounted (settings : Settings) (requests : ι → Request.Parts)
    (moves : List (Move ι)) :
    let first := start settings requests
    let last := first.run moves
    last.attackCount {} = (first.trace World.detected? moves).length
      + (first.trace World.replayed? moves).length
      ∧ (∀ i, (first.calls moves).countP (replays i) ≤ 1)
      ∧ (∀ tally, last.attackCount tally = (first.trace World.reported? moves).countP tally.counts)
      ∧ (last.channel.receiver ≠ .dropped →
        last.received ++ last.channel.queue = first.trace World.posted? moves)
      ∧ ∀ call ∈ first.calls moves, ∀ attack, call.1.reported? call.2 = some attack →
          call.1.answer? call.2
            = if attack.blocked then
                some { kind := attack.kind, operation := attack.operation, origin := attack.source,
                       path := attack.path }
              else none := by
  intro first last
  have hfirst : first.world.Coherent settings requests := World.coherent_start settings requests
  have hcount (tally : AttackTally) : last.attackCount tally
      = (first.trace World.reported? moves).countP tally.counts := by
    have hnone : first.attackCount tally = 0 :=
      (Nat.zero_add _).trans (Stats.attackCount_empty tally)
    have hrun : last.attackCount tally = _ := attackCount_run hfirst moves tally
    rw [hrun, hnone, Nat.zero_add]
  have hall : ∀ attack, AttackTally.counts {} attack = true := fun _ => rfl
  refine ⟨?_, fun i => countP_replays_le_one i moves, hcount,
    fun hkept => ?_, fun call hcall attack hreported => ?_⟩
  · rw [← length_trace_reported?, hcount, List.countP_eq_length]
    exact fun attack _ => hall attack
  · exact events_run hfirst hkept
  · exact answer?_of_mem_calls hfirst hcall hreported

/-- One attack is deferred and then settled twice, another one is found. The throttle lets one event
pass. -/
example :
    let requests : Unit → Request.Parts := fun _ => { method := "GET", url := "/?q=1%3Bls" }
    let detector (kind : AttackKind) : Detector Unit :=
      { kind, judge := fun s _ => .ok (if s = "1;ls" then some {} else none) }
    let scan (now : Nat) (kind : AttackKind) (defer : Bool) : Move Unit :=
      .call (.scan now (some ()) "exec" (detector kind) () defer)
    let moves : List (Move Unit) :=
      [scan 0 .shellInjection true, scan 1 .shellInjection false, .call .takeStats, .receive,
        scan 2 .sqlInjection false,
        scan 3 .shellInjection false]
    let first := start { reporting := { maxAttackEvents := 1 } } requests
    let last := first.run moves
    (first.trace World.replayed? moves).length = 1 ∧ (first.trace World.detected? moves).length = 1
      ∧ (last.taken.map fun stats => stats.attackCount {}) = [1] ∧ last.attackCount {} = 2
      ∧ last.received.length = 1 ∧ last.channel.queue = [] := by
  decide +kernel

end Watch

end RequestGuard
