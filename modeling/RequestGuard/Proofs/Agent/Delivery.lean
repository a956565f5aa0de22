import RequestGuard.Cloud.Memory
import RequestGuard.Proofs.Agent.Session

/-!
# The task that delivers events

The task holds the receiving end of the channel. In each turn it delivers the event that has waited
longest, and whether that works makes no difference to what it does next. When it has seen the
signal that the tasks end, it delivers what is left and ends. Meanwhile events come in, also after
the signal, and all else of the agent and of the control plane may change (`Delivery.Move`).

What the task has attempted and what waits in the channel are at all times all the events that were
sent, in their order (`Delivery.Coherent.run`). So nothing is lost, repeated or overtaken, and
nothing waits when the task ends.
-/

namespace RequestGuard

open Cloud (Call ControlPlane Event Logged)

/-- Where the task is: it waits for events and for the signal, or delivers what is left, or has
ended. -/
inductive Delivery.Stage where
  | waiting
  | draining
  | ended
deriving DecidableEq

/-- An agent, its control plane with the log of what the task calls, and the task. The channel is
closed when nobody is left who sends. -/
structure Delivery (σ : Type) where
  agent : Agent
  log : Logged σ
  closed : Bool := false
  stage : Delivery.Stage := .waiting

def Cloud.Call.event? : Call → Option Event
  | .sendEvent event _ => some event
  | _ => none

theorem Agent.channel_countFailure (agent : Agent) (operation : Cloud.Operation)
    (error : Cloud.CloudError) :
    (agent.countFailure operation error).channel = agent.channel := by
  unfold countFailure
  split
  · rfl
  · exact agent.channel_countMetric _

namespace Delivery

variable {σ : Type}

/-- What happens to the task: an event is sent, nobody is left who sends, the task sees the signal,
or has a turn. Elsewhere all may change but the channel. -/
inductive Move (σ : Type) where
  | send (event : Event)
  | close
  | signal
  | turn
  | elsewhere (agent : Agent) (state : σ)

def start (agent : Agent) (state : σ) : Delivery σ where
  agent := { agent with channel := agent.channel.take.2 }
  log := { state }

def queue (delivery : Delivery σ) : List Event := delivery.agent.channel.queue

/-- The events that the task has passed to the control plane. -/
def attempted (delivery : Delivery σ) : List Event := delivery.log.calls.filterMap Call.event?

def deliverNext (plane : ControlPlane σ) (delivery : Delivery σ) : Delivery σ :=
  let (agent, log) := Agent.deliverNext plane.logged delivery.agent delivery.log
  { delivery with agent, log }

/-- Ends the task, which drops the receiving end of the channel. -/
def finish (delivery : Delivery σ) : Delivery σ :=
  { delivery with
    agent := { delivery.agent with channel := delivery.agent.channel.drop }
    stage := .ended }

/-- A turn of the task. It only waits for more events while it has not seen the signal and somebody
may send. -/
def turn (plane : ControlPlane σ) (delivery : Delivery σ) : Delivery σ :=
  if delivery.stage = .ended then delivery
  else if !delivery.queue.isEmpty then delivery.deliverNext plane
  else if delivery.stage = .draining || delivery.closed then delivery.finish
  else delivery

def step (plane : ControlPlane σ) (delivery : Delivery σ) : Move σ → Delivery σ
  | .send event =>
    if delivery.closed then delivery
    else
      { delivery with
        agent := { delivery.agent with channel := delivery.agent.channel.send event } }
  | .close => { delivery with closed := true }
  | .signal => if delivery.stage = .waiting then { delivery with stage := .draining } else delivery
  | .turn => delivery.turn plane
  | .elsewhere agent state =>
    { delivery with
      agent := { agent with channel := delivery.agent.channel }
      log := { delivery.log with state } }

def run (plane : ControlPlane σ) (delivery : Delivery σ) (moves : List (Move σ)) :
    Delivery σ := moves.foldl (step plane) delivery

/-- The event that is sent to the task, as long as somebody sends and the task has not ended. -/
def sent? (delivery : Delivery σ) : Move σ → Option Event
  | .send event => if delivery.closed || delivery.stage = .ended then none else some event
  | _ => none

def sent (plane : ControlPlane σ) (delivery : Delivery σ) : List (Move σ) → List Event
  | [] => []
  | move :: moves => (delivery.sent? move).toList ++ (delivery.step plane move).sent plane moves

def held (delivery : Delivery σ) : List Event := delivery.attempted ++ delivery.queue

/-- The receiving end is there until the task ends, and then nothing waits. -/
structure Coherent (delivery : Delivery σ) : Prop where
  receives (h : delivery.stage ≠ .ended) : delivery.agent.channel.receiver ≠ .dropped
  dropped (h : delivery.stage = .ended) : delivery.agent.channel.receiver = .dropped
  emptied (h : delivery.stage = .ended) : delivery.queue = []

/-! ### One move -/

variable {plane : ControlPlane σ} {delivery : Delivery σ}

/-- The event that has waited longest is passed to the control plane, whatever the control plane
answers. -/
theorem deliverNext_of_queue (plane : ControlPlane σ) {event : Event} {queue : List Event}
    (h : delivery.queue = event :: queue) :
    (delivery.deliverNext plane).attempted = delivery.attempted ++ [event]
      ∧ (delivery.deliverNext plane).agent.channel = { delivery.agent.channel with queue } := by
  have hqueue : delivery.agent.channel.queue = event :: queue := h
  have hcalls (answer : Except Cloud.CloudError (Option Cloud.Config)) :
      (delivery.log.calls ++ [Call.sendEvent event answer]).filterMap Call.event?
        = delivery.attempted ++ [event] := by
    rw [List.filterMap_append]
    rfl
  simp only [deliverNext, Agent.deliverNext, hqueue, Agent.deliver, ControlPlane.logged]
  cases hanswer : (plane.sendEvent event delivery.log.state).1 with
  | ok response => exact ⟨hcalls (.ok response), rfl⟩
  | error error => exact ⟨hcalls (.error error), Agent.channel_countFailure _ _ _⟩

theorem turn_cases (plane : ControlPlane σ) (delivery : Delivery σ) :
    delivery.turn plane = delivery
      ∨ delivery.queue = [] ∧ delivery.turn plane = delivery.finish
      ∨ delivery.stage ≠ .ended ∧ (∃ event queue, delivery.queue = event :: queue)
        ∧ delivery.turn plane = delivery.deliverNext plane := by
  unfold turn
  split
  · exact .inl rfl
  · rename_i hstage
    cases hqueue : delivery.queue with
    | cons event queue => exact .inr (.inr ⟨hstage, ⟨event, queue, rfl⟩, rfl⟩)
    | nil =>
      simp only [List.isEmpty_nil, Bool.not_true, Bool.false_eq_true, if_false]
      split
      · exact .inr (.inl ⟨trivial, rfl⟩)
      · exact .inl rfl

theorem held_finish (h : delivery.queue = []) : delivery.finish.held = delivery.held := by
  rw [held, held, h]
  rfl

theorem held_deliverNext (plane : ControlPlane σ) {event : Event} {queue : List Event}
    (h : delivery.queue = event :: queue) :
    (delivery.deliverNext plane).held = delivery.held := by
  obtain ⟨hattempted, hchannel⟩ := deliverNext_of_queue plane h
  have hqueue : (delivery.deliverNext plane).queue = queue := congrArg Channel.queue hchannel
  rw [held, held, hattempted, hqueue, h, List.append_assoc]
  rfl

theorem Coherent.of_receiver (h : delivery.Coherent) (hstage : delivery.stage ≠ .ended)
    {after : Delivery σ} (hafter : after.stage ≠ .ended)
    (hreceiver : after.agent.channel.receiver = delivery.agent.channel.receiver) :
    after.Coherent where
  receives _ := hreceiver ▸ h.receives hstage
  dropped hended := absurd hended hafter
  emptied hended := absurd hended hafter

theorem coherent_finish (delivery : Delivery σ) : delivery.finish.Coherent where
  receives hstage := absurd rfl hstage
  dropped _ := rfl
  emptied _ := rfl

theorem Coherent.turn (h : delivery.Coherent) : (delivery.turn plane).Coherent := by
  obtain hsame | ⟨-, hfinish⟩ | ⟨hstage, ⟨event, queue, hqueue⟩, hdelivers⟩ :=
    turn_cases plane delivery
  · rw [hsame]
    exact h
  · rw [hfinish]
    exact delivery.coherent_finish
  · rw [hdelivers]
    have hreceiver := congrArg Channel.receiver (deliverNext_of_queue plane hqueue).2
    exact h.of_receiver hstage hstage hreceiver

theorem held_turn (plane : ControlPlane σ) (delivery : Delivery σ) :
    (delivery.turn plane).held = delivery.held := by
  obtain hsame | ⟨hqueue, hfinish⟩ | ⟨-, ⟨event, queue, hqueue⟩, hdelivers⟩ :=
    turn_cases plane delivery
  · rw [hsame]
  · rw [hfinish, held_finish hqueue]
  · rw [hdelivers, held_deliverNext plane hqueue]

/-- Every move keeps the events that are held and adds the one that is sent. -/
theorem Coherent.step (h : delivery.Coherent) (plane : ControlPlane σ) (move : Move σ) :
    (delivery.step plane move).Coherent
      ∧ (delivery.step plane move).held = delivery.held ++ (delivery.sent? move).toList := by
  cases move with
  | send event =>
    by_cases hlost : delivery.closed || delivery.stage = .ended
    · -- Nobody sends any more, or nobody receives.
      have hsame : delivery.step plane (.send event) = delivery := by
        obtain hclosed | hended := Bool.or_eq_true_iff.1 hlost
        · exact if_pos hclosed
        · have hdropped : delivery.agent.channel.send event = delivery.agent.channel :=
            if_pos (h.dropped (of_decide_eq_true hended))
          rw [Delivery.step, hdropped, ite_self]
      rw [hsame, sent?, if_pos hlost]
      exact ⟨h, (List.append_nil _).symm⟩
    · obtain ⟨hclosed, hstage⟩ : delivery.closed ≠ true
          ∧ delivery.stage ≠ .ended := by simpa using hlost
      have htaken : delivery.agent.channel.send event
          = { delivery.agent.channel with queue := delivery.queue ++ [event] } :=
        if_neg (h.receives hstage)
      rw [Delivery.step, if_neg hclosed, htaken, sent?, if_neg hlost]
      exact ⟨h.of_receiver hstage hstage rfl, (List.append_assoc ..).symm⟩
  | close => exact ⟨⟨h.receives, h.dropped, h.emptied⟩, (List.append_nil _).symm⟩
  | signal =>
    rw [Delivery.step]
    split
    · rename_i hwaiting
      have hstage : delivery.stage ≠ .ended := by
        rw [hwaiting]
        decide
      exact ⟨h.of_receiver hstage (fun hended => nomatch hended) rfl, (List.append_nil _).symm⟩
    · exact ⟨h, (List.append_nil _).symm⟩
  | turn => exact ⟨h.turn, (held_turn plane delivery).trans (List.append_nil _).symm⟩
  | elsewhere agent state => exact ⟨⟨h.receives, h.dropped, h.emptied⟩, (List.append_nil _).symm⟩

theorem Coherent.run (h : delivery.Coherent) (plane : ControlPlane σ) (moves : List (Move σ)) :
    (delivery.run plane moves).Coherent
      ∧ (delivery.run plane moves).held = delivery.held ++ delivery.sent plane moves := by
  induction moves generalizing delivery with
  | nil => exact ⟨h, (List.append_nil _).symm⟩
  | cons move moves ih =>
    obtain ⟨hcoherent, hheld⟩ := h.step plane move
    obtain ⟨hlater, hall⟩ := ih hcoherent
    refine ⟨hlater, hall.trans ?_⟩
    rw [hheld, List.append_assoc]
    rfl

theorem coherent_start {agent : Agent} (h : agent.channel.receiver = .available) (state : σ) :
    (start agent state).Coherent := by
  refine ⟨fun _ => ?_, fun hended => (nomatch hended), fun hended => (nomatch hended)⟩
  show agent.channel.take.2.receiver ≠ .dropped
  rw [Channel.take, h]
  exact fun hdropped => nomatch hdropped

/-- At every time the events that the task has passed to the control plane are the first ones of
those that were sent, in their order, and the other ones wait. When the task has ended, it has
passed on all events that were sent until then. Failures change nothing of it, and neither does the
time at which the signal is seen. -/
theorem attempts_follow_sends (plane : ControlPlane σ) {agent : Agent}
    (h : agent.channel.receiver = .available) (state : σ) (moves : List (Move σ)) :
    let delivery := (start agent state).run plane moves
    let sent := agent.channel.queue ++ (start agent state).sent plane moves
    delivery.attempted ++ delivery.queue = sent
      ∧ delivery.attempted <+: sent
      ∧ (delivery.stage = .ended → delivery.attempted = sent) := by
  intro delivery sent
  obtain ⟨hcoherent, hheld⟩ := (coherent_start h state).run plane moves
  have hqueue : (start agent state).held = agent.channel.queue := by
    show agent.channel.take.2.queue = agent.channel.queue
    rw [Channel.take, h]
    rfl
  rw [hqueue] at hheld
  refine ⟨hheld, ⟨_, hheld⟩, fun hended => ?_⟩
  have hempty : delivery.queue = [] := hcoherent.emptied hended
  rw [held, hempty, List.append_nil] at hheld
  exact hheld

/-- Every delivery fails, an event is sent after the signal, and one when the task has ended. -/
theorem attempts_follow_sends_all_failing :
    let agent : Agent := .ofSettings {}
    let memory : Cloud.Memory := { failures := [(.sendEvent, .status 503)] }
    let first : Event := .started { dryMode := true }
    let second : Event := .started { dryMode := false }
    let moves : List (Move Cloud.Memory) :=
      [.send first, .send second, .turn, .signal, .send first, .turn, .turn, .turn, .send second]
    let delivery := (start agent memory).run Cloud.Memory.plane moves
    agent.channel.receiver = .available ∧ delivery.stage = .ended
      ∧ agent.channel.queue ++ (start agent memory).sent Cloud.Memory.plane moves
        = [first, second, first]
      ∧ delivery.attempted = [first, second, first] := by
  intro agent memory first second moves delivery
  have hsent : agent.channel.queue ++ (start agent memory).sent Cloud.Memory.plane moves
      = [first, second, first] := by
    decide +kernel
  have hstage : delivery.stage = .ended := by decide +kernel
  have havailable : agent.channel.receiver = .available := rfl
  obtain ⟨-, -, hended⟩ := attempts_follow_sends Cloud.Memory.plane havailable memory moves
  exact ⟨havailable, hstage, hsent, (hended hstage).trans hsent⟩

/-! ### The end of the task -/

theorem run_concat (plane : ControlPlane σ) (delivery : Delivery σ) (moves : List (Move σ))
    (move : Move σ) :
    delivery.run plane (moves ++ [move]) = (delivery.run plane moves).step plane move := by
  rw [run, run, List.foldl_append]
  rfl

theorem turn_of_queue (plane : ControlPlane σ) (hstage : delivery.stage ≠ .ended) {event : Event}
    {queue : List Event} (hqueue : delivery.queue = event :: queue) :
    delivery.turn plane = delivery.deliverNext plane := by
  rw [turn, if_neg hstage, hqueue]
  rfl

theorem run_turns (plane : ControlPlane σ) (hstage : delivery.stage ≠ .ended) {n : Nat}
    (hn : n ≤ delivery.queue.length) :
    let delivered :=
      Nat.repeat (fun (agent, log) => Agent.deliverNext plane.logged agent log) n
        (delivery.agent, delivery.log)
    let after := delivery.run plane (List.replicate n .turn)
    after = { delivery with agent := delivered.1, log := delivered.2 }
      ∧ after.queue = delivery.queue.drop n := by
  induction n with
  | zero => exact ⟨rfl, rfl⟩
  | succ n ih =>
    obtain ⟨hbefore, hqueue⟩ := ih (Nat.le_of_succ_le hn)
    let before := delivery.run plane (List.replicate n .turn)
    have hnext : before.queue = delivery.queue[n] :: delivery.queue.drop (n + 1) :=
      hqueue.trans (List.drop_eq_getElem_cons hn)
    have hdelivers : before.turn plane = before.deliverNext plane := by
      refine turn_of_queue plane ?_ hnext
      rw [show before = _ from hbefore]
      exact hstage
    intro delivered after
    have hafter : after = before.deliverNext plane := by
      show delivery.run plane (List.replicate (n + 1) .turn) = _
      rw [List.replicate_succ', run_concat]
      exact hdelivers
    rw [hafter]
    refine ⟨?_, congrArg Channel.queue (deliverNext_of_queue plane hnext).2⟩
    rw [show before = _ from hbefore]
    rfl

/-- When nothing comes in after the signal, the task delivers all that waits, in one go, and
ends. -/
theorem run_signal_turns (plane : ControlPlane σ) (h : delivery.stage = .waiting) :
    let delivered := Agent.deliverAll plane.logged delivery.agent delivery.log
    delivery.run plane (.signal :: List.replicate (delivery.queue.length + 1) .turn)
      = { delivery with
          agent := { delivered.1 with channel := delivered.1.channel.drop }, log := delivered.2,
            stage := .ended } := by
  intro delivered
  let draining : Delivery σ := { delivery with stage := .draining }
  have hsignal : delivery.step plane .signal = draining := if_pos h
  have hstage : draining.stage ≠ .ended := nofun
  obtain ⟨hafter, hqueue⟩ := run_turns plane hstage (Nat.le_refl _)
  rw [List.drop_length] at hqueue
  have hrun : delivery.run plane (.signal :: List.replicate (delivery.queue.length + 1) .turn)
      = (draining.run plane (List.replicate draining.queue.length .turn)).turn plane := by
    rw [run, List.foldl_cons, hsignal, List.replicate_succ']
    exact run_concat plane draining _ .turn
  rw [hrun, turn, hqueue, hafter]
  rfl

end Delivery

end RequestGuard
