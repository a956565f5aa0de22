import RequestGuard.Agent.Schedule
import RequestGuard.Agent.Sync

/-!
# An agent in service

An agent together with its control plane, the time, and the tasks in its background. Starting it
reports to the control plane at once. From then on it asks for a newer configuration, sends
heartbeats and moves the windows of rate limits on, each at its own pace, and delivers events as
they come, unless somebody else holds the receiving end of their channel. When the tasks end, the
events that still wait are delivered first.

Times are milliseconds.
-/

namespace RequestGuard

open Cloud (ControlPlane Heartbeat)

/-- The tasks in the background: the schedule, the interval of heartbeats, and whether events are
delivered. -/
structure Background where
  schedule : Schedule
  beat : Heartbeat
  delivers : Bool
deriving DecidableEq, Repr

def Background.size (background : Background) : Nat := if background.delivers then 4 else 3

/-- Where an agent is in its life. -/
inductive Stage where
  | fresh
  | running (background : Background)
  | stopped
deriving DecidableEq, Repr

/-- An agent in service of a control plane with a state of type `σ`. -/
structure Service (σ : Type) where
  agent : Agent
  state : σ
  now : Nat := 0
  stage : Stage := .fresh

namespace Service

variable {σ : Type}

/-- How many tasks run in the background, if the agent was ever started. -/
def taskCount? (service : Service σ) : Option Nat :=
  match service.stage with
  | .fresh => none
  | .running background => some background.size
  | .stopped => some 0

/-- Whether events are delivered in the background. -/
def delivers (service : Service σ) : Bool :=
  match service.stage with
  | .running background => background.delivers
  | _ => false

def talk (talk : Agent → σ → Bool × Agent × σ) (service : Service σ) : Bool × Service σ :=
  let (installed, agent, state) := talk service.agent service.state
  (installed, { service with agent, state })

/-- Delivers the events that wait, if that is done in the background. -/
def deliver (plane : ControlPlane σ) (service : Service σ) : Service σ :=
  if service.delivers then
    let (agent, state) := Agent.deliverAll plane service.agent service.state
    { service with agent, state }
  else service

def passTime (plane : ControlPlane σ) (moment : Nat) (service : Service σ) : Service σ :=
  { service with now := moment, state := plane.passTime moment service.state }

def runTask (plane : ControlPlane σ) (beat : Heartbeat) (service : Service σ) :
    Task → Nat × Heartbeat × Service σ
  | .poll =>
    (service.agent.settings.pollInterval * 1000, beat,
      (service.talk (Agent.poll plane)).2)
  | .heartbeat =>
    let (_, beat, agent, state) := Agent.heartbeat plane beat service.agent service.state
    (beat.interval, beat, { service with agent, state })
  | .advanceLimiter =>
    (service.agent.settings.rateLimitTick * 1000, beat,
      { service with agent := service.agent.advanceLimiter })

def runTasks (plane : ControlPlane σ) (moment : Nat) (schedule : Schedule) (beat : Heartbeat)
    (service : Service σ) : Schedule × Heartbeat × Service σ :=
  let task := schedule.next
  if schedule.time task ≤ moment then
    let (delay, beat, service) :=
      (service.passTime plane (schedule.time task)).runTask plane beat task
    runTasks plane moment (schedule.postpone task delay) beat service
  else (schedule, beat, service)
termination_by schedule.pending moment
decreasing_by exact Schedule.pending_postpone ‹_› _

def sleep (plane : ControlPlane σ) (millis : Nat) (service : Service σ) : Service σ :=
  if millis = 0 then service
  else
    let moment := service.now + millis
    let delivered := service.deliver plane
    match delivered.stage with
    | .running background =>
      let (schedule, beat, later) :=
        delivered.runTasks plane moment background.schedule background.beat
      { later with stage := .running { background with schedule, beat } }.passTime plane moment
    | _ => delivered.passTime plane moment

/-- Ends the tasks. The events that wait are delivered, and later ones are lost. -/
def stop (plane : ControlPlane σ) (service : Service σ) : Service σ :=
  match service.stage with
  | .fresh => service
  | _ =>
    let delivered := service.deliver plane
    if service.delivers then
      { delivered with
        agent := { delivered.agent with channel := delivered.agent.channel.drop }
        stage := .stopped }
    else { delivered with stage := .stopped }

/-- Starts the tasks of an agent that is not disabled. Tasks that were started before end. -/
def start (plane : ControlPlane σ) (service : Service σ) : Service σ :=
  let service := service.stop plane
  if service.agent.disabled then { service with stage := .stopped }
  else
    let settings := service.agent.settings
    let (delivers, channel) := service.agent.channel.take
    let beat : Heartbeat :=
      { interval := settings.initialHeartbeat * 1000, floor := settings.heartbeatFloor * 1000 }
    let schedule : Schedule :=
      { poll := service.now + settings.pollInterval * 1000
        heartbeat := service.now + beat.interval
        advanceLimiter := service.now + settings.rateLimitTick * 1000 }
    let started :=
      { service with
        agent := { service.agent with channel }
        stage := .running { schedule, beat, delivers } }
    (started.talk (Agent.reportStarted plane)).2

end Service

end RequestGuard
