import RequestGuard.Agent.Sync
import RequestGuard.Proofs.Agent.Run

/-!
# Exchanges with the control plane

The tasks of an agent talk to the control plane in exchanges: the first report, a poll, a heartbeat.
Here every call of the control plane is kept in a log together with its answer, so that it can be
said of an exchange what was asked and what came back. `Agent.Exchanged` lists how an exchange can
go for an agent; there is no other way, whatever the control plane answers
(`Agent.exists_exchanged`), and keeping the log changes nothing (`Agent.exchange_logged`).

A session is an agent that serves requests and talks to the control plane, one step after the other.
-/

namespace RequestGuard

open Cloud (CloudError Config ConfigVersion ControlPlane Event FirewallLists
  Heartbeat Operation Origin)
open Policy (Snapshot)

namespace Cloud

variable {σ : Type}

/-- A call of a control plane with its answer. -/
inductive Call where
  | fetchVersion (answer : Except CloudError ConfigVersion)
  | fetchConfig (answer : Except CloudError Config)
  | fetchLists (answer : Except CloudError FirewallLists)
  | sendEvent (event : Event) (answer : Except CloudError (Option Config))

def Call.config? : Call → Option Config
  | .fetchConfig answer => answer.toOption
  | .sendEvent _ answer => answer.toOption.join
  | .fetchVersion _ | .fetchLists _ => none

structure Logged (σ : Type) where
  state : σ
  calls : List Call := []

/-- The control plane that answers in the same way and keeps the log. -/
def ControlPlane.logged (plane : ControlPlane σ) : ControlPlane (Logged σ) where
  fetchVersion log :=
    let (answer, state) := plane.fetchVersion log.state
    (answer, { state, calls := log.calls ++ [.fetchVersion answer] })
  fetchConfig log :=
    let (answer, state) := plane.fetchConfig log.state
    (answer, { state, calls := log.calls ++ [.fetchConfig answer] })
  fetchLists log :=
    let (answer, state) := plane.fetchLists log.state
    (answer, { state, calls := log.calls ++ [.fetchLists answer] })
  sendEvent event log :=
    let (answer, state) := plane.sendEvent event log.state
    (answer, { state, calls := log.calls ++ [.sendEvent event answer] })
  passTime moment log := { log with state := plane.passTime moment log.state }

end Cloud

open Cloud (Call Logged)

namespace Agent

variable {σ : Type} (plane : ControlPlane σ) (origin : Origin) (operation : Operation)
  (beat : Heartbeat) (agent : Agent)

/-- Installs the configuration that an answer brings, or counts the failure. -/
def respond (answer : Except CloudError (Option Config)) (state : σ) : Bool × Agent × σ :=
  match answer with
  | .ok (some config) => apply plane origin config agent state
  | .ok none => (false, agent, state)
  | .error error => (false, agent.countFailure operation error, state)

/-- What an answer leads to: a failure is counted, a configuration that is not newer is passed over,
and for a newer one the lists are fetched and it is installed. -/
inductive Responds : Except CloudError (Option Config) → Bool → Agent → List Call → Prop where
  | failed (error : CloudError) :
      Responds (.error error) false (agent.countFailure operation error) []
  | nothing : Responds (.ok none) false agent []
  | passed {config : Config} (h : config.updatedAt.toInt ≤ agent.policy.version) :
      Responds (.ok (some config)) false agent []
  | installed {config : Config} (h : agent.policy.version < config.updatedAt.toInt)
      (answer : Except CloudError FirewallLists) :
      Responds (.ok (some config)) true
        (agent.conclude origin { config, previous := agent.policy } answer).2
        [.fetchLists answer]

theorem exists_responds (answer : Except CloudError (Option Config)) (log : Logged σ) :
    let outcome := respond plane.logged origin operation agent answer log
    ∃ calls, outcome.2.2.calls = log.calls ++ calls
      ∧ agent.Responds origin operation answer outcome.1 outcome.2.1 calls := by
  rcases answer with error | _ | config
  · exact ⟨[], (List.append_nil _).symm, .failed error⟩
  · exact ⟨[], (List.append_nil _).symm, .nothing⟩
  · by_cases hnewer : agent.policy.version < config.updatedAt.toInt
    · let lists := (plane.fetchLists log.state).1
      let concluded := agent.conclude origin { config, previous := agent.policy } lists
      have houtcome : respond plane.logged origin operation agent (.ok (some config)) log
          = (concluded.1, concluded.2, (plane.logged.fetchLists log).2) := by
        rw [respond, apply, begin?_of_newer hnewer]
        rfl
      have hinstalled : concluded.1 = true :=
        (fst_conclude ..).trans (Snapshot.isNewerThan_iff.2 hnewer)
      rw [houtcome, hinstalled]
      exact ⟨[.fetchLists lists], rfl, .installed hnewer lists⟩
    · have hold := Int.not_lt.1 hnewer
      have houtcome : respond plane.logged origin operation agent (.ok (some config)) log
          = (false, agent, log) := by
        rw [respond, apply, begin?_of_not_newer hold]
      rw [houtcome]
      exact ⟨[], (List.append_nil _).symm, .passed hold⟩

theorem respond_logged (answer : Except CloudError (Option Config)) (log : Logged σ) :
    let outcome := respond plane.logged origin operation agent answer log
    (outcome.1, outcome.2.1, outcome.2.2.state)
      = respond plane origin operation agent answer log.state := by
  match answer with
  | .error error => rfl
  | .ok none => rfl
  | .ok (some config) =>
    simp only [respond, apply]
    cases agent.begin? config <;> rfl

/-! ### How exchanges go -/

/-- Reports, polls, or sends a heartbeat, and says whether a policy was installed. -/
def exchange (state : σ) : Bool × Heartbeat × Agent × σ :=
  match origin with
  | .started =>
    let outcome := reportStarted plane agent state
    (outcome.1, beat, outcome.2)
  | .poll =>
    let outcome := poll plane agent state
    (outcome.1, beat, outcome.2)
  | .heartbeat => heartbeat plane beat agent state

def beatAfter : Except CloudError (Option Config) → Heartbeat
  | .ok response =>
    (beat.answered (response.bind suggestedInterval?) (agent.confirmsStats response)).2
  | .error _ => beat

/-- How an exchange can go, with the calls that it makes. -/
inductive Exchanged : Origin → Bool → Heartbeat → Agent → List Call → Prop where
  | started {answer : Except CloudError (Option Config)} {installed : Bool} {after : Agent}
    {calls : List Call}
      (h : agent.Responds .started .started answer installed after calls) :
      Exchanged .started installed beat after (.sendEvent (.started agent.info) answer :: calls)
  | unpolled (error : CloudError) :
      Exchanged .poll false beat (agent.countFailure .fetchVersion error)
        [.fetchVersion (.error error)]
  | current {version : ConfigVersion} (h : version.updatedAt.toInt ≤ agent.policy.version) :
      Exchanged .poll false beat agent [.fetchVersion (.ok version)]
  | fetched {version : ConfigVersion} (hnewer : agent.policy.version < version.updatedAt.toInt)
      {answer : Except CloudError Config} {installed : Bool} {after : Agent} {calls : List Call}
      (h : agent.Responds .poll .fetchConfig (answer.map some) installed after calls) :
      Exchanged .poll installed beat after
        (.fetchVersion (.ok version) :: .fetchConfig answer :: calls)
  | heartbeat {answer : Except CloudError (Option Config)} {installed : Bool} {after : Agent}
    {calls : List Call}
      (h : Agent.Responds .heartbeat .heartbeat { agent with stats := agent.stats.snapshot.2 }
        answer installed after calls) :
      Exchanged .heartbeat installed (agent.beatAfter beat answer) after
        (.sendEvent (.heartbeat agent.info agent.stats.snapshot.1) answer :: calls)

theorem reportStarted_eq (state : σ) :
    reportStarted plane agent state
      = let sent := plane.sendEvent (.started agent.info) state
        respond plane .started .started agent sent.1 sent.2 := by
  unfold reportStarted respond
  rcases plane.sendEvent (.started agent.info) state with ⟨_ | _ | _, _⟩ <;> rfl

theorem poll_of_error {state : σ} {error : CloudError}
    (h : (plane.fetchVersion state).1 = .error error) :
    poll plane agent state = (false, agent.countFailure .fetchVersion error,
      (plane.fetchVersion state).2) := by
  unfold poll
  rcases hfetched : plane.fetchVersion state with ⟨answer, fetched⟩
  rw [hfetched] at h
  subst h
  rfl

theorem poll_of_ok {state : σ} {version : ConfigVersion}
    (h : (plane.fetchVersion state).1 = .ok version) :
    poll plane agent state
      = if version.updatedAt.toInt ≤ agent.policy.version
        then (false, agent, (plane.fetchVersion state).2)
        else
          let fetched := plane.fetchConfig (plane.fetchVersion state).2
          respond plane .poll .fetchConfig agent (fetched.1.map some) fetched.2 := by
  unfold poll respond
  rcases hfetched : plane.fetchVersion state with ⟨answer, fetched⟩
  rw [hfetched] at h
  subst h
  rcases hconfig : plane.fetchConfig fetched with ⟨_ | _, _⟩ <;> simp only [hconfig, Except.map]

theorem heartbeat_eq (state : σ) :
    heartbeat plane beat agent state
      = let sent := plane.sendEvent (.heartbeat agent.info agent.stats.snapshot.1) state
        let outcome :=
          respond plane .heartbeat .heartbeat { agent with stats := agent.stats.snapshot.2 }
            sent.1 sent.2
        (outcome.1, agent.beatAfter beat sent.1, outcome.2) := by
  have hinfo (stats : Stats.Collector) : ({ agent with stats } : Agent).info = agent.info := rfl
  simp only [heartbeat, Stats.Collector.snapshot, hinfo]
  rcases plane.sendEvent (.heartbeat agent.info agent.stats.current) state with ⟨_ | _ | _, _⟩
    <;> rfl

theorem exists_exchanged (log : Logged σ) :
    let outcome := exchange plane.logged origin beat agent log
    ∃ calls, outcome.2.2.2.calls = log.calls ++ calls
      ∧ agent.Exchanged beat origin outcome.1 outcome.2.1 outcome.2.2.1 calls := by
  intro outcome
  cases origin with
  | started =>
    obtain ⟨calls, hcalls, hresponds⟩ :=
      exists_responds plane .started .started agent
        (plane.sendEvent (.started agent.info) log.state).1
        (plane.logged.sendEvent (.started agent.info) log).2
    simp only [outcome, exchange, reportStarted_eq]
    exact ⟨_, hcalls.trans (List.append_assoc ..), .started hresponds⟩
  | poll =>
    have hfetched : (plane.logged.fetchVersion log).2.calls
        = log.calls ++ [.fetchVersion (plane.fetchVersion log.state).1] :=
      rfl
    simp only [outcome, exchange]
    rcases hversion : (plane.fetchVersion log.state).1 with error | version
    · rw [hversion] at hfetched
      rw [poll_of_error plane.logged agent hversion]
      exact ⟨_, hfetched, .unpolled error⟩
    · rw [hversion] at hfetched
      rw [poll_of_ok plane.logged agent hversion]
      by_cases hcurrent : version.updatedAt.toInt ≤ agent.policy.version
      · rw [if_pos hcurrent]
        exact ⟨_, hfetched, .current hcurrent⟩
      · let fetched := plane.logged.fetchConfig (plane.logged.fetchVersion log).2
        rw [if_neg hcurrent]
        obtain ⟨calls, hcalls, hresponds⟩ :=
          exists_responds plane .poll .fetchConfig agent (fetched.1.map some) fetched.2
        have hboth : fetched.2.calls
            = log.calls ++ [.fetchVersion (.ok version), .fetchConfig fetched.1] := by
          show (plane.logged.fetchVersion log).2.calls ++ _ = _
          rw [hfetched, List.append_assoc]
          rfl
        rw [hboth] at hcalls
        exact ⟨_, hcalls.trans (List.append_assoc ..), .fetched (Int.not_le.1 hcurrent) hresponds⟩
  | heartbeat =>
    let event := Event.heartbeat agent.info agent.stats.snapshot.1
    obtain ⟨calls, hcalls, hresponds⟩ :=
      exists_responds plane .heartbeat .heartbeat { agent with stats := agent.stats.snapshot.2 }
        (plane.sendEvent event log.state).1 (plane.logged.sendEvent event log).2
    simp only [outcome, exchange, heartbeat_eq]
    exact ⟨_, hcalls.trans (List.append_assoc ..), .heartbeat hresponds⟩

theorem exchange_logged (log : Logged σ) :
    let outcome := exchange plane.logged origin beat agent log
    (outcome.1, outcome.2.1, outcome.2.2.1, outcome.2.2.2.state)
      = exchange plane origin beat agent log.state := by
  intro outcome
  cases origin with
  | started =>
    have hrespond :=
      respond_logged plane .started .started agent
        (plane.sendEvent (.started agent.info) log.state).1
      (plane.logged.sendEvent (.started agent.info) log).2
    simp only [outcome, exchange, reportStarted_eq]
    exact congrArg (fun outcome => (outcome.1, beat, outcome.2)) hrespond
  | poll =>
    simp only [outcome, exchange]
    rcases hversion : (plane.fetchVersion log.state).1 with error | version
    · rw [poll_of_error plane agent hversion, poll_of_error plane.logged agent hversion]
      rfl
    · rw [poll_of_ok plane agent hversion, poll_of_ok plane.logged agent hversion]
      split
      · rfl
      · let fetched := plane.logged.fetchConfig (plane.logged.fetchVersion log).2
        have hrespond :=
          respond_logged plane .poll .fetchConfig agent (fetched.1.map some) fetched.2
        exact congrArg (fun outcome => (outcome.1, beat, outcome.2)) hrespond
  | heartbeat =>
    let sent := plane.logged.sendEvent (.heartbeat agent.info agent.stats.snapshot.1) log
    have hrespond :=
      respond_logged plane .heartbeat .heartbeat { agent with stats := agent.stats.snapshot.2 }
        sent.1 sent.2
    simp only [outcome, exchange, heartbeat_eq]
    exact congrArg (fun outcome => (outcome.1, agent.beatAfter beat sent.1, outcome.2)) hrespond

end Agent

/-! ### Sessions -/

/-- An agent that serves requests, its schedule of heartbeats, and its control plane with the
log. -/
structure Session (ι σ : Type) where
  world : World ι
  beat : Heartbeat
  log : Logged σ

/-- A step of a session: a call of the agent, or an exchange with the control plane. -/
inductive Turn (ι : Type) : Type 1 where
  | call (action : Action ι)
  | exchange (origin : Origin)

namespace Session

variable {ι σ : Type}

def start (settings : Settings) (requests : ι → Request.Parts) (state : σ) : Session ι σ where
  world := .start settings requests
  beat := { interval := settings.initialHeartbeat * 1000, floor := settings.heartbeatFloor * 1000 }
  log := { state }

/-- Lets the agent talk to the control plane, and says whether a policy was installed. -/
def exchange (plane : ControlPlane σ) (origin : Origin) (session : Session ι σ) :
    Bool × Session ι σ :=
  let outcome := session.world.agent.exchange plane.logged origin session.beat session.log
  (outcome.1,
    { world := { session.world with agent := outcome.2.2.1 }, beat := outcome.2.1,
      log := outcome.2.2.2 })

theorem exists_exchanged (plane : ControlPlane σ) (origin : Origin) (session : Session ι σ) :
    let outcome := session.exchange plane origin
    ∃ calls, outcome.2.log.calls = session.log.calls ++ calls
      ∧ session.world.agent.Exchanged session.beat origin outcome.1 outcome.2.beat
        outcome.2.world.agent calls :=
  session.world.agent.exists_exchanged plane origin session.beat session.log

variable [DecidableEq ι]

def step (plane : ControlPlane σ) (session : Session ι σ) : Turn ι → Session ι σ
  | .call action => { session with world := session.world.step action }
  | .exchange origin => (session.exchange plane origin).2

def run (plane : ControlPlane σ) (session : Session ι σ) (turns : List (Turn ι)) : Session ι σ :=
  turns.foldl (step plane) session

theorem run_concat (plane : ControlPlane σ) (session : Session ι σ) (turns : List (Turn ι))
    (turn : Turn ι) :
    session.run plane (turns ++ [turn]) = (session.run plane turns).step plane turn := by
  rw [run, run, List.foldl_append]
  rfl

end Session

end RequestGuard
