import Mathlib.Data.List.Induction
import RequestGuard.Proofs.Agent.Decided

/-!
# A disabled agent is inert

The calls that adapters make while they serve requests do nothing on a disabled agent: it decides
nothing, looks at nothing, and counts nothing. What is left of them are the users and the groups
that are set for requests without a decision (`World.run_of_disabled`). Everything that is answered
later is answered as if only these had been set (`World.disabled_calls_inert`).
-/

namespace RequestGuard

inductive Result where
  | done
  | identity (answer : Except IdentityError Unit)
  | decision (refusal : Option Refusal)
  | scan (error : Option AttackBlocked) (examined : List String)
  | installed (installed : Bool)
  | stats (stats : Stats)

/-- An answer that stops nothing: no refusal, and a scan without an error that has looked at
nothing. -/
def Result.Permits : Result → Prop
  | .decision refusal => refusal = none
  | .scan error examined => error = none ∧ examined = []
  | _ => True

namespace Action

variable {ι : Type}

/-- Whether a call is made to serve requests, and not to run the agent. -/
def isServing : Action ι → Bool
  | .install _ => false
  | .advance => false
  | .setDisabled _ => false
  | .takeStats => false
  | _ => true

variable [DecidableEq ι]

def user? (i : ι) : Action ι → Option User
  | .setUser j id name => if j = i then (User.ofTexts id name).toOption else none
  | _ => none

def group? (i : ι) : Action ι → Option String
  | .setGroup j group => if j = i then (groupOfText group).toOption else none
  | _ => none

end Action

/-- A context for which a user and a group were set, which counts only before the decision. -/
def Context.identify (user : Option User) (group : Option String) (context : Context) : Context :=
  if context.isDecided then context
    else { context with user := user <|> context.user, group := group <|> context.group }

namespace Context

theorem identify_none (context : Context) : context.identify none none = context := by
  rw [identify]
  split <;> rfl

theorem identify_identify (context : Context) (user later : Option User)
    (group laterGroup : Option String) :
    (context.identify user group).identify later laterGroup
      = context.identify (later <|> user) (laterGroup <|> group) := by
  cases hdecided : context.isDecided with
  | true => simp [identify, hdecided]
  | false =>
    have hstill (user : Option User) (group : Option String) :
        ({ context with user, group } : Context).isDecided = false :=
      hdecided
    simp [identify, hdecided, hstill, Option.or_assoc]

end Context

namespace Agent

theorem setUser_of_disabled {agent : Agent} (h : agent.disabled = true) (context : Context)
    (id name : String) :
    agent.setUser context id name
      = (User.ofTexts id name).map fun user => (agent, context.identify (some user) none) := by
  rw [setUser, h]
  refine congrArg (fun f => (User.ofTexts id name).map f) (funext fun user => ?_)
  rw [Context.identify]
  split <;> rfl

theorem setGroup_eq (context : Context) (group : String) :
    Agent.setGroup context group = (groupOfText group).map
      fun name => context.identify none (some name) := by
  rw [setGroup]
  refine congrArg (fun f => (groupOfText group).map f) (funext fun name => ?_)
  rw [Context.identify]
  split <;> rfl

theorem completed_of_disabled {agent : Agent} (h : agent.disabled = true) (method route : String)
    (status : Nat) :
    agent.completed method route status = agent := by
  rw [completed, h]
  rfl

theorem connected_of_disabled {agent : Agent} (h : agent.disabled = true) (hostname : String)
    (port : Nat) :
    agent.connected hostname port = agent :=
  if_pos h

end Agent

namespace World

variable {ι : Type} [DecidableEq ι]

def result (world : World ι) : Action ι → Result
  | .setUser i id name =>
    .identity ((world.agent.setUser (world.contexts i) id name).map fun _ => ())
  | .setGroup i group => .identity ((Agent.setGroup (world.contexts i) group).map fun _ => ())
  | .decide i => .decision (world.agent.decide (world.contexts i)).1
  | .scan now i operation detector args defer =>
    let outcome := world.agent.scan now (i.map world.contexts) operation detector args defer
    .scan outcome.error outcome.examined
  | .install offered => .installed (world.agent.install offered).1
  | .takeStats => .stats world.agent.stats.snapshot.1
  | .completed .. | .connected .. | .advance | .setDisabled _ => .done

def results (world : World ι) : List (Action ι) → List Result
  | [] => []
  | action :: actions => world.result action :: (world.step action).results actions

/-- The world in which the users and the groups of requests are set that some calls set last. -/
def identify (world : World ι) (calls : List (Action ι)) : World ι where
  agent := world.agent
  contexts i :=
    (world.contexts i).identify (calls.filterMap (Action.user? i)).getLast?
      (calls.filterMap (Action.group? i)).getLast?

theorem results_append (world : World ι) (actions later : List (Action ι)) :
    world.results (actions ++ later) = world.results actions
      ++ (world.run actions).results later := by
  induction actions generalizing world with
  | nil => rfl
  | cons action actions ih => exact congrArg (world.result action :: ·) (ih (world.step action))

theorem identify_nil (world : World ι) : world.identify [] = world :=
  congrArg (World.mk world.agent) (funext fun i => (world.contexts i).identify_none)

variable {world : World ι}

/-! ### One call -/

omit [DecidableEq ι] in
theorem ext_contexts {contexts : ι → Context} (h : ∀ i, contexts i = world.contexts i) :
    { world with contexts } = world := by
  rw [funext h]

theorem identify_singleton (world : World ι) (call : Action ι) :
    world.identify [call]
      = { world with
          contexts := fun i =>
            (world.contexts i).identify (call.user? i) (call.group? i) } := by
  have hlast {α : Type} (read : Action ι → Option α) :
      ([call].filterMap read).getLast? = read call := by
    rw [List.filterMap_cons]
    cases read call <;> rfl
  simp only [identify, hlast]

theorem identify_of_none {call : Action ι} (h : ∀ i, call.user? i = none ∧ call.group? i = none) :
    world.identify [call] = world := by
  rw [identify_singleton]
  refine ext_contexts fun i => ?_
  rw [(h i).1, (h i).2, Context.identify_none]

theorem identify_eq_put {call : Action ι} {i : ι}
    (h : ∀ j, j ≠ i → call.user? j = none ∧ call.group? j = none) :
    world.identify [call]
      = world.put i ((world.contexts i).identify (call.user? i) (call.group? i)) := by
  rw [identify_singleton]
  refine congrArg (World.mk world.agent) (funext fun j => ?_)
  by_cases hsame : j = i
  · rw [hsame, Function.update_self]
  · rw [Function.update_of_ne hsame, (h j hsame).1, (h j hsame).2, Context.identify_none]

theorem step_of_disabled (h : world.agent.disabled = true) {call : Action ι}
    (hserving : call.isServing = true) :
    world.step call = world.identify [call] := by
  cases call with
  | setUser i id name =>
    have hothers (j : ι) (hj : j ≠ i) : (Action.setUser i id name).user? j = none
        ∧ (Action.setUser i id name).group? j = none :=
      ⟨if_neg (Ne.symm hj), rfl⟩
    rw [identify_eq_put hothers, step, Agent.setUser_of_disabled h, Action.user?, if_pos rfl]
    cases User.ofTexts id name with
    | ok user => rfl
    | error reason =>
      exact (put_self world i).symm.trans (congrArg (world.put i) (Context.identify_none _).symm)
  | setGroup i group =>
    have hothers (j : ι) (hj : j ≠ i) : (Action.setGroup i group).user? j = none
        ∧ (Action.setGroup i group).group? j = none :=
      ⟨rfl, if_neg (Ne.symm hj)⟩
    rw [identify_eq_put hothers, step, Agent.setGroup_eq, Action.group?, if_pos rfl]
    cases groupOfText group with
    | ok name => rfl
    | error reason =>
      exact (put_self world i).symm.trans (congrArg (world.put i) (Context.identify_none _).symm)
  | decide i =>
    rw [identify_of_none fun _ => ⟨rfl, rfl⟩, step, Agent.decide_of_disabled h]
    exact put_self world i
  | scan now i operation detector args defer =>
    rw [identify_of_none fun _ => ⟨rfl, rfl⟩]
    cases i with
    | none => rw [step, Agent.scan_of_disabled h]
    | some i =>
      rw [step, Agent.scan_of_disabled h]
      exact put_self world i
  | completed method route status =>
    rw [identify_of_none fun _ => ⟨rfl, rfl⟩, step, Agent.completed_of_disabled h]
  | connected hostname port =>
    rw [identify_of_none fun _ => ⟨rfl, rfl⟩, step, Agent.connected_of_disabled h]
  | install => cases hserving
  | advance => cases hserving
  | setDisabled => cases hserving
  | takeStats => cases hserving

omit [DecidableEq ι] in
theorem result_of_disabled (h : world.agent.disabled = true) (call : Action ι) :
    (world.result call).Permits := by
  cases call with
  | decide i =>
    rw [result, Agent.decide_of_disabled h]
    rfl
  | scan now i operation detector args defer =>
    rw [result, Agent.scan_of_disabled h]
    exact ⟨rfl, rfl⟩
  | _ => trivial

/-! ### Many calls -/

theorem identify_identify (world : World ι) (calls : List (Action ι)) (call : Action ι) :
    (world.identify calls).identify [call] = world.identify (calls ++ [call]) := by
  rw [identify_singleton]
  refine congrArg (World.mk world.agent) (funext fun i => ?_)
  have hlast {α : Type} (read : Action ι → Option α) :
      ((calls ++ [call]).filterMap read).getLast?
        = (read call <|> (calls.filterMap read).getLast?) := by
    rw [List.filterMap_append, List.getLast?_append, List.filterMap_cons]
    cases read call <;> rfl
  rw [hlast, hlast]
  exact Context.identify_identify _ _ _ _ _

theorem identify_eq_self {calls : List (Action ι)}
    (h : ∀ i, (world.contexts i).isDecided = true
      ∨ ∀ call ∈ calls, call.user? i = none ∧ call.group? i = none) :
    world.identify calls = world := by
  refine ext_contexts fun i => ?_
  obtain hdecided | hunset := h i
  · exact if_pos hdecided
  · rw [List.filterMap_eq_nil_iff.2 fun call hcall => (hunset call hcall).1,
      List.filterMap_eq_nil_iff.2 fun call hcall => (hunset call hcall).2]
    exact Context.identify_none _

theorem run_of_disabled (h : world.agent.disabled = true) {calls : List (Action ι)}
    (hserving : ∀ call ∈ calls, call.isServing = true) :
    world.run calls = world.identify calls := by
  induction calls using List.reverseRecOn with
  | nil => exact (identify_nil world).symm
  | append_singleton calls call ih =>
    have hbefore := ih fun other hother => hserving other (List.mem_append_left _ hother)
    have hdisabled : (world.identify calls).agent.disabled = true := h
    rw [run_concat, hbefore, step_of_disabled hdisabled (hserving call (by simp)),
      identify_identify]

theorem permits_of_disabled (h : world.agent.disabled = true) {calls : List (Action ι)}
    (hserving : ∀ call ∈ calls, call.isServing = true) {result : Result}
    (hresult : result ∈ world.results calls) :
    result.Permits := by
  induction calls generalizing world with
  | nil => cases hresult
  | cons call calls ih =>
    obtain ⟨hcall, hcalls⟩ := List.forall_mem_cons.1 hserving
    obtain rfl | hlater := List.mem_cons.1 hresult
    · exact result_of_disabled h call
    · have hdisabled :
          (world.step call).agent.disabled = true := by rw [step_of_disabled h hcall]; exact h
      exact ih hdisabled hcalls hlater

/-- Nothing becomes of the calls that serve requests while the agent is disabled, but for the users
and the groups that they set for requests without a decision. They refuse nothing and no scan fails,
and whatever happens later goes as it does without them, with these users and groups. -/
theorem disabled_calls_inert (h : world.agent.disabled = true) {calls : List (Action ι)}
    (hserving : ∀ call ∈ calls, call.isServing = true) :
    (∀ result ∈ world.results calls, result.Permits)
      ∧ (world.run calls).agent = world.agent
      ∧ (∀ i, (world.run calls).contexts i
          = (world.contexts i).identify (calls.filterMap (Action.user? i)).getLast?
            (calls.filterMap (Action.group? i)).getLast?)
      ∧ (∀ later, world.results (calls ++ later)
        = world.results calls ++ (world.identify calls).results later
          ∧ world.run (calls ++ later) = (world.identify calls).run later)
      ∧ ((∀ i, (world.contexts i).isDecided = true
        ∨ ∀ call ∈ calls, call.user? i = none ∧ call.group? i = none) →
          ∀ later, world.results (calls ++ later) = world.results calls ++ world.results later
            ∧ world.run (calls ++ later) = world.run later) := by
  have hrun := run_of_disabled h hserving
  have hlater (later : List (Action ι)) :
      world.results (calls ++ later) = world.results calls ++ (world.identify calls).results later
        ∧ world.run (calls ++ later) = (world.identify calls).run later := by
    have hsplit : world.run (calls ++ later) = (world.run calls).run later := List.foldl_append ..
    rw [results_append, hsplit, hrun]
    exact ⟨rfl, rfl⟩
  refine ⟨fun result hresult => permits_of_disabled h hserving hresult,
    by rw [hrun]; rfl, fun i => by rw [hrun]; rfl,
    hlater, fun hunset => ?_⟩
  have hsame : world.identify calls = world := identify_eq_self hunset
  rwa [hsame] at hlater

/-- A user who is refused signs in while the agent is disabled, after a decision and a scan that
would have found an attack. The refusal comes when the agent is enabled again. -/
theorem disabled_calls_inert_blocked_user :
    let requests : Unit → Request.Parts := fun _ => { method := "GET", url := "/?id=1" }
    let detector : Detector Unit := { kind := .sqlInjection, judge := fun _ _ => .ok (some {}) }
    let world : World Unit :=
      (start {} requests).run [.install { version := 1, blockedUsers := ["mallory"] },
        .setDisabled true]
    let calls : List (Action Unit) :=
      [.decide (), .scan 0 (some ()) "query" detector () false, .setUser () "mallory" "Mallory",
        .connected "db" 5432]
    let later : List (Action Unit) := [.setDisabled false, .decide ()]
    world.agent.disabled = true ∧ (∀ call ∈ calls, call.isServing = true)
      ∧ (∀ result ∈ world.results calls, result.Permits)
      ∧ (world.run calls).agent = world.agent
      ∧ ((world.run calls).contexts ()).user = some { id := "mallory", name := "Mallory" }
      ∧ world.results (calls ++ later) = world.results calls ++ (world.identify calls).results later
      ∧ (world.identify calls).results later
        = [.done, .decision (some (.blockedUser "mallory"))] := by
  intro requests detector world calls later
  have hdisabled : world.agent.disabled = true := rfl
  have hserving : ∀ call ∈ calls, call.isServing = true := by simp [calls, Action.isServing]
  obtain ⟨hpermits, hagent, hcontexts, hlater, -⟩ := disabled_calls_inert hdisabled hserving
  have huser :
      ((world.run calls).contexts ()).user = some { id := "mallory", name := "Mallory" } := by
    rw [hcontexts]
    decide +kernel
  have hrefused :
    (((world.identify calls).step (.setDisabled false)).agent.decide
      ((world.identify calls).contexts ())).1
      = some (.blockedUser "mallory") := by decide +kernel
  refine ⟨hdisabled, hserving, hpermits, hagent, huser, (hlater later).1, ?_⟩
  show [Result.done,
    .decision (((world.identify calls).step (.setDisabled false)).agent.decide _).1] = _
  rw [← hrefused]
  rfl

end World

end RequestGuard
