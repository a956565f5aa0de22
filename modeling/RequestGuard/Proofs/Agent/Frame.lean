import RequestGuard.Proofs.Agent.Run

/-!
# What calls leave alone

A call is made for one request or for none, and leaves the contexts of all other requests as they
are (`World.contexts_step_of_ne`). `World.Touched` lists what it can change in the context of its
own request. Of what the agent counts and reports, a report changes the tally of attacks and the
events; `Agent.SameReports` is what all other parts of a scan keep.

`World.Sometime` says that one of the calls of a run had a property when it was made. It is how the
past of a run is spoken of.
-/

namespace RequestGuard

def Action.request? {ι : Type} : Action ι → Option ι
  | .setUser i _ _ => some i
  | .setGroup i _ => some i
  | .decide i => some i
  | .scan _ i _ _ _ _ => i
  | _ => none

def Action.scanned? {ι : Type} : Action ι → Option ι
  | .scan _ i _ _ _ _ => i
  | _ => none

theorem Action.exists_scan {ι : Type} {action : Action ι} {i : ι} (h : action.scanned? = some i) :
    ∃ (Args : Type) (now : Nat) (operation : String) (detector : Detector Args) (args : Args)
      (defer : Bool),
      action = .scan now (some i) operation detector args defer := by
  cases action with
  | scan now j operation detector args defer =>
    obtain rfl : j = some i := h
    exact ⟨_, now, operation, detector, args, defer, rfl⟩
  | _ => cases h

namespace World

variable {ι : Type} [DecidableEq ι] {world : World ι}

/-- One of the calls of a run had a property in the world in which it was made. -/
def Sometime (property : World ι → Action ι → Prop) (world : World ι)
    (actions : List (Action ι)) : Prop :=
  ∃ before action after, actions = before ++ action :: after ∧ property (world.run before) action

theorem run_concat (world : World ι) (actions : List (Action ι)) (action : Action ι) :
    world.run (actions ++ [action]) = (world.run actions).step action := by
  rw [run, run, List.foldl_append]
  rfl

theorem not_sometime_nil (property : World ι → Action ι → Prop) : ¬ world.Sometime property [] := by
  rintro ⟨before, action, after, heq, -⟩
  exact List.append_ne_nil_of_right_ne_nil before (List.cons_ne_nil action after) heq.symm

theorem sometime_concat_iff {property : World ι → Action ι → Prop} {actions : List (Action ι)}
    {action : Action ι} :
    world.Sometime property (actions ++ [action])
      ↔ world.Sometime property actions ∨ property (world.run actions) action := by
  constructor
  · rintro ⟨before, found, after, heq, hfound⟩
    obtain rfl | ⟨later, last, rfl⟩ := List.eq_nil_or_concat after
    · obtain ⟨rfl, hlast⟩ := List.append_inj' heq rfl
      obtain rfl := List.head_eq_of_cons_eq hlast
      exact .inr hfound
    · rw [List.concat_eq_append, ← List.cons_append, ← List.append_assoc] at heq
      obtain ⟨rfl, -⟩ := List.append_inj' heq rfl
      exact .inl ⟨before, found, later, rfl, hfound⟩
  · rintro (⟨before, found, after, rfl, hfound⟩ | hlast)
    · exact ⟨before, found, after ++ [action], by simp, hfound⟩
    · exact ⟨actions, action, [], rfl, hlast⟩

/-! ### Contexts -/

theorem put_self (world : World ι) (i : ι) : world.put i (world.contexts i) = world := by
  rw [put, Function.update_eq_self]

theorem contexts_put_of_ne {i j : ι} (h : j ≠ i) (context : Context) :
    (world.put j context).contexts i = world.contexts i := by
  rw [contexts_put, if_neg (Ne.symm h)]

theorem contexts_put_self (world : World ι) (i : ι) (context : Context) :
    (world.put i context).contexts i = context := by
  rw [contexts_put, if_pos rfl]

theorem contexts_step_of_ne {i : ι} {action : Action ι} (h : action.request? ≠ some i) :
    (world.step action).contexts i = world.contexts i := by
  cases action with
  | setUser j id name =>
    rw [step]
    split
    · exact contexts_put_of_ne (fun hsame => h (congrArg some hsame)) _
    · rfl
  | setGroup j group =>
    rw [step]
    split
    · exact contexts_put_of_ne (fun hsame => h (congrArg some hsame)) _
    · rfl
  | decide j => exact contexts_put_of_ne (fun hsame => h (congrArg some hsame)) _
  | scan now j operation detector args defer =>
    cases j with
    | none => rfl
    | some j => exact contexts_put_of_ne (fun hsame => h (congrArg some hsame)) _
  | completed => rfl
  | connected => rfl
  | install => rfl
  | advance => rfl
  | setDisabled => rfl
  | takeStats => rfl

theorem contexts_step_scan (world : World ι) (i : ι) {Args : Type} (now : Nat)
    (operation : String) (detector : Detector Args) (args : Args) (defer : Bool) :
    some ((world.step (.scan now (some i) operation detector args defer)).contexts i)
      = (world.agent.scan now (some (world.contexts i)) operation detector args defer).context := by
  obtain ⟨after, hafter, -⟩ :=
    world.agent.context_scan now (world.contexts i) operation detector args defer
  rw [step, contexts_put_self, hafter]
  rfl

/-- What a call leaves of the context of a request. Only an undecided request gets a user, a group
or a decision. -/
inductive Touched (world : World ι) (i : ι) : Action ι → Context → Prop where
  | same (action : Action ι) : Touched world i action (world.contexts i)
  | setUser (h : (world.contexts i).isDecided = false) (id name : String) (user : User) :
      Touched world i (.setUser i id name) { world.contexts i with user }
  | setGroup (h : (world.contexts i).isDecided = false) (name : String) (group : Option String) :
      Touched world i (.setGroup i name) { world.contexts i with group }
  | decide (h : (world.contexts i).isDecided = false) (henabled : world.agent.disabled = false)
    (decision : Option Refusal) :
      Touched world i (.decide i) { world.contexts i with decision := some decision }
  | scan {Args : Type} (now : Nat) (operation : String) (detector : Detector Args)
    (args : Args) (defer : Bool)
      {after : Context} (h : Agent.ScanKeeps world.agent.settings.protection.limits
        (world.contexts i) after) :
      Touched world i (.scan now (some i) operation detector args defer) after

theorem touched_step (world : World ι) (i : ι) (action : Action ι) :
    world.Touched i action ((world.step action).contexts i) := by
  by_cases hrequest : action.request? = some i
  · cases action with
    | setUser j id name =>
      obtain rfl := Option.some.inj hrequest
      rw [step]
      split
      · rename_i after changed hset
        rw [contexts_put_self]
        obtain rfl | ⟨hundecided, user, -, rfl⟩ := (Agent.setUser_eq_ok hset).2
        · exact .same _
        · exact .setUser hundecided id name user
      · exact .same _
    | setGroup j name =>
      obtain rfl := Option.some.inj hrequest
      rw [step]
      split
      · rename_i changed hset
        rw [contexts_put_self]
        obtain rfl | ⟨hundecided, group, rfl⟩ := Agent.setGroup_eq_ok hset
        · exact .same _
        · exact .setGroup hundecided name group
      · exact .same _
    | decide j =>
      obtain rfl := Option.some.inj hrequest
      rw [step_decide, contexts_put_self]
      obtain ⟨-, hsame⟩ | ⟨henabled, hundecided, -, hafter⟩ :=
        world.agent.decide_cases (world.contexts j)
      · rw [hsame]
        exact .same _
      · rw [hafter]
        exact .decide hundecided henabled _
    | scan now j operation detector args defer =>
      obtain rfl : j = some i := hrequest
      obtain ⟨after, hafter, hkeeps⟩ :=
        world.agent.context_scan now (world.contexts i) operation detector args defer
      obtain rfl :=
        Option.some.inj
          ((world.contexts_step_scan i now operation detector args defer).trans hafter)
      exact .scan now operation detector args defer hkeeps
    | completed => cases hrequest
    | connected => cases hrequest
    | install => cases hrequest
    | advance => cases hrequest
    | setDisabled => cases hrequest
    | takeStats => cases hrequest
  · rw [contexts_step_of_ne hrequest]
    exact .same _

end World

/-! ### What is counted and reported -/

def Stats.attacksAt (stats : Stats) (operation : String) : AttackCount :=
  ((Keyed.find? operation stats.operations).map OperationStats.attacks).getD {}

namespace Agent

/-- Two agents that have counted the same requests and reported the same attacks, whatever calls of
operations they have counted. -/
structure SameReports (before after : Agent) : Prop where
  requests : after.stats.current.requests = before.stats.current.requests
  attacks (operation : String) : after.stats.current.attacksAt operation
    = before.stats.current.attacksAt operation
  throttle : after.throttle = before.throttle
  channel : after.channel = before.channel

theorem SameReports.refl (agent : Agent) : agent.SameReports agent := ⟨rfl, fun _ => rfl, rfl, rfl⟩

theorem SameReports.trans {first second third : Agent} (h : first.SameReports second)
    (h' : second.SameReports third) :
    first.SameReports third where
  requests := h'.requests.trans h.requests
  attacks operation := (h'.attacks operation).trans (h.attacks operation)
  throttle := h'.throttle.trans h.throttle
  channel := h'.channel.trans h.channel

theorem attacksAt_updateOperation (stats : Stats) (operation other : String) (kind : AttackKind)
    {change : OperationStats → OperationStats}
    (hchange : ∀ old, (change old).attacks = old.attacks) :
    (stats.updateOperation operation kind change).attacksAt other = stats.attacksAt other := by
  rw [Stats.attacksAt, Stats.updateOperation, Keyed.find?_update, Stats.attacksAt]
  split
  · rename_i hsame
    subst hsame
    rw [Option.map_some, Option.getD_some, hchange]
    cases Keyed.find? other stats.operations <;> rfl
  · rfl

theorem sameReports_updateOperation (agent : Agent) (operation : String) (kind : AttackKind)
    {change : OperationStats → OperationStats}
    (hchange : ∀ old, (change old).attacks = old.attacks) :
    agent.SameReports { agent with stats := agent.stats.updateOperation operation kind change } :=
  ⟨rfl, fun _ => attacksAt_updateOperation _ _ _ _ hchange, rfl, rfl⟩

theorem sameReports_countCall (agent : Agent) (operation : String) (kind : AttackKind)
    (withContext : Bool) :
    agent.SameReports (agent.countCall operation kind withContext) :=
  agent.sameReports_updateOperation operation kind fun _ => rfl

theorem sameReports_countFailures (agent : Agent) (operation : String) (kind : AttackKind)
    (count : Nat) :
    agent.SameReports (agent.countFailures operation kind count) := by
  induction count with
  | zero => exact SameReports.refl agent
  | succ count ih =>
    exact ih.trans (sameReports_updateOperation (agent.countFailures operation kind count) operation
      kind fun _ => rfl)

theorem sameReports_install (agent : Agent) (offered : Policy.Snapshot) :
    agent.SameReports (agent.install offered).2 := by
  unfold install
  dsimp only
  split <;> exact ⟨rfl, fun _ => rfl, rfl, rfl⟩

theorem sameReports_setDisabled (agent : Agent) (disabled : Bool) :
    agent.SameReports (agent.setDisabled disabled) :=
  ⟨rfl, fun _ => rfl, rfl, rfl⟩

theorem requests_report (agent : Agent) (now : Nat) (context : Option Context) (attack : Attack) :
    (agent.report now context attack).stats.current.requests
      = { agent.stats.current.requests with
          attacks := agent.stats.current.requests.attacks.add attack.blocked } := by
  rw [stats_report]
  rfl

theorem attacksAt_report (agent : Agent) (now : Nat) (context : Option Context) (attack : Attack)
    (operation : String) :
    (agent.report now context attack).stats.current.attacksAt operation
      = if operation = attack.operation then
          (agent.stats.current.attacksAt operation).add attack.blocked
        else agent.stats.current.attacksAt operation := by
  rw [stats_report, Stats.attacksAt, Stats.Collector.attack, Stats.Collector.updateOperation,
    Stats.updateOperation, Keyed.find?_update]
  split
  · rename_i hsame
    subst hsame
    rw [Option.map_some, Option.getD_some, Stats.attacksAt]
    show (((Keyed.find? attack.operation agent.stats.current.operations).getD _).attacks.add _) = _
    cases Keyed.find? attack.operation agent.stats.current.operations <;> rfl
  · rfl

/-- The second of two agents has reported one attack more, at a time and in a context: the attack is
counted among all attacks and at its operation, and its event is sent if the throttle has room. -/
structure Reports (before : Agent) (now : Nat) (context : Option Context) (attack : Attack)
    (after : Agent) : Prop where
  requests : after.stats.current.requests =
    { before.stats.current.requests with
      attacks := before.stats.current.requests.attacks.add attack.blocked }
  attacks (operation : String) : after.stats.current.attacksAt operation =
    if operation = attack.operation then
      (before.stats.current.attacksAt operation).add attack.blocked
    else before.stats.current.attacksAt operation
  throttle : after.throttle = (before.throttle.record now).2
  channel : after.channel =
    if (before.throttle.record now).1 then
      before.channel.send (.ofAttack before.info attack context)
    else before.channel

theorem reports_report (agent : Agent) (now : Nat) (context : Option Context) (attack : Attack) :
    agent.Reports now context attack (agent.report now context attack) where
  requests := agent.requests_report now context attack
  attacks := agent.attacksAt_report now context attack
  throttle := agent.throttle_report now context attack
  channel := agent.channel_report now context attack

/-- Calls of operations that were counted before do not matter to a report. -/
theorem SameReports.reports {first second third : Agent} (h : first.SameReports second)
    (hinfo : second.info = first.info) {now : Nat} {context : Option Context} {attack : Attack}
    (h' : second.Reports now context attack third) : first.Reports now context attack third where
  requests := by rw [h'.requests, h.requests]
  attacks operation := by rw [h'.attacks, h.attacks]
  throttle := by rw [h'.throttle, h.throttle]
  channel := by rw [h'.channel, h.throttle, h.channel, hinfo]

theorem Searched.sameReports {agent : Agent} {now : Nat} {context : Context} {operation : String}
    {kind : AttackKind} {outcome : Scan.Outcome}
    (h : agent.Searched now context operation kind true outcome) :
    outcome.error = none ∧ agent.SameReports outcome.agent := by
  cases h with
  | nothing failures _ _ => exact ⟨rfl, agent.sameReports_countFailures operation kind failures⟩
  | stored failures _ _ _ => exact ⟨rfl, agent.sameReports_countFailures operation kind failures⟩

end Agent

end RequestGuard
