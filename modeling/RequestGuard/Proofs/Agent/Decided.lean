import Mathlib.Data.List.Induction
import RequestGuard.Proofs.Agent.Frame

/-!
# One decision on a request

An enabled agent that is asked for its decision on a request (`World.Asks`) decides the first time
and gives that decision again every other time. The first time is the only one at which a call for
the request touches the limiter or what is counted of decisions, and after it the user and the group
of the request stay what they are (`World.decides_once`).
-/

namespace RequestGuard

/-- How many requests were decided on, refused, and refused by a rate limit. -/
def RequestStats.decisions (stats : RequestStats) :
    Nat × Nat × Nat := (stats.total, stats.aborted, stats.rateLimited)

namespace Agent

theorem SameReports.decisions {before after : Agent} (h : before.SameReports after) :
    after.stats.current.requests.decisions = before.stats.current.requests.decisions := by
  rw [h.requests]

theorem decisions_report (agent : Agent) (now : Nat) (context : Option Context) (attack : Attack) :
    (agent.report now context attack).stats.current.requests.decisions
      = agent.stats.current.requests.decisions := by
  rw [requests_report]
  rfl

theorem Searched.decisions {agent : Agent} {now : Nat} {context : Context} {operation : String}
    {kind : AttackKind} {defer : Bool} {outcome : Scan.Outcome}
    (h : agent.Searched now context operation kind defer outcome) :
    outcome.agent.stats.current.requests.decisions = agent.stats.current.requests.decisions := by
  cases h with
  | nothing failures _ _ =>
    exact (agent.sameReports_countFailures operation kind failures).decisions
  | stored failures _ _ _ =>
    exact (agent.sameReports_countFailures operation kind failures).decisions
  | reported failures _ _ _ =>
    exact (decisions_report _ _ _ _).trans
      (agent.sameReports_countFailures operation kind failures).decisions

theorem Scanned.decisions {agent : Agent} {now : Nat} {context : Context} {operation : String}
    {kind : AttackKind} {defer : Bool} {outcome : Scan.Outcome}
    (h : agent.Scanned now context operation kind defer outcome) :
    outcome.agent.stats.current.requests.decisions = agent.stats.current.requests.decisions := by
  have hcounted := (agent.sameReports_countCall operation kind true).decisions
  cases h with
  | disabled _ => rfl
  | off _ _ => exact hcounted
  | settled _ _ _ _ =>
    unfold settle
    dsimp only
    split
    · exact hcounted
    · exact (decisions_report _ _ _ _).trans hcounted
  | searched _ _ _ hsearched => exact hsearched.decisions.trans hcounted

theorem requests_setUser {agent after : Agent} {context changed : Context} {id name : String}
    (h : agent.setUser context id name = .ok (after, changed)) :
    after.stats.current.requests = agent.stats.current.requests := by
  unfold setUser at h
  cases huser : User.ofTexts id name with
  | error reason =>
    rw [huser] at h
    cases h
  | ok user =>
    rw [huser] at h
    simp only [Except.map, Except.ok.injEq] at h
    split at h
    · rw [← (Prod.mk.inj h).1]
    · rw [← (Prod.mk.inj h).1]
      split
      · rfl
      · exact Stats.Collector.requests_user _ _ _

theorem requests_countDecision (agent : Agent) (decision : Option Refusal) :
    (agent.countDecision decision).stats.current.requests
      = { agent.stats.current.requests with
          total := agent.stats.current.requests.total + 1
          aborted := agent.stats.current.requests.aborted + if decision.isSome then 1 else 0
          rateLimited := agent.stats.current.requests.rateLimited
            + if decision.any Refusal.isRateLimited then 1 else 0 } := by
  unfold countDecision
  cases decision with
  | none => simp [Stats.Collector.request, Stats.Collector.updateRequests]
  | some refusal =>
    cases hlimited : refusal.isRateLimited <;>
      simp [hlimited, Stats.Collector.request, Stats.Collector.aborted, Stats.Collector.rateLimited,
        Stats.Collector.updateRequests]

/-! ### Users and groups -/

theorem setUser_of_empty (agent : Agent) (context : Context) {id name : String}
    (h : Text.trim id = "" ∨ Text.trim name = "") :
    agent.setUser context id name = .error .emptyUser := by
  have hempty : User.ofTexts id name = .error .emptyUser := if_pos (by simpa using h)
  rw [setUser, hempty]
  rfl

theorem setGroup_of_empty (context : Context) {group : String} (h : Text.trim group = "") :
    Agent.setGroup context group = .error .emptyGroup := by
  have hempty : groupOfText group = .error .emptyGroup := if_pos (by simpa using h)
  rw [setGroup, hempty]
  rfl

end Agent

namespace Context

/-- Two contexts with the same decision, the same user and the same group. -/
structure SameVerdict (before after : Context) : Prop where
  decision : after.decision = before.decision
  user : after.user = before.user
  group : after.group = before.group

theorem SameVerdict.refl (context : Context) : SameVerdict context context := ⟨rfl, rfl, rfl⟩

theorem SameVerdict.trans {first second third : Context} (h : SameVerdict first second)
    (h' : SameVerdict second third) :
    SameVerdict first third :=
  ⟨h'.decision.trans h.decision, h'.user.trans h.user, h'.group.trans h.group⟩

end Context

namespace World

variable {ι : Type} [DecidableEq ι] {world : World ι}

/-- An enabled agent is asked for its decision on a request. -/
def Asks (i : ι) (world : World ι) (action : Action ι) :
    Prop := action = .decide i ∧ world.agent.disabled = false

theorem step_setUser_of_error {i : ι} {id name : String} {reason : IdentityError}
    (h : world.agent.setUser (world.contexts i) id name = .error reason) :
    world.step (.setUser i id name) = world := by
  rw [step, h]

theorem step_setGroup_of_error {i : ι} {group : String} {reason : IdentityError}
    (h : Agent.setGroup (world.contexts i) group = .error reason) :
    world.step (.setGroup i group) = world := by
  rw [step, h]

/-- Once there is a decision on a request, nothing becomes of setting its user. -/
theorem step_setUser_of_decided {i : ι} (h : (world.contexts i).isDecided = true)
    (id name : String) :
    world.step (.setUser i id name) = world := by
  rw [step, Agent.setUser]
  cases User.ofTexts id name with
  | error reason => rfl
  | ok user =>
    simp only [Except.map, h, if_true]
    exact put_self world i

theorem step_setGroup_of_decided {i : ι} (h : (world.contexts i).isDecided = true)
    (group : String) :
    world.step (.setGroup i group) = world := by
  rw [step, Agent.setGroup]
  cases groupOfText group with
  | error reason => rfl
  | ok name =>
    simp only [Except.map, h, if_true]
    exact put_self world i

/-! ### The decision in a run -/

omit [DecidableEq ι] in
theorem Touched.decision {i : ι} {action : Action ι} {after : Context}
    (h : world.Touched i action after) (hasks : ¬ Asks i world action) :
    after.decision = (world.contexts i).decision := by
  cases h with
  | same _ => rfl
  | setUser _ _ _ _ => rfl
  | setGroup _ _ _ => rfl
  | decide _ henabled _ => exact absurd ⟨rfl, henabled⟩ hasks
  | scan _ _ _ _ _ hkeeps => exact hkeeps.decision

theorem decision_step_of_asks {i : ι} {action : Action ι} (h : Asks i world action) :
    ((world.step action).contexts i).decision = some (world.agent.decide (world.contexts i)).1 := by
  obtain ⟨rfl, henabled⟩ := h
  rw [step_decide, contexts_put_self]
  cases hdecision : (world.contexts i).decision with
  | some decision =>
    rw [Agent.decide_of_decided henabled hdecision]
    exact hdecision
  | none => rw [Agent.decide_of_undecided henabled hdecision]

/-- There is a decision on a request as soon as an enabled agent was asked for it. -/
theorem isDecided_run_iff {i : ι} (h : (world.contexts i).isDecided = false)
    (actions : List (Action ι)) :
    ((world.run actions).contexts i).isDecided = true ↔ world.Sometime (Asks i) actions := by
  induction actions using List.reverseRecOn with
  | nil =>
    rw [run, List.foldl_nil, h]
    exact ⟨fun hdecided => absurd hdecided Bool.false_ne_true,
      fun hsometime => absurd hsometime (not_sometime_nil _)⟩
  | append_singleton actions action ih =>
    rw [run_concat, sometime_concat_iff, ← ih]
    by_cases hasks : Asks i (world.run actions) action
    · rw [Context.isDecided, decision_step_of_asks hasks]
      exact ⟨fun _ => .inr hasks, fun _ => rfl⟩
    · rw [Context.isDecided, (touched_step _ i action).decision hasks]
      exact ⟨.inl, fun hor => hor.resolve_right hasks⟩

omit [DecidableEq ι] in
theorem Touched.sameVerdict {i : ι} {action : Action ι} {after : Context}
    (h : world.Touched i action after) (hdecided : (world.contexts i).isDecided = true) :
    (world.contexts i).SameVerdict after := by
  cases h with
  | same _ => exact Context.SameVerdict.refl _
  | setUser hundecided _ _ _ => exact absurd hdecided (ne_true_of_eq_false hundecided)
  | setGroup hundecided _ _ => exact absurd hdecided (ne_true_of_eq_false hundecided)
  | decide hundecided _ _ => exact absurd hdecided (ne_true_of_eq_false hundecided)
  | scan _ _ _ _ _ hkeeps => exact ⟨hkeeps.decision, hkeeps.user, hkeeps.group⟩

theorem sameVerdict_run {i : ι} (h : (world.contexts i).isDecided = true)
    (actions : List (Action ι)) :
    (world.contexts i).SameVerdict ((world.run actions).contexts i) := by
  induction actions using List.reverseRecOn with
  | nil => exact Context.SameVerdict.refl _
  | append_singleton actions action ih =>
    have hdecided : ((world.run actions).contexts i).isDecided = true := by
      rw [Context.isDecided, ih.decision]
      exact h
    rw [run_concat]
    exact ih.trans ((touched_step _ i action).sameVerdict hdecided)

/-- Two worlds with the same limiter, in which the same decisions were counted. -/
structure SameTally (before after : World ι) : Prop where
  limiter : after.agent.limiter = before.agent.limiter
  decisions :
    after.agent.stats.current.requests.decisions = before.agent.stats.current.requests.decisions

/-- The decision on a request, its user and its group stand. -/
structure Stands (i : ι) (decision : Option Refusal) (user : Option User) (group : Option String)
    (world : World ι) : Prop where
  again (h : world.agent.disabled = false) : (world.agent.decide (world.contexts i)).1 = decision
  user : (world.contexts i).user = user
  group : (world.contexts i).group = group
  setUser (id name : String) : world.step (.setUser i id name) = world
  setGroup (name : String) : world.step (.setGroup i name) = world

theorem Stands.of_sameVerdict {i : ι} {context : Context} {decision : Option Refusal}
    (hdecision : context.decision = some decision) (h : context.SameVerdict (world.contexts i)) :
    world.Stands i decision context.user context.group := by
  have hsome : (world.contexts i).decision = some decision := h.decision.trans hdecision
  have hdecided : (world.contexts i).isDecided = true := by
    rw [Context.isDecided, hsome]
    rfl
  refine ⟨fun henabled => ?_, h.user, h.group, step_setUser_of_decided hdecided,
    step_setGroup_of_decided hdecided⟩
  rw [Agent.decide_of_decided henabled hsome]

/-- Only the first time that it is asked for a decision on a request does an agent touch the
limiter, and what is counted of decisions, in a call for the request. -/
theorem sameTally_step {i : ι} {action : Action ι} (hrequest : action.request? = some i)
    (hdecided : Asks i world action → (world.contexts i).isDecided = true) :
    world.SameTally (world.step action) := by
  cases action with
  | setUser j id name =>
    rw [step]
    split
    · rename_i after changed hset
      exact ⟨(Agent.setUser_eq_ok hset).1.limiter,
        congrArg RequestStats.decisions (Agent.requests_setUser hset)⟩
    · exact ⟨rfl, rfl⟩
  | setGroup j group =>
    rw [step]
    split <;> exact ⟨rfl, rfl⟩
  | decide j =>
    obtain rfl := Option.some.inj hrequest
    have hagent : (world.step (.decide j)).agent = world.agent := by
      show (world.agent.decide (world.contexts j)).2.1 = world.agent
      obtain ⟨-, hsame⟩ | ⟨henabled, hundecided, -⟩ := world.agent.decide_cases (world.contexts j)
      · rw [hsame]
      · exact absurd (hdecided ⟨rfl, henabled⟩) (ne_true_of_eq_false hundecided)
    exact ⟨by rw [hagent], by rw [hagent]⟩
  | scan now j operation detector args defer =>
    obtain rfl : j = some i := hrequest
    have hscanned := world.agent.scanned_scan now (world.contexts i) operation detector args defer
    exact ⟨(world.agent.sameRules_scan now _ operation detector args defer).limiter,
      hscanned.decisions⟩
  | completed => cases hrequest
  | connected => cases hrequest
  | install => cases hrequest
  | advance => cases hrequest
  | setDisabled => cases hrequest
  | takeStats => cases hrequest

/-- There is one decision on a request. The first time that an enabled agent is asked for it, it
decides by the policy, counts the decision, and counts the request towards its limit; the decision,
the user and the group of the request stand from then on. No other call for the request touches the
limiter or what is counted of decisions, and a user or a group without a name is never accepted. -/
theorem decides_once (settings : Settings) (requests : ι → Request.Parts) (i : ι)
    (earlier : List (Action ι)) :
    let fresh := start settings requests
    let world := fresh.run earlier
    let context := world.contexts i
    (∀ action, action.request? = some i → (Asks i world action → fresh.Sometime (Asks i) earlier) →
        world.SameTally (world.step action))
      ∧ (¬ fresh.Sometime (Asks i) earlier → world.agent.disabled = false →
          let verdict :=
            Decision.decide world.agent.policy world.agent.limiter context.request
              context.user context.group
          let counted := world.agent.stats.current.requests
          let asked := world.step (.decide i)
          (world.agent.decide context).1 = verdict.1 ∧ asked.agent.limiter = verdict.2
            ∧ asked.agent.stats.current.requests
              = { counted with
                  total := counted.total + 1
                  aborted := counted.aborted + if verdict.1.isSome then 1 else 0
                  rateLimited := counted.rateLimited
                    + if verdict.1.any Refusal.isRateLimited then 1 else 0 }
            ∧ ∀ later, (asked.run later).Stands i verdict.1 context.user context.group)
      ∧ (∀ id name, Text.trim id = "" ∨ Text.trim name = "" →
          world.agent.setUser context id name = .error .emptyUser
            ∧ world.step (.setUser i id name) = world)
      ∧ ∀ group, Text.trim group = "" →
          Agent.setGroup context group = .error .emptyGroup
            ∧ world.step (.setGroup i group) = world := by
  intro fresh world context
  have hdecided : context.isDecided = true ↔ fresh.Sometime (Asks i) earlier :=
    isDecided_run_iff rfl earlier
  refine ⟨?_, ?_, ?_, ?_⟩
  · intro action hrequest hasked
    exact sameTally_step hrequest fun hasks => hdecided.2 (hasked hasks)
  · intro hfirst henabled verdict counted asked
    have hnone : context.decision = none := by
      rw [← Option.isNone_iff_eq_none, ← Option.isSome_eq_false_iff, ← Bool.not_eq_true]
      exact fun hsome => hfirst (hdecided.1 hsome)
    obtain ⟨-, hverdict⟩ := Agent.rules_decide_of_undecided henabled hnone
    have hstep : asked.contexts i = { context with decision := some verdict.1 } := by
      show (world.step (.decide i)).contexts i = _
      rw [step_decide, contexts_put_self, Agent.decide_of_undecided henabled hnone]
      rfl
    have hdecision : (asked.contexts i).decision = some verdict.1 := by rw [hstep]
    refine ⟨congrArg Prod.fst hverdict, congrArg Prod.snd hverdict, ?_, ?_⟩
    · show (world.agent.decide context).2.1.stats.current.requests = _
      rw [Agent.decide_of_undecided henabled hnone]
      exact Agent.requests_countDecision _ _
    · intro later
      have hasked : (asked.contexts i).isDecided = true := by
        rw [Context.isDecided, hdecision]
        rfl
      have hkept := sameVerdict_run hasked later
      have hstands := Stands.of_sameVerdict hdecision hkept
      rw [hstep] at hstands
      exact hstands
  · intro id name hempty
    have herror := world.agent.setUser_of_empty context hempty
    exact ⟨herror, step_setUser_of_error herror⟩
  · intro group hempty
    have herror := Agent.setGroup_of_empty context hempty
    exact ⟨herror, step_setGroup_of_error herror⟩

/-- The user is blocked when the request is decided on. Then a policy that blocks nobody comes into
force, and somebody else is named as the user. -/
theorem decides_once_blocked_user :
    let requests : Unit → Request.Parts := fun _ => { method := "GET", url := "/" }
    let fresh : World Unit := start {} requests
    let earlier : List (Action Unit) :=
      [.install { version := 1, blockedUsers := ["mallory"] }, .setUser () "mallory" "Mallory"]
    let later : List (Action Unit) :=
      [.install { version := 2 }, .setUser () "ada" "Ada", .decide (), .advance]
    let world := fresh.run earlier
    let asked := world.step (.decide ())
    ¬ fresh.Sometime (Asks ()) earlier ∧ world.agent.disabled = false
      ∧ asked.agent.stats.current.requests = { total := 1, aborted := 1, rateLimited := 0 }
      ∧ (asked.run later).Stands () (some (.blockedUser "mallory"))
        (some { id := "mallory", name := "Mallory" }) none
      ∧ asked.SameTally (asked.step (.decide ()))
      ∧ world.step (.setUser () " " "Ada") = world := by
  intro requests fresh earlier later world asked
  have hfirst : ¬ fresh.Sometime (Asks ()) earlier := by
    rw [← isDecided_run_iff rfl]
    decide +kernel
  have hasked : fresh.Sometime (Asks ()) (earlier ++ [.decide ()]) :=
    sometime_concat_iff.2 (.inr ⟨rfl, rfl⟩)
  obtain ⟨-, honce, hempty, -⟩ := decides_once {} requests () earlier
  obtain ⟨hdecision, -, hcounted, hstands⟩ := honce hfirst rfl
  have hblocked : (world.agent.decide (world.contexts ())).1
      = some (.blockedUser "mallory") := by decide +kernel
  obtain ⟨hsame, -⟩ := decides_once {} requests () (earlier ++ [.decide ()])
  refine ⟨hfirst, rfl, hcounted.trans (by decide +kernel), ?_, ?_,
    (hempty " " "Ada" (.inl (by decide))).2⟩
  · rw [← hblocked, hdecision]
    exact hstands later
  · exact hsame (.decide ()) rfl fun _ => hasked

end World

end RequestGuard
