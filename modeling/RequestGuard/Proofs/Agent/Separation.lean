import RequestGuard.Proofs.Agent.Admission
import RequestGuard.Proofs.Agent.Agreement
import RequestGuard.Proofs.Agent.Decided

/-!
# One party cannot use up the limit of another

Two runs of an agent are compared that differ in the requests of one party, whose requests are all
checked against limits under one key. What the runs share is `World.AgreeBut`: the agents agree but
for the counter of that key, and so do the contexts of all other requests. A call that both runs
make keeps it (`World.AgreeBut.step`), and so does a call for a request of the party in one of the
runs alone (`World.agreeBut_step_aside`).

The counters of users and groups lie in one table, where the name of a group begins with `group:`. A
user whose own name is that text shares the counter of the group.
-/

namespace RequestGuard

open Policy (Endpoint Snapshot)
open RateLimit

namespace LimitKey

theorem exists_of?_of_limitKey? {user : Option User} {group : Option String} {text : String}
    (h : Decision.limitKey? user group = some text) (ip : Option String) :
    ∃ key, of? user group ip = some key ∧ key.table = .user ∧ key.text = text := by
  cases group with
  | some name => exact ⟨.group name, rfl, rfl, Option.some.inj h⟩
  | none =>
    obtain ⟨known, rfl, hid⟩ := Option.map_eq_some_iff.1 h
    exact ⟨.user known.id, rfl, rfl, hid⟩

theorem limitKey?_of_of? {user : Option User} {group ip : Option String} {key : LimitKey}
    (h : of? user group ip = some key) (htable : key.table = .user) :
    Decision.limitKey? user group = some key.text := by
  cases group with
  | some name =>
    obtain rfl := Option.some.inj h
    rfl
  | none =>
    cases user with
    | some known =>
      obtain rfl := Option.some.inj h
      rfl
    | none =>
      cases ip with
      | some address =>
        obtain rfl := Option.some.inj h
        cases htable
      | none => cases h

end LimitKey

theorem Context.Serves.limitKey?_ne_empty {settings : Settings} {parts : Request.Parts}
    {context : Context} (h : context.Serves settings parts) :
    Decision.limitKey? context.user context.group ≠ some "" := by
  intro hempty
  unfold Decision.limitKey? at hempty
  split at hempty
  · rename_i name _
    have htext := congrArg String.toList (Option.some.inj hempty)
    rw [String.toList_append] at htext
    cases htext
  · obtain ⟨user, huser, hid⟩ := Option.map_eq_some_iff.1 hempty
    exact h.user huser hid

/-! ### Runs -/

/-- Whether a call is made for a request of a party, or for no request and without an effect on any
decision. -/
def Action.isAside {ι : Type} (party : ι → Bool) (action : Action ι) :
    Bool := action.request?.elim action.isQuiet party

namespace World

variable {ι : Type} {party : ι → Bool} {text : String} {world first second third : World ι}

/-- A call has a request checked against a limit under a key. It does so once, since it decides on
the request. -/
structure ChecksUnder (i : ι) (key : LimitKey) (world : World ι) (action : Action ι) : Prop where
  action_eq : action = .decide i
  enabled : world.agent.disabled = false
  undecided : (world.contexts i).isDecided = false
  reaches :
    (Decision.checkedEndpoint? world.agent.policy (world.contexts i).request
      (world.contexts i).user).isSome = true
  key_eq :
    LimitKey.of? (world.contexts i).user (world.contexts i).group (world.contexts i).request.ip
      = some key

/-- Two worlds that agree but for the requests of a party and for the counter that these share. -/
structure AgreeBut (party : ι → Bool) (text : String) (first second : World ι) : Prop where
  agent : first.agent.AgreeBut text second.agent
  context {i : ι} (h : party i = false) : (first.contexts i).AgreeBut text (second.contexts i)

theorem AgreeBut.refl (party : ι → Bool) (text : String) (world : World ι) :
    world.AgreeBut party text world :=
  ⟨.refl text _, fun _ => .refl text _⟩

theorem AgreeBut.symm (h : first.AgreeBut party text second) : second.AgreeBut party text first :=
  ⟨h.agent.symm, fun hi => (h.context hi).symm⟩

theorem AgreeBut.trans (h : first.AgreeBut party text second)
    (h' : second.AgreeBut party text third) :
    first.AgreeBut party text third :=
  ⟨h.agent.trans h'.agent, fun hi => (h.context hi).trans (h'.context hi)⟩

variable [DecidableEq ι] {settings : Settings} {requests : ι → Request.Parts}

theorem contexts_step_setUser (world : World ι) (i : ι) (id name : String) :
    (world.step (.setUser i id name)).contexts i =
      match User.ofTexts id name with
      | .ok user =>
        if (world.contexts i).isDecided then world.contexts i else { world.contexts i with user }
      | .error _ => world.contexts i := by
  rw [step, Agent.setUser]
  cases User.ofTexts id name with
  | error reason => rfl
  | ok user =>
    simp only [Except.map]
    split <;> exact contexts_put_self ..

theorem contexts_step_setGroup (world : World ι) (i : ι) (name : String) :
    (world.step (.setGroup i name)).contexts i =
      match groupOfText name with
      | .ok group =>
        if (world.contexts i).isDecided then world.contexts i else { world.contexts i with group }
      | .error _ => world.contexts i := by
  rw [step, Agent.setGroup]
  cases groupOfText name with
  | error reason => rfl
  | ok group =>
    simp only [Except.map]
    split <;> exact contexts_put_self ..

theorem AgreeBut.agent_step (h : first.AgreeBut party text second)
    (hserved : first.Served settings requests) {action : Action ι}
    (hother : action.isAside party = false) :
    (first.step action).agent.AgreeBut text (second.step action).agent := by
  cases hquiet : action.isQuiet with
  | true => exact h.agent.of_sameRules (first.sameRules_step hquiet) (second.sameRules_step hquiet)
  | false =>
    cases action with
    | decide i => exact (h.agent.decide (h.context hother) (hserved.context i).limitKey?_ne_empty).1
    | install offered => exact h.agent.install offered
    | advance => exact ⟨h.agent.disabled, h.agent.policy, h.agent.limiter.advance⟩
    | setDisabled disabled => exact ⟨rfl, h.agent.policy, h.agent.limiter⟩
    | _ => cases hquiet

theorem AgreeBut.context_step (h : first.AgreeBut party text second)
    (hserved : first.Served settings requests) (action : Action ι) {i : ι} (hi : party i = false) :
    ((first.step action).contexts i).AgreeBut text ((second.step action).contexts i) := by
  have hcontext := h.context hi
  by_cases hrequest : action.request? = some i
  · cases action with
    | setUser j id name =>
      obtain rfl := Option.some.inj hrequest
      rw [contexts_step_setUser, contexts_step_setUser, hcontext.isDecided]
      cases User.ofTexts id name with
      | error reason => exact hcontext
      | ok user =>
        dsimp only
        split
        · exact hcontext
        · rename_i hundecided
          have hfirst := Bool.eq_false_iff.2 hundecided
          exact .of_undecided hfirst (hcontext.isDecided.trans hfirst) hcontext.request
            rfl hcontext.group
    | setGroup j name =>
      obtain rfl := Option.some.inj hrequest
      rw [contexts_step_setGroup, contexts_step_setGroup, hcontext.isDecided]
      cases groupOfText name with
      | error reason => exact hcontext
      | ok group =>
        dsimp only
        split
        · exact hcontext
        · rename_i hundecided
          have hfirst := Bool.eq_false_iff.2 hundecided
          exact .of_undecided hfirst (hcontext.isDecided.trans hfirst)
            hcontext.request hcontext.user rfl
    | decide j =>
      obtain rfl := Option.some.inj hrequest
      rw [step_decide, step_decide, contexts_put_self, contexts_put_self]
      exact (h.agent.decide hcontext (hserved.context j).limitKey?_ne_empty).2
    | scan now j operation detector args defer =>
      obtain rfl : j = some i := hrequest
      obtain ⟨after, hafter, hkeeps⟩ :=
        first.agent.context_scan now (first.contexts i) operation detector args defer
      obtain ⟨after', hafter', hkeeps'⟩ :=
        second.agent.context_scan now (second.contexts i) operation detector args defer
      obtain rfl :=
        Option.some.inj
          ((first.contexts_step_scan i now operation detector args defer).trans hafter)
      obtain rfl :=
        Option.some.inj
          ((second.contexts_step_scan i now operation detector args defer).trans hafter')
      exact hcontext.of_scanKeeps hkeeps hkeeps'
    | _ => cases hrequest
  · rw [contexts_step_of_ne hrequest, contexts_step_of_ne hrequest]
    exact hcontext

theorem AgreeBut.step (h : first.AgreeBut party text second)
    (hserved : first.Served settings requests) {action : Action ι}
    (hother : action.isAside party = false) :
    (first.step action).AgreeBut party text (second.step action) :=
  ⟨h.agent_step hserved hother, fun hi => h.context_step hserved action hi⟩

theorem agreeBut_step_aside {action : Action ι} (haside : action.isAside party = true)
    (hchecks : ∀ i, party i = true → ∀ key, world.ChecksUnder i key action → key.text = text) :
    world.AgreeBut party text (world.step action) := by
  refine ⟨?_, fun {j} hj => ?_⟩
  · cases hquiet : action.isQuiet with
    | true =>
      exact (Agent.AgreeBut.refl text _).of_sameRules (Agent.SameRules.refl _)
        (world.sameRules_step hquiet)
    | false =>
      cases action with
      | decide i =>
        refine Agent.agreeBut_decide fun henabled hundecided hreaches name hname => ?_
        obtain ⟨key, hkey, -, htext⟩ :=
          LimitKey.exists_of?_of_limitKey? hname (world.contexts i).request.ip
        rw [← htext]
        exact hchecks i haside key ⟨rfl, henabled, hundecided, hreaches, hkey⟩
      | install => cases haside
      | advance => cases haside
      | setDisabled => cases haside
      | _ => cases hquiet
  · have hne : action.request? ≠ some j := by
      intro hrequest
      rw [Action.isAside, hrequest, Option.elim_some, hj] at haside
      cases haside
    rw [contexts_step_of_ne hne]
    exact .refl text _

/-- The requests of a party are checked against limits under one key only. -/
def LimitsParty (party : ι → Bool) (key : LimitKey) (world : World ι)
    (actions : List (Action ι)) : Prop :=
  ∀ i, party i = true → ∀ other, world.Sometime (ChecksUnder i other) actions → other = key

/-- A run agrees with the run without the calls of the party. -/
theorem agreeBut_run_filter (hserved : world.Served settings requests) {key : LimitKey}
    {actions : List (Action ι)} (hparty : world.LimitsParty party key actions) :
    (world.run actions).AgreeBut party key.text
      (world.run (actions.filter fun action => !action.isAside party)) := by
  induction actions using List.reverseRecOn with
  | nil => exact .refl party _ _
  | append_singleton actions action ih =>
    have hbefore :=
      ih fun i hi other hsometime => hparty i hi other (sometime_concat_iff.2 (.inl hsometime))
    rw [run_concat, List.filter_append]
    cases haside : action.isAside party with
    | false =>
      rw [List.filter_cons_of_pos (by rw [haside]; rfl), List.filter_nil, run_concat]
      exact hbefore.step (hserved.run actions) haside
    | true =>
      -- Only the whole run makes this call; the other one stays where it is.
      rw [List.filter_cons_of_neg (by rw [haside]; exact Bool.false_ne_true),
        List.filter_nil, List.append_nil]
      refine AgreeBut.trans
        (AgreeBut.symm (agreeBut_step_aside haside fun i hi other hchecks => ?_)) hbefore
      rw [hparty i hi other (sometime_concat_iff.2 (.inr hchecks))]

/-- A request that is checked against a limit is decided on, and keeps its user and its group. -/
theorem ChecksUnder.step {i : ι} {key : LimitKey} {action : Action ι}
    (h : world.ChecksUnder i key action) :
    ((world.step action).contexts i).isDecided = true
      ∧ ((world.step action).contexts i).user = (world.contexts i).user
      ∧ ((world.step action).contexts i).group = (world.contexts i).group := by
  obtain rfl := h.action_eq
  obtain ⟨-, hafter⟩ :=
    Agent.decide_of_undecided_eq h.enabled (Context.decision_eq_none h.undecided)
  rw [step_decide, contexts_put_self, hafter]
  exact ⟨rfl, rfl, rfl⟩

/-- The key under which a request was checked is still the one that its context gives. -/
theorem of?_run_of_checksUnder (hserved : world.Served settings requests) {i : ι} {key : LimitKey}
    {actions : List (Action ι)} (h : world.Sometime (ChecksUnder i key) actions) :
    let context := (world.run actions).contexts i
    LimitKey.of? context.user context.group context.request.ip = some key := by
  have hrequest := ((hserved.run actions).context i).request
  obtain ⟨before, action, after, rfl, hchecks⟩ := h
  obtain ⟨hdecided, huser, hgroup⟩ := hchecks.step
  have hkept := sameVerdict_run hdecided after
  have hrun : world.run (before ++ action :: after) = ((world.run before).step action).run after :=
    List.foldl_append ..
  have hkey := hchecks.key_eq
  rw [((hserved.run before).context i).request, ← hrequest] at hkey
  intro context
  rw [← hkey, ← huser, ← hgroup, ← hkept.user, ← hkept.group, ← hrun]

theorem limitsParty_of_contexts (hserved : world.Served settings requests) {key : LimitKey}
    {actions : List (Action ι)}
    (h : ∀ i, party i = true →
      let context := (world.run actions).contexts i
        ∀ other ∈ LimitKey.of? context.user context.group context.request.ip, other = key) :
    world.LimitsParty party key actions :=
  fun i hi other hchecks => h i hi other (of?_run_of_checksUnder hserved hchecks)

/-- Two runs that differ in the calls of a party alone, where a request is checked under a key with
another name than the one of the party. -/
theorem decision_run_eq_of_limitsParty (hserved : world.Served settings requests)
    {key other : LimitKey} (htable : other.table = .user) (hne : other.text ≠ key.text)
    {actions others : List (Action ι)}
    (hsame : actions.filter (fun action => !action.isAside party)
      = others.filter (fun action => !action.isAside party))
    (hparty : world.LimitsParty party key actions) (hparty' : world.LimitsParty party key others)
    {j : ι} (hj : party j = false) (hchecked : world.Sometime (ChecksUnder j other) actions) :
    ((world.run others).contexts j).decision = ((world.run actions).contexts j).decision := by
  have hagree : (world.run actions).AgreeBut party key.text (world.run others) := by
    refine (agreeBut_run_filter hserved hparty).trans ?_
    rw [hsame]
    exact (agreeBut_run_filter hserved hparty').symm
  have hkey := of?_run_of_checksUnder hserved hchecked
  exact (hagree.context hj).decision (LimitKey.limitKey?_of_of? hkey htable) hne

/-- Requests that are limited as those of a group never change a decision on a request that is
limited as the one of a user, and the other way round, unless the name of the user is the one that
the group has among the counters. -/
theorem user_and_group_limits_separate (settings : Settings) (requests : ι → Request.Parts)
    {user group : String} (hname : user ≠ "group:" ++ group) (party : ι → Bool)
    {actions others : List (Action ι)}
    (hsame : actions.filter (fun action => !action.isAside party)
      = others.filter (fun action => !action.isAside party)) {j : ι} (hj : party j = false) :
    let fresh := start settings requests
    (fresh.LimitsParty party (.group group) actions →
      fresh.LimitsParty party (.group group) others →
        fresh.Sometime (ChecksUnder j (.user user)) actions →
        ((fresh.run others).contexts j).decision = ((fresh.run actions).contexts j).decision)
      ∧ (fresh.LimitsParty party (.user user) actions →
        fresh.LimitsParty party (.user user) others →
        fresh.Sometime (ChecksUnder j (.group group)) actions →
        ((fresh.run others).contexts j).decision = ((fresh.run actions).contexts j).decision) := by
  intro fresh
  have hserved : fresh.Served settings requests := served_start settings requests
  have htexts : (LimitKey.user user).text ≠ (LimitKey.group group).text := hname
  constructor
  · intro hparty hparty' hchecked
    exact decision_run_eq_of_limitsParty hserved rfl htexts hsame hparty hparty' hj hchecked
  · intro hparty hparty' hchecked
    exact decision_run_eq_of_limitsParty hserved rfl htexts.symm hsame hparty hparty' hj hchecked

/-- Two requests of a group use up the limit of their endpoint, and then a user makes one; and the
other way round. -/
theorem user_and_group_limits_separate_third_request :
    let e : Endpoint :=
      { method := "GET", route := "/", rateLimit := { enabled := true, maxRequests := 1 } }
    let requests : Fin 3 → Request.Parts := fun _ => { method := "GET", url := "/" }
    let install : Action (Fin 3) := .install { version := 1, endpoints := [e] }
    let asMember : Fin 3 → List (Action (Fin 3)) := fun i => [.setGroup i "team", .decide i]
    let asUser : Fin 3 → List (Action (Fin 3)) := fun i => [.setUser i "ada" "Ada", .decide i]
    let userLast := install :: asMember 1 ++ asMember 2 ++ asUser 0
    let userOnly := install :: asUser 0
    let memberLast := install :: asUser 1 ++ asUser 2 ++ asMember 0
    let memberOnly := install :: asMember 0
    (((start {} requests).run userLast).contexts 2).decision
        = some (some (.rateLimited .group none))
      ∧ (((start {} requests).run userLast).contexts 0).decision
        = (((start {} requests).run userOnly).contexts 0).decision
      ∧ (((start {} requests).run memberLast).contexts 2).decision
        = some (some (.rateLimited .user none))
      ∧ (((start {} requests).run memberLast).contexts 0).decision
        = (((start {} requests).run memberOnly).contexts 0).decision := by
  intro e requests install asMember asUser userLast userOnly memberLast memberOnly
  let party : Fin 3 → Bool := fun i => i != 0
  have hname : "ada" ≠ "group:" ++ "team" := by decide
  have hserved := served_start {} requests
  have huser : (((start {} requests).run userLast).contexts 0).decision
      = (((start {} requests).run userOnly).contexts 0).decision := by
    have hsame : userOnly.filter (fun action => !action.isAside party)
        = userLast.filter (fun action => !action.isAside party) := rfl
    obtain ⟨hseparate, -⟩ :=
      user_and_group_limits_separate {} requests hname party hsame (j := 0) rfl
    refine hseparate (limitsParty_of_contexts hserved ?_) (limitsParty_of_contexts hserved ?_)
      ⟨userOnly.take 2, .decide 0, [], rfl, rfl, ?_, ?_, ?_, ?_⟩ <;> decide +kernel
  have hmember : (((start {} requests).run memberLast).contexts 0).decision
      = (((start {} requests).run memberOnly).contexts 0).decision := by
    have hsame : memberOnly.filter (fun action => !action.isAside party)
        = memberLast.filter (fun action => !action.isAside party) := rfl
    obtain ⟨-, hseparate⟩ :=
      user_and_group_limits_separate {} requests hname party hsame (j := 0) rfl
    refine hseparate (limitsParty_of_contexts hserved ?_) (limitsParty_of_contexts hserved ?_)
      ⟨memberOnly.take 2, .decide 0, [], rfl, rfl, ?_, ?_, ?_, ?_⟩ <;> decide +kernel
  exact ⟨by decide +kernel, huser, by decide +kernel, hmember⟩

/-- A user has the name that a group has among the counters. A request of the group uses up his
limit. -/
theorem user_limited_by_requests_of_group :
    let e : Endpoint :=
      { method := "GET", route := "/", rateLimit := { enabled := true, maxRequests := 1 } }
    let requests : Fin 2 → Request.Parts := fun _ => { method := "GET", url := "/" }
    let fresh := start {} requests
    let together : List (Action (Fin 2)) :=
      [.install { version := 1, endpoints := [e] }, .setGroup 1 "team", .decide 1,
        .setUser 0 "group:team" "Mallory", .decide 0]
    let alone := together.filter fun action => !action.isAside (· == 1)
    fresh.LimitsParty (· == 1) (.group "team") together
      ∧ fresh.LimitsParty (· == 1) (.group "team") alone
      ∧ fresh.Sometime (ChecksUnder 0 (.user "group:team")) together
      ∧ fresh.Sometime (ChecksUnder 0 (.user "group:team")) alone
      ∧ ((fresh.run together).contexts 0).decision = some (some (.rateLimited .user none))
      ∧ ((fresh.run alone).contexts 0).decision = some none := by
  intro e requests fresh together alone
  have hserved : fresh.Served {} requests := served_start {} requests
  refine ⟨?_, ?_, ?_, ?_, by decide +kernel, by decide +kernel⟩
  · refine limitsParty_of_contexts hserved ?_
    decide +kernel
  · refine limitsParty_of_contexts hserved ?_
    decide +kernel
  · refine ⟨together.take 4, .decide 0, [], rfl, rfl, ?_, ?_, ?_, ?_⟩ <;> decide +kernel
  · refine ⟨alone.take 2, .decide 0, [], rfl, rfl, ?_, ?_, ?_, ?_⟩ <;> decide +kernel

end World

end RequestGuard
