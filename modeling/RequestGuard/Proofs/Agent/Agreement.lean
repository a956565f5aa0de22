import RequestGuard.Proofs.Agent.Run
import RequestGuard.Proofs.Decision.Order

/-!
# Agents that agree but for one counter

`Limiter.AgreeBut text` relates two limiters with the same limits and the same counters of users and
groups, but for the counter under `text`. `Agent.AgreeBut` and `Context.AgreeBut` relate agents and
contexts in the same way. A decision under another key is the same for both agents
(`Decision.fst_decide_eq`), and no decision ever makes them differ elsewhere
(`Agent.AgreeBut.decide`). Counters of addresses are left out: they also tell requests that are
checked under a user or a group.
-/

namespace RequestGuard

open Policy (Endpoint Snapshot)
open RateLimit

namespace RateLimit.Limiter

/-- Two limiters with the same limits and the same counters of users and groups, but for one of
these counters. -/
structure AgreeBut (text : String) (first second : Limiter) : Prop where
  limit (method route : String) : second.limit? method route = first.limit? method route
  counter (method route : String) {key : String} (h : key ≠ text) :
    second.counter? method route .user key = first.counter? method route .user key

namespace AgreeBut

variable {text : String} {first second third : Limiter}

theorem refl (text : String) (limiter : Limiter) :
    limiter.AgreeBut text limiter := ⟨fun _ _ => rfl, fun _ _ _ _ => rfl⟩

theorem symm (h : first.AgreeBut text second) : second.AgreeBut text first :=
  ⟨fun method route => (h.limit method route).symm,
    fun method route _ hkey => (h.counter method route hkey).symm⟩

theorem trans (h : first.AgreeBut text second) (h' : second.AgreeBut text third) :
    first.AgreeBut text third where
  limit method route := (h'.limit method route).trans (h.limit method route)
  counter method route _ hkey := (h'.counter method route hkey).trans (h.counter method route hkey)

theorem advance (h : first.AgreeBut text second) : first.advance.AgreeBut text second.advance where
  limit method route := by rw [limit?_advance, limit?_advance, h.limit]
  counter method route key hkey := by
    rw [counter?_advance, counter?_advance, h.limit, h.counter _ _ hkey]

theorem count (h : first.AgreeBut text second) (method route : String) (user ip : Option String) :
    (first.count method route user ip).AgreeBut text (second.count method route user ip) where
  limit other path := by rw [limit?_count, limit?_count, h.limit]
  counter other path key hkey := by rw [counter?_count, counter?_count, h.limit, h.counter _ _ hkey]

/-- What is counted for no other user leaves the counters of all other users as they are. -/
theorem of_count (limiter : Limiter) (method route : String) {user : Option String}
    (ip : Option String) (huser : ∀ key, user = some key → key = text) :
    limiter.AgreeBut text (limiter.count method route user ip) where
  limit other path := limiter.limit?_count other path method route user ip
  counter other path key hkey := by
    rw [counter?_count, if_neg]
    rintro ⟨_, _, hcounted, _⟩
    exact hkey (huser key hcounted)

theorem refusal?_eq (h : first.AgreeBut text second) {user : String} (huser : user ≠ "")
    (hother : user ≠ text) (method route : String) (ip : Option String) :
    second.refusal? method route (some user) ip = first.refusal? method route (some user) ip := by
  rw [refusal?_some second method route huser, refusal?_some first method route huser, h.limit,
    h.counter method route hother]

end AgreeBut

end RateLimit.Limiter

namespace Decision

variable {text : String} {snapshot : Snapshot} {limiter first second : Limiter} {request : Request}
  {user : Option User} {group : Option String}

theorem agreeBut_decide (h : (checkedEndpoint? snapshot request user).isSome = true →
      ∀ key, limitKey? user group = some key → key = text) :
    limiter.AgreeBut text (decide snapshot limiter request user group).2 := by
  obtain ⟨hsame, -⟩ | ⟨endpoint, hchecked, -, hcount⟩ :=
    decide_cases snapshot limiter request user group
  · rw [hsame]
    exact .refl text limiter
  · rw [hcount]
    exact .of_count limiter _ _ _ (h (by rw [hchecked]; rfl))

theorem fst_decide_eq (h : first.AgreeBut text second) {key : String}
    (hkey : limitKey? user group = some key) (hempty : key ≠ "") (hother : key ≠ text) :
    (decide snapshot second request user group).1 = (decide snapshot first request user group).1
      ∧ (decide snapshot first request user group).2.AgreeBut text
        (decide snapshot second request user group).2 := by
  cases hchecked : checkedEndpoint? snapshot request user with
  | none =>
    obtain ⟨verdict, hverdict⟩ := exists_decide_of_unchecked hchecked group
    rw [hverdict, hverdict]
    exact ⟨rfl, h⟩
  | some endpoint =>
    have hfirst := decide_of_checkedEndpoint? snapshot first request user group
    have hsecond := decide_of_checkedEndpoint? snapshot second request user group
    rw [hchecked] at hfirst hsecond
    simp only [checkLimit, hkey] at hfirst hsecond
    rw [h.refusal?_eq hempty hother] at hsecond
    rw [hfirst, hsecond]
    split
    · exact ⟨rfl, h⟩
    · exact ⟨rfl, h.count _ _ _ _⟩

/-- Two limiters that agree but for one counter still do after a decision, whoever it is about. -/
theorem agreeBut_snd_decide (h : first.AgreeBut text second)
    (hempty : limitKey? user group ≠ some "") :
    (decide snapshot first request user group).2.AgreeBut text
      (decide snapshot second request user group).2 := by
  -- What is counted for the left out key alone may differ; under another key both limiters count
  -- alike.
  by_cases hown : ∀ key, limitKey? user group = some key → key = text
  · exact (agreeBut_decide fun _ => hown).symm.trans (h.trans (agreeBut_decide fun _ => hown))
  · push Not at hown
    obtain ⟨key, hkey, hother⟩ := hown
    exact (fst_decide_eq h hkey (fun hnil => hempty (hnil ▸ hkey)) hother).2

end Decision

/-- Two contexts of a request with the same user and the same group. The decision is the same if it
was made under another key than that of a party. -/
structure Context.AgreeBut (text : String) (first second : Context) : Prop where
  request : second.request = first.request
  user : second.user = first.user
  group : second.group = first.group
  isDecided : second.isDecided = first.isDecided
  decision {key : String} (h : Decision.limitKey? first.user first.group = some key)
    (hother : key ≠ text) :
    second.decision = first.decision

/-- Two agents that judge requests in the same way, but for those of a party. -/
structure Agent.AgreeBut (text : String) (first second : Agent) : Prop where
  disabled : second.disabled = first.disabled
  policy : second.policy = first.policy
  limiter : first.limiter.AgreeBut text second.limiter

namespace Context

namespace AgreeBut

variable {text : String} {first second third : Context}

theorem refl (text : String) (context : Context) :
    context.AgreeBut text context := ⟨rfl, rfl, rfl, rfl, fun _ _ => rfl⟩

theorem symm (h : first.AgreeBut text second) : second.AgreeBut text first where
  request := h.request.symm
  user := h.user.symm
  group := h.group.symm
  isDecided := h.isDecided.symm
  decision hkey hother := (h.decision (by rw [← h.user, ← h.group]; exact hkey) hother).symm

theorem trans (h : first.AgreeBut text second) (h' : second.AgreeBut text third) :
    first.AgreeBut text third where
  request := h'.request.trans h.request
  user := h'.user.trans h.user
  group := h'.group.trans h.group
  isDecided := h'.isDecided.trans h.isDecided
  decision hkey hother :=
    (h'.decision (by rw [h.user, h.group]; exact hkey) hother).trans (h.decision hkey hother)

theorem of_undecided (hfirst : first.isDecided = false) (hsecond : second.isDecided = false)
    (hrequest : second.request = first.request) (huser : second.user = first.user)
    (hgroup : second.group = first.group) :
    first.AgreeBut text second where
  request := hrequest
  user := huser
  group := hgroup
  isDecided := hsecond.trans hfirst.symm
  decision _ _ := by rw [decision_eq_none hfirst, decision_eq_none hsecond]

theorem of_scanKeeps (h : first.AgreeBut text second) {limits other : Input.Limits}
    {first' second' : Context} (hfirst : Agent.ScanKeeps limits first first')
    (hsecond : Agent.ScanKeeps other second second') :
    first'.AgreeBut text second' where
  request := by rw [hsecond.request, hfirst.request, h.request]
  user := by rw [hsecond.user, hfirst.user, h.user]
  group := by rw [hsecond.group, hfirst.group, h.group]
  isDecided := by
    have hdecided := h.isDecided
    rwa [Context.isDecided, Context.isDecided, ← hfirst.decision, ← hsecond.decision] at hdecided
  decision hkey hother := by
    rw [hfirst.user, hfirst.group] at hkey
    rw [hsecond.decision, hfirst.decision, h.decision hkey hother]

end AgreeBut

end Context

namespace Agent

namespace AgreeBut

variable {text : String} {first second third : Agent}

theorem refl (text : String) (agent : Agent) : agent.AgreeBut text agent := ⟨rfl, rfl, .refl text _⟩

theorem symm (h : first.AgreeBut text second) : second.AgreeBut text first :=
  ⟨h.disabled.symm, h.policy.symm, h.limiter.symm⟩

theorem trans (h : first.AgreeBut text second) (h' : second.AgreeBut text third) :
    first.AgreeBut text third :=
  ⟨h'.disabled.trans h.disabled, h'.policy.trans h.policy, h.limiter.trans h'.limiter⟩

theorem of_sameRules (h : first.AgreeBut text second) {first' second' : Agent}
    (hfirst : first.SameRules first') (hsecond : second.SameRules second') :
    first'.AgreeBut text second' where
  disabled := by rw [hsecond.disabled, hfirst.disabled, h.disabled]
  policy := by rw [hsecond.policy, hfirst.policy, h.policy]
  limiter := by
    rw [hsecond.limiter, hfirst.limiter]
    exact h.limiter

theorem install (h : first.AgreeBut text second) (offered : Snapshot) :
    (first.install offered).2.AgreeBut text (second.install offered).2 := by
  cases hnewer : offered.isNewerThan first.policy with
  | true =>
    rw [install_of_newer hnewer, install_of_newer (h.policy ▸ hnewer)]
    exact ⟨h.disabled, rfl, .refl text _⟩
  | false =>
    rw [install_of_not_newer hnewer, install_of_not_newer (h.policy ▸ hnewer)]
    exact h

theorem decide (h : first.AgreeBut text second) {context other : Context}
    (hcontext : context.AgreeBut text other)
    (hempty : Decision.limitKey? context.user context.group ≠ some "") :
    (first.decide context).2.1.AgreeBut text (second.decide other).2.1
      ∧ (first.decide context).2.2.AgreeBut text (second.decide other).2.2 := by
  obtain ⟨hsettled, hsame⟩ | ⟨henabled, hundecided, hrules, hafter⟩ := first.decide_cases context
  · rw [← h.disabled, ← hcontext.isDecided] at hsettled
    rw [hsame, snd_decide_of_settled hsettled]
    exact ⟨h, hcontext⟩
  · obtain ⟨hrules', hafter'⟩ := decide_of_undecided_eq (h.disabled.trans henabled)
      (Context.decision_eq_none (hcontext.isDecided.trans hundecided))
    rw [hcontext.request, hcontext.user, hcontext.group, h.policy] at hrules' hafter'
    constructor
    · refine of_sameRules ?_ hrules hrules'
      exact ⟨h.disabled, rfl, Decision.agreeBut_snd_decide h.limiter hempty⟩
    · rw [hafter, hafter']
      refine ⟨rfl, rfl, rfl, rfl, fun {key} hkey hother => ?_⟩
      rw [(Decision.fst_decide_eq h.limiter hkey (fun hnil => hempty (hnil ▸ hkey)) hother).1]

end AgreeBut

theorem agreeBut_decide {text : String} {agent : Agent} {context : Context}
    (h : agent.disabled = false → context.isDecided = false →
      (Decision.checkedEndpoint? agent.policy context.request context.user).isSome = true →
      ∀ key, Decision.limitKey? context.user context.group = some key → key = text) :
    agent.AgreeBut text (agent.decide context).2.1 := by
  obtain ⟨-, hsame⟩ | ⟨henabled, hundecided, hrules, -⟩ := agent.decide_cases context
  · rw [hsame]
    exact .refl text agent
  · refine AgreeBut.of_sameRules ?_ (SameRules.refl agent) hrules
    exact ⟨rfl, rfl, Decision.agreeBut_decide (h henabled hundecided)⟩

end Agent

end RequestGuard
