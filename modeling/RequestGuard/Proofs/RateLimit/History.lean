import Mathlib
import RequestGuard.Proofs.RateLimit.Balance
import RequestGuard.RateLimit.Limiter

/-!
# The rate limiter and its history

A limiter is compared with the list of what happened to it since the policy came into force. The
counters that it keeps for each key tell the calls of the last minutes, although they come into
being in the middle of a window and forget one minute at a time: `Quota.Records` says so, every
operation keeps it, and the answer of the limiter follows from it as a count over the history.

Histories are read backwards, the latest operation first.
-/

namespace RequestGuard.RateLimit

open Policy (Endpoint)

/-- What happens to a limiter while a policy is in force. -/
inductive Operation where
  | count (method route : String) (user ip : Option String)
  | advance
deriving DecidableEq, Repr

/-- The operations after the `n`-th last beginning of a minute, the latest first. -/
def sinceMinutes : Nat → List Operation → List Operation
  | 0, _ => []
  | _ + 1, [] => []
  | n + 1, .advance :: earlier => sinceMinutes n earlier
  | n + 1, operation :: earlier => operation :: sinceMinutes (n + 1) earlier

/-- The key of a request for one of the two tables of counters. -/
def Trigger.keyOf (user ip : Option String) : Trigger → Option String
  | .user => user
  | .ip => ip
  | .group => none

/-- Whether an operation counts a request with a key at an endpoint. -/
def Operation.carries (method route : String) (trigger : Trigger) (key : String) : Operation → Bool
  | .count other path user ip =>
    decide (method = other ∧ route = path ∧ trigger.keyOf user ip = some key)
  | .advance => false

/-- A request is checked under its user, or else under its address. An empty name is none. -/
inductive Selects (user ip : Option String) : Trigger → String → Prop where
  | user {key : String} : user = some key → key ≠ "" → Selects user ip .user key
  | ip {key : String} : user = none ∨ user = some "" → ip = some key → key ≠ "" →
      Selects user ip .ip key

namespace Limiter

def apply (limiter : Limiter) : Operation → Limiter
  | .count method route user ip => limiter.count method route user ip
  | .advance => limiter.advance

def run (limiter : Limiter) (operations : List Operation) :
    Limiter := operations.foldl apply limiter

end Limiter

theorem Selects.ne_empty {user ip : Option String} {trigger : Trigger} {key : String}
    (h : Selects user ip trigger key) : key ≠ "" := by
  cases h <;> assumption

/-- What is counted for a request carries the key under which the request is checked. -/
theorem Selects.carries {user ip : Option String} {trigger : Trigger} {key : String}
    (h : Selects user ip trigger key) (method route : String) :
    Operation.carries method route trigger key (.count method route user ip) = true := by
  cases h <;> simp [Operation.carries, Trigger.keyOf, *]

/-! ### One counter -/

@[simp] theorem sinceMinutes_zero (history : List Operation) : sinceMinutes 0 history = [] := by
  cases history <;> rfl

theorem sinceMinutes_count (n : Nat) (method route : String) (user ip : Option String)
    (earlier : List Operation) :
    sinceMinutes (n + 1) (.count method route user ip :: earlier)
      = .count method route user ip :: sinceMinutes (n + 1) earlier := by
  rw [sinceMinutes]
  exact fun heq => by cases heq

theorem countP_sinceMinutes_le_count (calls : Operation → Bool) (n : Nat) (method route : String)
    (user ip : Option String) (earlier : List Operation) :
    (sinceMinutes n earlier).countP calls
      ≤ (sinceMinutes n (.count method route user ip :: earlier)).countP calls := by
  cases n with
  | zero => simp
  | succ n =>
    rw [sinceMinutes_count, List.countP_cons]
    omega

theorem sinceMinutes_sublist (n : Nat) (history : List Operation) :
    (sinceMinutes n history).Sublist history := by
  induction history generalizing n with
  | nil => cases n <;> exact List.Sublist.refl []
  | cons operation earlier ih =>
    cases n with
    | zero => exact List.nil_sublist _
    | succ n =>
      cases operation with
      | count method route user ip => exact (ih (n + 1)).cons_cons _
      | advance => exact (ih n).cons _

/-- A counter tells how many of the calls came in the last minutes of its window. -/
structure Counter.Tells (counter : Counter) (window : Nat) (calls : Operation → Bool)
    (history : List Operation) : Prop where
  balanced : counter.Balanced window
  sum_take {n : Nat} (h : n ≤ window) :
    (counter.minutes.take n).sum = (sinceMinutes n history).countP calls

namespace Counter.Tells

variable {counter : Counter} {window : Nat} {calls : Operation → Bool} {history : List Operation}

theorem total_eq (h : counter.Tells window calls history) :
    counter.total = (sinceMinutes window history).countP calls := by
  have hsum := h.sum_take (Nat.le_refl window)
  rw [List.take_of_length_le h.balanced.length_minutes_le] at hsum
  exact h.balanced.total_eq_sum_minutes.trans hsum

theorem fresh (hwindow : 0 < window) (hnone : history.countP calls = 0) :
    ({} : Counter).Tells window calls history where
  balanced := balanced_fresh hwindow
  sum_take {n} _ := by
    have hle := (sinceMinutes_sublist n history).countP_le (p := calls)
    have hzero : (List.take n (minutes {})).sum = 0 := by cases n <;> simp [minutes]
    rw [hzero]
    omega

theorem increment (h : counter.Tells window calls history) {method route : String}
    {user ip : Option String} (hcall : calls (.count method route user ip) = true) :
    counter.increment.Tells window calls (.count method route user ip :: history) := by
  obtain ⟨current, past, hminutes, hnext⟩ := h.balanced.minutes_increment
  refine ⟨h.balanced.increment, ?_⟩
  intro n hn
  have hsum := h.sum_take hn
  cases n with
  | zero => rfl
  | succ n =>
    rw [hminutes, List.take_succ_cons, List.sum_cons] at hsum
    rw [hnext, List.take_succ_cons, List.sum_cons, sinceMinutes_count,
      List.countP_cons_of_pos hcall, ← hsum]
    omega

theorem skip (h : counter.Tells window calls history) {method route : String}
    {user ip : Option String} (hcall : calls (.count method route user ip) = false) :
    counter.Tells window calls (.count method route user ip :: history) := by
  refine ⟨h.balanced, ?_⟩
  intro n hn
  rw [h.sum_take hn]
  cases n with
  | zero => simp
  | succ n => rw [sinceMinutes_count, List.countP_cons_of_neg (by simp [hcall])]

theorem advance (h : counter.Tells window calls history) :
    (counter.advance window).Tells window calls (.advance :: history) := by
  refine ⟨h.balanced.advance, ?_⟩
  intro n hn
  cases n with
  | zero => rfl
  | succ n =>
    rw [h.balanced.minutes_advance, List.take_succ_cons, List.sum_cons, Nat.zero_add,
      List.take_take, sinceMinutes, Nat.min_eq_left (by omega)]
    exact h.sum_take (by omega)

end Counter.Tells

/-! ### The counters of an endpoint -/

namespace Quota

def counters (quota : Quota) : Trigger → List (String × Counter)
  | .user => quota.users
  | .ip => quota.ips
  | .group => []

theorem counters_count (quota : Quota) (user ip : Option String) (trigger : Trigger) :
    (quota.count user ip).counters trigger
      = countFor (trigger.keyOf user ip) (quota.counters trigger) := by
  cases trigger <;> rfl

theorem counters_advance (quota : Quota) (trigger : Trigger) :
    quota.advance.counters trigger
      = (quota.counters trigger).map
        fun (key, counter) => (key, counter.advance quota.windowMinutes) := by
  cases trigger <;> rfl

/-- The counters of an endpoint tell its history: there is one for each name that was ever
counted. -/
def Records (quota : Quota) (method route : String) (history : List Operation) : Prop :=
  ∀ trigger key,
    match Keyed.find? key (quota.counters trigger) with
    | none => key ≠ "" → history.countP (Operation.carries method route trigger key) = 0
    | some counter =>
      key ≠ "" ∧ 0 < history.countP (Operation.carries method route trigger key)
        ∧ counter.Tells quota.windowMinutes (Operation.carries method route trigger key) history

variable {quota : Quota} {method route : String} {history : List Operation}

theorem Records.cases (h : quota.Records method route history) (trigger : Trigger) (key : String) :
    (Keyed.find? key (quota.counters trigger) = none
        ∧ (key ≠ "" → history.countP (Operation.carries method route trigger key) = 0))
      ∨ ∃ counter, Keyed.find? key (quota.counters trigger) = some counter
        ∧ key ≠ "" ∧ 0 < history.countP (Operation.carries method route trigger key)
        ∧ counter.Tells quota.windowMinutes
          (Operation.carries method route trigger key) history := by
  have hkept := h trigger key
  cases hfind : Keyed.find? key (quota.counters trigger) with
  | none =>
    rw [hfind] at hkept
    exact .inl ⟨rfl, hkept⟩
  | some counter =>
    rw [hfind] at hkept
    exact .inr ⟨counter, rfl, hkept⟩

theorem Records.balanced (h : quota.Records method route history) {trigger : Trigger} {key : String}
    {counter : Counter} (hfind : Keyed.find? key (quota.counters trigger) = some counter) :
    counter.Balanced quota.windowMinutes := by
  obtain ⟨hnone, -⟩ | ⟨kept, hkept, -, -, htells⟩ := h.cases trigger key
  · rw [hfind] at hnone
    cases hnone
  · obtain rfl : counter = kept := Option.some.inj (hfind.symm.trans hkept)
    exact htells.balanced

/-- What is counted without a key leaves its counter as it is. -/
theorem Records.uncounted (h : quota.Records method route history) {other path : String}
    {user ip : Option String} {trigger : Trigger} {key : String}
    (hcall : key ≠ "" →
      Operation.carries method route trigger key (.count other path user ip) = false) :
    match Keyed.find? key (quota.counters trigger) with
    | none =>
      key ≠ "" → (Operation.count other path user ip :: history).countP
        (Operation.carries method route trigger key) = 0
    | some counter =>
      key ≠ "" ∧ 0 < (Operation.count other path user ip :: history).countP
          (Operation.carries method route trigger key)
        ∧ counter.Tells quota.windowMinutes (Operation.carries method route trigger key)
            (.count other path user ip :: history) := by
  obtain ⟨hfind, hzero⟩ | ⟨counter, hfind, hkey, hpos, htells⟩ := h.cases trigger key
  · rw [hfind]
    intro hkey
    rw [List.countP_cons_of_neg (by simp [hcall hkey])]
    exact hzero hkey
  · rw [hfind, List.countP_cons_of_neg (by simp [hcall hkey])]
    exact ⟨hkey, hpos, htells.skip (hcall hkey)⟩

theorem Records.count (h : quota.Records method route history) (hwindow : 0 < quota.windowMinutes)
    (user ip : Option String) :
    (quota.count user ip).Records method route (.count method route user ip :: history) := by
  intro trigger key
  rw [counters_count, find?_countFor]
  by_cases hcounted : trigger.keyOf user ip = some key ∧ key ≠ ""
  · obtain ⟨hgiven, hkey⟩ := hcounted
    have hcall :
        Operation.carries method route trigger key (.count method route user ip) = true := by
      simp [Operation.carries, hgiven]
    rw [if_pos ⟨hgiven, hkey⟩, List.countP_cons_of_pos hcall]
    refine ⟨hkey, Nat.succ_pos _, ?_⟩
    obtain ⟨hfind, hzero⟩ | ⟨counter, hfind, -, -, htells⟩ := h.cases trigger key
    · rw [hfind]
      exact (Counter.Tells.fresh hwindow (hzero hkey)).increment hcall
    · rw [hfind]
      exact htells.increment hcall
  · rw [if_neg hcounted]
    refine h.uncounted fun hkey => ?_
    rw [Operation.carries, decide_eq_false_iff_not]
    exact fun hall => hcounted ⟨hall.2.2, hkey⟩

theorem Records.skip (h : quota.Records method route history) {other path : String}
    (hother : ¬ (method = other ∧ route = path)) (user ip : Option String) :
    quota.Records method route (.count other path user ip :: history) := by
  intro trigger key
  refine h.uncounted fun _ => ?_
  rw [Operation.carries, decide_eq_false_iff_not]
  exact fun hall => hother ⟨hall.1, hall.2.1⟩

theorem Records.advance (h : quota.Records method route history) :
    quota.advance.Records method route (.advance :: history) := by
  intro trigger key
  have hcall : ¬ Operation.carries method route trigger key .advance = true := Bool.false_ne_true
  rw [counters_advance, Keyed.find?_map, List.countP_cons_of_neg hcall]
  obtain ⟨hfind, hzero⟩ | ⟨counter, hfind, hkey, hpos, htells⟩ := h.cases trigger key
  · rw [hfind]
    exact hzero
  · rw [hfind]
    exact ⟨hkey, hpos, htells.advance⟩

/-- A quota refuses for the table in which the request is checked. -/
theorem refusal?_eq_some_iff (quota : Quota) (user ip : Option String) (trigger : Trigger) :
    quota.refusal? user ip = some trigger ↔
      ∃ key, Selects user ip trigger key ∧ quota.isReached key (quota.counters trigger) = true := by
  unfold refusal?
  cases huser : nonEmpty? user with
  | some key =>
    obtain ⟨hgiven, hkey⟩ := nonEmpty?_eq_some_iff.1 huser
    constructor
    · intro h
      simp only [Option.ite_none_right_eq_some, Option.some.injEq] at h
      obtain ⟨hreached, rfl⟩ := h
      exact ⟨key, .user hgiven hkey, hreached⟩
    · rintro ⟨other, hselects, hreached⟩
      cases hselects with
      | user hother _ =>
        obtain rfl : key = other := Option.some.inj (hgiven.symm.trans hother)
        exact if_pos hreached
      | ip hnone _ _ =>
        rw [nonEmpty?_eq_none_iff.2 hnone] at huser
        cases huser
  | none =>
    have hnone := nonEmpty?_eq_none_iff.1 huser
    have hip : ∀ {key}, Selects user ip trigger key → trigger = .ip ∧ nonEmpty? ip = some key := by
      intro key hselects
      cases hselects with
      | user hgiven hkey =>
        rw [nonEmpty?_eq_some_iff.2 ⟨hgiven, hkey⟩] at huser
        cases huser
      | ip _ hgiven hkey => exact ⟨rfl, nonEmpty?_eq_some_iff.2 ⟨hgiven, hkey⟩⟩
    cases haddress : nonEmpty? ip with
    | some key =>
      obtain ⟨hgiven, hkey⟩ := nonEmpty?_eq_some_iff.1 haddress
      constructor
      · intro h
        simp only [Option.ite_none_right_eq_some, Option.some.injEq] at h
        obtain ⟨hreached, rfl⟩ := h
        exact ⟨key, .ip hnone hgiven hkey, hreached⟩
      · rintro ⟨other, hselects, hreached⟩
        obtain ⟨rfl, hother⟩ := hip hselects
        obtain rfl : key = other := Option.some.inj (haddress.symm.trans hother)
        exact if_pos hreached
    | none =>
      simp only [reduceCtorEq, false_iff]
      rintro ⟨key, hselects, _⟩
      have hother := (hip hselects).2
      rw [haddress] at hother
      cases hother

/-- A key is over its limit if it was counted, and often enough in the last minutes. -/
theorem Records.isReached_iff (h : quota.Records method route history) (trigger : Trigger)
    {key : String} (hkey : key ≠ "") :
    quota.isReached key (quota.counters trigger) = true ↔
      0 < history.countP (Operation.carries method route trigger key) ∧ quota.maxRequests
        ≤ (sinceMinutes quota.windowMinutes history).countP
          (Operation.carries method route trigger key) := by
  unfold isReached
  obtain ⟨hfind, hzero⟩ | ⟨counter, hfind, -, hpos, htells⟩ := h.cases trigger key
  · simp [hfind, hzero hkey]
  · simp [hfind, hpos, htells.total_eq]

/-- A request that is not refused finds room under the limit, or is the first one with its key. -/
theorem Records.countP_lt_of_refusal?_eq_none (h : quota.Records method route history)
    {user ip : Option String} {trigger : Trigger} {key : String}
    (hselects : Selects user ip trigger key) (hnone : quota.refusal? user ip = none) :
    (sinceMinutes quota.windowMinutes history).countP (Operation.carries method route trigger key)
      < max quota.maxRequests 1 := by
  have hreached : ¬ quota.isReached key (quota.counters trigger) = true := by
    intro hreached
    rw [(quota.refusal?_eq_some_iff user ip trigger).2 ⟨key, hselects, hreached⟩] at hnone
    cases hnone
  rw [h.isReached_iff trigger hselects.ne_empty] at hreached
  have hle := (sinceMinutes_sublist quota.windowMinutes history).countP_le
    (p := Operation.carries method route trigger key)
  omega

end Quota

/-! ### The limiter -/

namespace Limiter

theorem quota?_apply {limiter : Limiter} {method route : String} {quota : Quota}
    {history : List Operation} (hquota : limiter.quota? method route = some quota)
    (hwindow : 0 < quota.windowMinutes) (hrecords : quota.Records method route history)
    (operation : Operation) :
    ∃ next, (limiter.apply operation).quota? method route = some next
      ∧ next.maxRequests = quota.maxRequests
      ∧ next.windowMinutes = quota.windowMinutes
      ∧ next.Records method route (operation :: history) := by
  cases operation with
  | count other path user ip =>
    rw [apply, quota?_count, hquota]
    by_cases hsame : method = other ∧ route = path
    · rw [if_pos hsame]
      obtain ⟨rfl, rfl⟩ := hsame
      exact ⟨quota.count user ip, rfl, rfl, rfl, hrecords.count hwindow user ip⟩
    · rw [if_neg hsame]
      exact ⟨quota, rfl, rfl, rfl, hrecords.skip hsame user ip⟩
  | advance =>
    rw [apply, quota?_advance, hquota]
    exact ⟨quota.advance, rfl, rfl, rfl, hrecords.advance⟩

theorem quota?_apply_eq_none {limiter : Limiter} {method route : String}
    (h : limiter.quota? method route = none) (operation : Operation) :
    (limiter.apply operation).quota? method route = none := by
  cases operation with
  | count other path user ip =>
    rw [apply, quota?_count, h]
    simp
  | advance =>
    rw [apply, quota?_advance, h]
    rfl

theorem quota?_run {limiter : Limiter} {method route : String} {quota : Quota}
    {history : List Operation} (hquota : limiter.quota? method route = some quota)
    (hwindow : 0 < quota.windowMinutes) (hrecords : quota.Records method route history)
    (operations : List Operation) :
    ∃ last, (limiter.run operations).quota? method route = some last
      ∧ last.maxRequests = quota.maxRequests
      ∧ last.windowMinutes = quota.windowMinutes
      ∧ last.Records method route (operations.reverse ++ history) := by
  induction operations generalizing limiter quota history with
  | nil => exact ⟨quota, hquota, rfl, rfl, hrecords⟩
  | cons operation operations ih =>
    obtain ⟨next, hnext, hmax, hwidth, hnextRecords⟩ :=
      quota?_apply hquota hwindow hrecords operation
    obtain ⟨last, hlast, hlastMax, hlastWidth, hlastRecords⟩ :=
      ih hnext (hwidth ▸ hwindow) hnextRecords
    refine ⟨last, hlast, hlastMax.trans hmax, hlastWidth.trans hwidth, ?_⟩
    rw [List.reverse_cons, List.append_assoc]
    exact hlastRecords

theorem quota?_run_eq_none {limiter : Limiter} {method route : String}
    (h : limiter.quota? method route = none) (operations : List Operation) :
    (limiter.run operations).quota? method route = none := by
  induction operations generalizing limiter with
  | nil => exact h
  | cons operation operations ih => exact ih (quota?_apply_eq_none h operation)

/-- The limit of an endpoint after a policy came into force, and before anything happened. -/
theorem quota?_ofEndpoints_eq_some {endpoints : List Endpoint} {method route : String}
    {quota : Quota} (h : (ofEndpoints endpoints).quota? method route = some quota) :
    (∃ e ∈ endpoints, e.rateLimit.enabled = true ∧ e.method = method ∧ e.route = route
        ∧ quota.maxRequests = e.rateLimit.maxRequests
        ∧ quota.windowMinutes = max e.rateLimit.windowMinutes 1)
      ∧ quota.Records method route [] := by
  rw [quota?_ofEndpoints] at h
  obtain ⟨e, hfind, rfl⟩ := Option.map_eq_some_iff.1 h
  have hmem := List.mem_of_find?_eq_some hfind
  have htest := List.find?_some hfind
  simp only [Bool.and_eq_true, decide_eq_true_eq] at htest
  refine ⟨⟨e, by simpa using hmem, htest.1, htest.2.1, htest.2.2, rfl, rfl⟩, ?_⟩
  intro trigger key
  cases trigger <;> exact fun _ => rfl

theorem quota?_ofEndpoints_isSome_iff {endpoints : List Endpoint} {method route : String} :
    ((ofEndpoints endpoints).quota? method route).isSome = true ↔
      ∃ e ∈ endpoints, e.rateLimit.enabled = true ∧ e.method = method ∧ e.route = route := by
  rw [quota?_ofEndpoints]
  simp [List.find?_isSome]

/-- What a limiter holds for an endpoint does not change, and the counters tell what happened. -/
theorem quota?_run_ofEndpoints {endpoints : List Endpoint} {method route : String} {fresh : Quota}
    (h : (ofEndpoints endpoints).quota? method route = some fresh) (operations : List Operation) :
    ∃ quota, ((ofEndpoints endpoints).run operations).quota? method route = some quota
      ∧ quota.maxRequests = fresh.maxRequests ∧ quota.windowMinutes = fresh.windowMinutes
      ∧ quota.Records method route operations.reverse := by
  obtain ⟨⟨e, _, _, _, _, _, hwidth⟩, hrecords⟩ := quota?_ofEndpoints_eq_some h
  obtain ⟨quota, hquota, hmax, hwindow, htells⟩ := quota?_run h (by omega) hrecords operations
  exact ⟨quota, hquota, hmax, hwindow, by simpa using htells⟩

/-- A request is refused if its key was counted before, and often enough in the last minutes. -/
theorem refusal?_run_eq_some_iff {endpoints : List Endpoint} {method route : String} {fresh : Quota}
    (h : (ofEndpoints endpoints).quota? method route = some fresh) (operations : List Operation)
    (user ip : Option String) (trigger : Trigger) :
    ((ofEndpoints endpoints).run operations).refusal? method route user ip = some trigger ↔
      ∃ key, Selects user ip trigger key
        ∧ (∃ operation ∈ operations, operation.carries method route trigger key = true)
        ∧ fresh.maxRequests ≤ (sinceMinutes fresh.windowMinutes operations.reverse).countP
            (Operation.carries method route trigger key) := by
  obtain ⟨quota, hquota, hmax, hwindow, hrecords⟩ := quota?_run_ofEndpoints h operations
  rw [refusal?, hquota, Option.bind_some, Quota.refusal?_eq_some_iff, ← hmax, ← hwindow]
  refine exists_congr fun key => and_congr_right fun hselects => ?_
  rw [hrecords.isReached_iff trigger hselects.ne_empty, List.countP_pos_iff]
  simp only [List.mem_reverse]

end Limiter

/-! ### What a limiter holds and answers -/

namespace Limiter

theorem quota?_run_isSome_iff (endpoints : List Endpoint) (operations : List Operation)
    (method route : String) :
    (((ofEndpoints endpoints).run operations).quota? method route).isSome = true ↔
      ∃ e ∈ endpoints, e.rateLimit.enabled = true ∧ e.method = method ∧ e.route = route := by
  rw [← quota?_ofEndpoints_isSome_iff]
  cases hfresh : (ofEndpoints endpoints).quota? method route with
  | none => rw [quota?_run_eq_none hfresh]
  | some fresh =>
    obtain ⟨quota, hquota, _⟩ := quota?_run_ofEndpoints hfresh operations
    rw [hquota]
    rfl

/-- Whatever has happened, the limits are those that the policy gave. -/
theorem exists_fresh_of_quota?_run {endpoints : List Endpoint} {operations : List Operation}
    {method route : String} {quota : Quota}
    (h : ((ofEndpoints endpoints).run operations).quota? method route = some quota) :
    ∃ fresh, (ofEndpoints endpoints).quota? method route = some fresh
      ∧ quota.maxRequests = fresh.maxRequests
      ∧ quota.windowMinutes = fresh.windowMinutes := by
  cases hfresh : (ofEndpoints endpoints).quota? method route with
  | none =>
    rw [quota?_run_eq_none hfresh] at h
    cases h
  | some fresh =>
    obtain ⟨last, hlast, hmax, hwindow, _⟩ := quota?_run_ofEndpoints hfresh operations
    obtain rfl : last = quota := Option.some.inj (hlast.symm.trans h)
    exact ⟨fresh, rfl, hmax, hwindow⟩

theorem refusal?_run_iff (endpoints : List Endpoint) (operations : List Operation)
    (method route : String) (user ip : Option String) (trigger : Trigger) :
    ((ofEndpoints endpoints).run operations).refusal? method route user ip = some trigger ↔
      ∃ quota key, ((ofEndpoints endpoints).run operations).quota? method route = some quota
        ∧ Selects user ip trigger key
        ∧ (∃ operation ∈ operations, operation.carries method route trigger key = true)
        ∧ quota.maxRequests ≤ (sinceMinutes quota.windowMinutes operations.reverse).countP
            (Operation.carries method route trigger key) := by
  constructor
  · intro h
    have hsome := h
    rw [refusal?, Option.bind_eq_some_iff] at hsome
    obtain ⟨quota, hquota, -⟩ := hsome
    obtain ⟨fresh, hfresh, hmax, hwindow⟩ := exists_fresh_of_quota?_run hquota
    obtain ⟨key, hselects, hcounted, hreached⟩ :=
      (refusal?_run_eq_some_iff hfresh operations user ip trigger).1 h
    rw [← hmax, ← hwindow] at hreached
    exact ⟨quota, key, hquota, hselects, hcounted, hreached⟩
  · rintro ⟨quota, key, hquota, hselects, hcounted, hreached⟩
    obtain ⟨fresh, hfresh, hmax, hwindow⟩ := exists_fresh_of_quota?_run hquota
    rw [hmax, hwindow] at hreached
    exact (refusal?_run_eq_some_iff hfresh operations user ip trigger).2
      ⟨key, hselects, hcounted, hreached⟩

end Limiter

theorem countP_sinceMinutes_insert {calls : Operation → Bool} {operation : Operation}
    (hadvance : operation ≠ .advance) (hcall : calls operation = false) (n : Nat)
    (later earlier : List Operation) :
    (sinceMinutes n (later ++ operation :: earlier)).countP calls
      = (sinceMinutes n (later ++ earlier)).countP calls := by
  induction later generalizing n with
  | nil =>
    cases n with
    | zero => simp
    | succ n =>
      cases operation with
      | count method route user ip =>
        rw [List.nil_append, sinceMinutes_count, List.countP_cons_of_neg (by simp [hcall]),
          List.nil_append]
      | advance => exact absurd rfl hadvance
  | cons last later ih =>
    cases n with
    | zero => simp
    | succ n =>
      cases last with
      | count method route user ip =>
        rw [List.cons_append, List.cons_append, sinceMinutes_count, sinceMinutes_count,
          List.countP_cons, List.countP_cons, ih (n + 1)]
      | advance => exact ih n

namespace Limiter

/-- The answer for a key does not depend on what is counted for other keys and endpoints. -/
theorem refusal?_run_insert {endpoints : List Endpoint} {method route : String}
    {user ip : Option String} {operation : Operation} (hadvance : operation ≠ .advance)
    (hother : ∀ trigger key, Selects user ip trigger key →
      operation.carries method route trigger key = false) (before after : List Operation) :
    ((ofEndpoints endpoints).run (before ++ operation :: after)).refusal? method route user ip
      = ((ofEndpoints endpoints).run (before ++ after)).refusal? method route user ip := by
  cases hfresh : (ofEndpoints endpoints).quota? method route with
  | none => simp [refusal?, quota?_run_eq_none hfresh]
  | some fresh =>
    ext trigger
    rw [refusal?_run_eq_some_iff hfresh, refusal?_run_eq_some_iff hfresh]
    refine exists_congr fun key => and_congr_right fun hselects => ?_
    have hcall := hother trigger key hselects
    simp only [List.reverse_append, List.reverse_cons, List.append_assoc, List.singleton_append,
      countP_sinceMinutes_insert hadvance hcall]
    simp [or_and_right, exists_or, hcall]

/-- A limiter answers by the number of requests in the window. Its limits are those of the endpoints
that have one, the total of each counter is the sum of its minutes, of which there are no more than
the window has, it refuses a key that was counted before and at least as often in the last minutes
as the limit allows, and nothing else that was counted changes the answer. -/
theorem refusal_iff_countP_sinceMinutes (endpoints : List Endpoint) (operations : List Operation)
    (method route : String) (user ip : Option String) :
    let limiter := (ofEndpoints endpoints).run operations
    ((limiter.quota? method route).isSome = true ↔
        ∃ e ∈ endpoints, e.rateLimit.enabled = true ∧ e.method = method ∧ e.route = route)
    ∧ (∀ quota, limiter.quota? method route = some quota → 1 ≤ quota.windowMinutes ∧
        ∃ e ∈ endpoints, e.rateLimit.enabled = true ∧ e.method = method ∧ e.route = route
          ∧ quota.maxRequests = e.rateLimit.maxRequests
          ∧ quota.windowMinutes = max e.rateLimit.windowMinutes 1)
    ∧ (∀ quota table key counter, limiter.quota? method route = some quota →
        Keyed.find? key (quota.counters table) = some counter →
        counter.total = counter.buckets.sum ∧ counter.buckets.length ≤ quota.windowMinutes)
    ∧ (∀ trigger, limiter.refusal? method route user ip = some trigger ↔
        ∃ quota key, limiter.quota? method route = some quota ∧ Selects user ip trigger key
          ∧ (∃ operation ∈ operations, operation.carries method route trigger key = true)
          ∧ quota.maxRequests ≤ (sinceMinutes quota.windowMinutes operations.reverse).countP
              (Operation.carries method route trigger key))
    ∧ ∀ before operation after, operations = before ++ operation :: after → operation ≠ .advance →
        (∀ trigger key, Selects user ip trigger key →
          operation.carries method route trigger key = false) →
        limiter.refusal? method route user ip
          = ((ofEndpoints endpoints).run (before ++ after)).refusal? method route user ip := by
  intro limiter
  refine ⟨quota?_run_isSome_iff endpoints operations method route, ?_, ?_,
    refusal?_run_iff endpoints operations method route user ip, ?_⟩
  · intro quota hquota
    obtain ⟨fresh, hfresh, hmax, hwindow⟩ := exists_fresh_of_quota?_run hquota
    obtain ⟨⟨e, hmem, henabled, hmethod, hroute, hlimit, hwidth⟩, _⟩ :=
      quota?_ofEndpoints_eq_some hfresh
    exact ⟨by omega, e, hmem, henabled, hmethod, hroute, hmax.trans hlimit, hwindow.trans hwidth⟩
  · intro quota table key counter hquota hfind
    obtain ⟨fresh, hfresh, -, -⟩ := exists_fresh_of_quota?_run hquota
    obtain ⟨last, hlast, -, -, hrecords⟩ := quota?_run_ofEndpoints hfresh operations
    obtain rfl : last = quota := Option.some.inj (hlast.symm.trans hquota)
    have hbalanced := hrecords.balanced hfind
    exact ⟨hbalanced.total_eq, hbalanced.length_le⟩
  · rintro before operation after rfl hadvance hother
    exact refusal?_run_insert hadvance hother before after

end Limiter

end RequestGuard.RateLimit
