import RequestGuard.Proofs.Decision.Order

/-!
# What the limiter forgets

A key that is not counted any more leaves the window minute by minute, and after as many minutes as
the window has nothing of it is counted. Its counter stays, though, and tells a total of zero, while
a key that was never counted has no counter. The two are judged alike under every limit but that of
no requests at all: there the total of zero has reached the limit, and the missing counter has not
(`Limiter.expired_key_forgotten_iff`).

Here a limiter may be built afresh at any time, which is what happens when a new policy comes into
force.
-/

namespace RequestGuard.RateLimit

open Policy (Endpoint)

inductive Change where
  | rebuild (endpoints : List Endpoint)
  | apply (operation : Operation)

namespace Change

def isAdvance : Change → Bool
  | .apply .advance => true
  | _ => false

def carries (method route : String) (trigger : Trigger) (key : String) : Change → Bool
  | .apply operation => operation.carries method route trigger key
  | .rebuild _ => false

def endpoints (current : List Endpoint) : Change → List Endpoint
  | .rebuild fresh => fresh
  | .apply _ => current

def operations (earlier : List Operation) : Change → List Operation
  | .rebuild _ => []
  | .apply operation => earlier ++ [operation]

end Change

/-- The endpoints for which the limiter was built last. -/
def endpointsOf (changes : List Change) : List Endpoint := changes.foldl Change.endpoints []

def sinceRebuild (changes : List Change) : List Operation := changes.foldl Change.operations []

namespace Limiter

def change (limiter : Limiter) : Change → Limiter
  | .rebuild endpoints => ofEndpoints endpoints
  | .apply operation => limiter.apply operation

/-- The limiter that a new one becomes. -/
def ofChanges (changes : List Change) : Limiter := changes.foldl change {}

end Limiter

theorem endpointsOf_concat (changes : List Change) (change : Change) :
    endpointsOf (changes ++ [change]) = change.endpoints (endpointsOf changes) := by
  rw [endpointsOf, List.foldl_append]
  rfl

theorem sinceRebuild_concat (changes : List Change) (change : Change) :
    sinceRebuild (changes ++ [change]) = change.operations (sinceRebuild changes) := by
  rw [sinceRebuild, List.foldl_append]
  rfl

theorem Limiter.ofChanges_eq_run (changes : List Change) :
    ofChanges changes = (ofEndpoints (endpointsOf changes)).run (sinceRebuild changes) := by
  induction changes using List.reverseRecOn with
  | nil => rfl
  | append_singleton changes last ih =>
    rw [ofChanges, List.foldl_append, endpointsOf_concat, sinceRebuild_concat]
    cases last with
    | rebuild endpoints => rfl
    | apply operation =>
      rw [Change.endpoints, Change.operations, run, List.foldl_append]
      exact congrArg (fun limiter : Limiter => limiter.apply operation) ih

theorem mem_of_mem_sinceRebuild {changes : List Change} {operation : Operation}
    (h : operation ∈ sinceRebuild changes) : .apply operation ∈ changes := by
  induction changes using List.reverseRecOn with
  | nil => cases h
  | append_singleton changes last ih =>
    rw [sinceRebuild_concat] at h
    cases last with
    | rebuild endpoints => cases h
    | apply other =>
      obtain hbefore | hlast := List.mem_append.1 h
      · exact List.mem_append_left _ (ih hbefore)
      · rw [List.mem_singleton.1 hlast]
        simp

section

variable {method route : String} {user ip : Option String} {trigger : Trigger} {key : String}

theorem Selects.unique {trigger' : Trigger} {key' : String} (h : Selects user ip trigger key)
    (h' : Selects user ip trigger' key') : trigger = trigger' ∧ key = key' := by
  cases h with
  | user hgiven hkey =>
    cases h' with
    | user hgiven' _ => exact ⟨rfl, Option.some.inj (hgiven.symm.trans hgiven')⟩
    | ip hnone _ _ =>
      obtain rfl | rfl := hnone
      · cases hgiven
      · exact absurd (Option.some.inj hgiven).symm hkey
  | ip hnone hgiven hkey =>
    cases h' with
    | user hgiven' hkey' =>
      obtain rfl | rfl := hnone
      · cases hgiven'
      · exact absurd (Option.some.inj hgiven').symm hkey'
    | ip _ hgiven' _ => exact ⟨rfl, Option.some.inj (hgiven.symm.trans hgiven')⟩

/-- The last minutes hold no request of a key that was not counted while they passed. -/
theorem countP_sinceMinutes_eq_zero {before after : List Change} {minutes : Nat}
    (hunused : ∀ change ∈ after, change.carries method route trigger key = false)
    (hpassed : minutes ≤ after.countP Change.isAdvance) :
    (sinceMinutes minutes (sinceRebuild (before ++ after)).reverse).countP
      (Operation.carries method route trigger key)
      = 0 := by
  -- By the last change: a new minute leaves one minute less to look at, and a rebuilding leaves
  -- nothing.
  induction after using List.reverseRecOn generalizing minutes with
  | nil =>
    obtain rfl : minutes = 0 := Nat.le_zero.1 hpassed
    rw [sinceMinutes_zero]
    rfl
  | append_singleton after last ih =>
    have hearlier :
        ∀ change ∈ after, change.carries method route trigger key = false := fun change hmem =>
      hunused change (List.mem_append_left _ hmem)
    rw [List.countP_append] at hpassed
    rw [← List.append_assoc, sinceRebuild_concat]
    cases minutes with
    | zero =>
      rw [sinceMinutes_zero]
      rfl
    | succ minutes =>
      cases last with
      | rebuild endpoints => rfl
      | apply operation =>
        rw [Change.operations, List.reverse_append]
        cases operation with
        | advance =>
          refine ih hearlier ?_
          have hone : [Change.apply .advance].countP Change.isAdvance = 1 := rfl
          omega
        | count other path user ip =>
          have hcall :
              Operation.carries method route trigger key (.count other path user ip) = false :=
            hunused (.apply (.count other path user ip)) (by simp)
          rw [List.reverse_singleton, List.singleton_append, sinceMinutes_count,
            List.countP_cons_of_neg (by simp [hcall])]
          exact ih hearlier hpassed

namespace Limiter

/-- A limiter that was never told of a key does not refuse it. -/
theorem refusal?_ofChanges_eq_none (hselects : Selects user ip trigger key) {changes : List Change}
    (hnever : ∀ change ∈ changes, change.carries method route trigger key = false) :
    (ofChanges changes).refusal? method route user ip = none := by
  rw [Option.eq_none_iff_forall_ne_some]
  intro other hrefused
  rw [ofChanges_eq_run] at hrefused
  obtain ⟨_, key', _, hselects', ⟨operation, hmem, hcarries⟩, _⟩ := (refusal?_run_iff ..).1 hrefused
  obtain ⟨rfl, rfl⟩ := hselects.unique hselects'
  have hother : operation.carries method route trigger key = false :=
    hnever _ (mem_of_mem_sinceRebuild hmem)
  rw [hother] at hcarries
  cases hcarries

/-- A key that has left the window is refused exactly if no request at all is admitted, and the
limiter still holds its counter. -/
theorem refusal?_eq_some_of_expired (hselects : Selects user ip trigger key)
    {before later : List Change}
    (hunused : ∀ change ∈ later, change.carries method route trigger key = false)
    (hpassed : ∀ quota, (ofChanges (before ++ later)).quota? method route = some quota →
      quota.windowMinutes ≤ later.countP Change.isAdvance) (other : Trigger) :
    (ofChanges (before ++ later)).refusal? method route user ip = some other
      ↔ other = trigger ∧ ∃ quota, (ofChanges (before ++ later)).quota? method route = some quota
        ∧ quota.maxRequests = 0
        ∧ ∃ operation ∈ sinceRebuild (before ++ later),
          operation.carries method route trigger key = true := by
  rw [ofChanges_eq_run] at hpassed ⊢
  rw [refusal?_run_iff]
  constructor
  · rintro ⟨quota, key', hquota, hselects', hcounted, hreached⟩
    obtain ⟨rfl, rfl⟩ := hselects.unique hselects'
    rw [countP_sinceMinutes_eq_zero hunused (hpassed quota hquota)] at hreached
    exact ⟨rfl, quota, hquota, Nat.le_zero.1 hreached, hcounted⟩
  · rintro ⟨rfl, quota, hquota, hzero, hcounted⟩
    exact ⟨quota, key, hquota, hselects, hcounted, by omega⟩

/-- A key that was not counted for as many minutes as the window lasts is answered as by a limiter
that was never told of it, whatever else that one was told. The exception is an endpoint that admits
no requests: there a key whose counter the limiter still holds is refused, and one that was never
counted is not. -/
theorem expired_key_forgotten_iff (hselects : Selects user ip trigger key)
    {before later others : List Change}
    (hunused : ∀ change ∈ later, change.carries method route trigger key = false)
    (hpassed : ∀ quota, (ofChanges (before ++ later)).quota? method route = some quota →
      quota.windowMinutes ≤ later.countP Change.isAdvance)
    (hnever : ∀ change ∈ others, change.carries method route trigger key = false) :
    (ofChanges others).refusal? method route user ip = none
      ∧ ((ofChanges (before ++ later)).refusal? method route user ip
          = (ofChanges others).refusal? method route user ip
        ↔ ¬ ∃ quota, (ofChanges (before ++ later)).quota? method route = some quota
          ∧ quota.maxRequests = 0
          ∧ ∃ operation ∈ sinceRebuild (before ++ later),
            operation.carries method route trigger key = true) := by
  have hunaware := refusal?_ofChanges_eq_none hselects hnever
  have hexpired := refusal?_eq_some_of_expired hselects hunused hpassed
  refine ⟨hunaware, ?_⟩
  rw [hunaware, Option.eq_none_iff_forall_ne_some]
  constructor
  · intro hnone hheld
    exact hnone trigger ((hexpired trigger).2 ⟨rfl, hheld⟩)
  · intro hfree other hrefused
    exact hfree ((hexpired other).1 hrefused).2

end Limiter

end

namespace Limiter

/-- One request in two minutes is admitted. The user is refused at first, and after two minutes with
a request of another user from the same address as if the first request had never been made. -/
theorem expired_key_forgotten_iff_two_minutes :
    let endpoint : Endpoint :=
      { method := "GET", route := "/api"
        rateLimit := { enabled := true, maxRequests := 1, windowMinutes := 2 } }
    let request (user : String) : Change :=
      .apply (.count "GET" "/api" (some user) (some "8.8.8.8"))
    let before : List Change := [.rebuild [endpoint], request "ada"]
    let later : List Change := [.apply .advance, request "bob", .apply .advance]
    let others : List Change := [.rebuild [endpoint], request "bob"]
    (∀ change ∈ later, change.carries "GET" "/api" .user "ada" = false)
      ∧ (ofChanges (before ++ later)).limit? "GET" "/api" = some (1, 2)
      ∧ later.countP Change.isAdvance = 2
      ∧ (∀ change ∈ others, change.carries "GET" "/api" .user "ada" = false)
      ∧ (ofChanges before).refusal? "GET" "/api" (some "ada") none = some .user
      ∧ (ofChanges (before ++ later)).refusal? "GET" "/api" (some "ada") none
          = (ofChanges others).refusal? "GET" "/api" (some "ada") none := by
  intro endpoint request before later others
  have hunused : ∀ change ∈ later, change.carries "GET" "/api" .user "ada" = false := by decide
  have hlimit : (ofChanges (before ++ later)).limit? "GET" "/api" = some (1, 2) := by decide +kernel
  have hpassed : later.countP Change.isAdvance = 2 := by decide
  have hnever : ∀ change ∈ others, change.carries "GET" "/api" .user "ada" = false := by decide
  have hheld : ∀ quota, (ofChanges (before ++ later)).quota? "GET" "/api" = some quota →
      quota.maxRequests = 1 ∧ quota.windowMinutes = 2 := by
    intro quota hquota
    rw [limit?, hquota] at hlimit
    exact Prod.mk.inj (Option.some.inj hlimit)
  have hselects : Selects (some "ada") none .user "ada" := .user rfl (by decide)
  refine ⟨hunused, hlimit, hpassed, hnever, by decide +kernel, ?_⟩
  refine (expired_key_forgotten_iff hselects hunused (fun quota hquota => ?_) hnever).2.2 ?_
  · rw [(hheld quota hquota).2, hpassed]
  · rintro ⟨quota, hquota, hzero, -⟩
    rw [(hheld quota hquota).1] at hzero
    cases hzero

/-- No request is admitted. A user who was counted once is refused a minute later, when nothing of
it is left in the window, and one who was never counted is admitted. -/
theorem expired_key_still_refused :
    let endpoint : Endpoint :=
      { method := "GET", route := "/api", rateLimit := { enabled := true, maxRequests := 0 } }
    let before : List Change :=
      [.rebuild [endpoint], .apply (.count "GET" "/api" (some "ada") none)]
    let later : List Change := [.apply .advance]
    let others : List Change := [.rebuild [endpoint], .apply .advance]
    (ofChanges (before ++ later)).limit? "GET" "/api" = some (0, 1)
      ∧ later.countP Change.isAdvance = 1
      ∧ (∀ change ∈ later, change.carries "GET" "/api" .user "ada" = false)
      ∧ (∀ change ∈ others, change.carries "GET" "/api" .user "ada" = false)
      ∧ (ofChanges (before ++ later)).refusal? "GET" "/api" (some "ada") none = some .user
      ∧ (ofChanges others).refusal? "GET" "/api" (some "ada") none = none := by
  intro endpoint before later others
  exact ⟨by decide +kernel, by decide, by decide, by decide, by decide +kernel, by decide +kernel⟩

end Limiter

end RequestGuard.RateLimit
