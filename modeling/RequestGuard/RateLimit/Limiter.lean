import RequestGuard.Keyed
import RequestGuard.Policy.Endpoint
import RequestGuard.RateLimit.Counter

/-!
# The rate limiter

For every endpoint with rate limiting, named by its method and route, the limiter counts the
requests of each user and of each address. A request counts for its user and for its address;
whether it is refused depends on its user alone if it has one. An empty name counts as none.
-/

namespace RequestGuard.RateLimit

/-- Whose limit is reached. -/
inductive Trigger where
  | user
  | ip
  | group
deriving DecidableEq, Repr

def Trigger.name : Trigger → String
  | .user => "user"
  | .ip => "ip"
  | .group => "group"

/-- The limit of an endpoint and what is counted towards it. -/
structure Quota where
  maxRequests : Nat
  windowMinutes : Nat
  users : List (String × Counter) := []
  ips : List (String × Counter) := []
deriving DecidableEq, Repr

/-- The limits of all endpoints that have one, by method and route. -/
structure Limiter where
  quotas : List ((String × String) × Quota) := []
deriving DecidableEq, Repr

def nonEmpty? : Option String → Option String
  | some s => if s.isEmpty then none else some s
  | none => none

namespace Quota

def countFor (key : Option String) (counters : List (String × Counter)) :
    List (String × Counter) :=
  match nonEmpty? key with
  | none => counters
  | some key => Keyed.update key (fun counter => (counter.getD {}).increment) counters

def count (quota : Quota) (user ip : Option String) : Quota :=
  { quota with users := countFor user quota.users, ips := countFor ip quota.ips }

/-- Whether a key has been counted, and as often in the window as the limit allows. -/
def isReached (quota : Quota) (key : String) (counters : List (String × Counter)) : Bool :=
  match Keyed.find? key counters with
  | none => false
  | some counter => quota.maxRequests ≤ counter.total

def refusal? (quota : Quota) (user ip : Option String) : Option Trigger :=
  match nonEmpty? user, nonEmpty? ip with
  | some user, _ => if quota.isReached user quota.users then some .user else none
  | none, some ip => if quota.isReached ip quota.ips then some .ip else none
  | none, none => none

def advance (quota : Quota) : Quota :=
  let next : List (String × Counter) → List (String × Counter) :=
    List.map fun (key, counter) => (key, counter.advance quota.windowMinutes)
  { quota with users := next quota.users, ips := next quota.ips }

end Quota

namespace Limiter

/-- Fresh counters for the endpoints with rate limiting. Of two endpoints with the same method and
route the later one counts. -/
def ofEndpoints (endpoints : List Policy.Endpoint) : Limiter where
  quotas :=
    Keyed.ofList ((endpoints.filter fun e => e.rateLimit.enabled).map fun e =>
      ((e.method, e.route),
        { maxRequests := e.rateLimit.maxRequests
          windowMinutes := max e.rateLimit.windowMinutes 1 }))

def quota? (limiter : Limiter) (method route : String) : Option Quota :=
  Keyed.find? (method, route) limiter.quotas

def count (limiter : Limiter) (method route : String) (user ip : Option String) : Limiter :=
  match limiter.quota? method route with
  | none => limiter
  | some quota => ⟨Keyed.insert (method, route) (quota.count user ip) limiter.quotas⟩

def refusal? (limiter : Limiter) (method route : String) (user ip : Option String) :
    Option Trigger :=
  (limiter.quota? method route).bind fun quota => quota.refusal? user ip

def advance (limiter : Limiter) : Limiter :=
  ⟨limiter.quotas.map fun (key, quota) => (key, quota.advance)⟩

end Limiter

theorem nonEmpty?_eq_some_iff {name : Option String} {key : String} :
    nonEmpty? name = some key ↔ name = some key ∧ key ≠ "" := by
  cases name with
  | none => simp [nonEmpty?]
  | some other =>
    simp only [nonEmpty?, String.isEmpty_iff, Option.ite_none_left_eq_some, Option.some.injEq]
    constructor
    · rintro ⟨hne, rfl⟩
      exact ⟨rfl, hne⟩
    · rintro ⟨rfl, hne⟩
      exact ⟨hne, rfl⟩

theorem nonEmpty?_eq_none_iff {name : Option String} :
    nonEmpty? name = none ↔ name = none ∨ name = some "" := by
  cases name with
  | none => simp [nonEmpty?]
  | some other => simp [nonEmpty?]

theorem Quota.find?_countFor (key : String) (counted : Option String)
    (counters : List (String × Counter)) :
    Keyed.find? key (countFor counted counters)
      = if counted = some key ∧ key ≠ "" then some ((Keyed.find? key counters).getD {}).increment
        else Keyed.find? key counters := by
  unfold countFor
  cases hname : nonEmpty? counted with
  | none =>
    rw [if_neg]
    intro hboth
    rw [nonEmpty?_eq_some_iff.2 hboth] at hname
    cases hname
  | some other =>
    simp only [← nonEmpty?_eq_some_iff, hname, Keyed.find?_update, Option.some.injEq]
    by_cases hsame : key = other
    · subst hsame
      rw [if_pos rfl]
    · rw [if_neg hsame, if_neg (Ne.symm hsame)]

theorem Limiter.quota?_count (limiter : Limiter) (method route other path : String)
    (user ip : Option String) :
    (limiter.count other path user ip).quota? method route
      = if method = other
        ∧ route = path then (limiter.quota? method route).map fun quota => quota.count user ip
        else limiter.quota? method route := by
  unfold count
  by_cases hsame : method = other ∧ route = path
  · obtain ⟨rfl, rfl⟩ := hsame
    cases hquota : limiter.quota? method route with
    | none => simp [hquota]
    | some quota => simp [quota?, Keyed.find?_insert_self]
  · rw [if_neg hsame]
    cases limiter.quota? other path with
    | none => rfl
    | some quota =>
      refine Keyed.find?_insert_of_ne ?_ _ _
      simpa [Prod.ext_iff] using hsame

theorem Limiter.quota?_advance (limiter : Limiter) (method route : String) :
    limiter.advance.quota? method route = (limiter.quota? method route).map Quota.advance :=
  Keyed.find?_map Quota.advance (method, route) limiter.quotas

/-- The limit of an endpoint is that of the last one with its method and route that has one. -/
theorem Limiter.quota?_ofEndpoints (endpoints : List Policy.Endpoint) (method route : String) :
    (ofEndpoints endpoints).quota? method route
      = (endpoints.reverse.find? fun e => e.rateLimit.enabled &&
        decide (e.method = method ∧ e.route = route)).map
          fun e => { maxRequests := e.rateLimit.maxRequests,
                     windowMinutes := max e.rateLimit.windowMinutes 1 } := by
  rw [quota?, ofEndpoints, Keyed.find?_ofList, ← List.map_reverse, ← List.filter_reverse,
    List.find?_map, List.find?_filter]
  simp only [Option.map_map, Function.comp_def, Prod.mk.injEq, Bool.decide_and, Bool.decide_eq_true]

end RequestGuard.RateLimit
