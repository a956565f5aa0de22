import RequestGuard.Proofs.Agent.Installed

/-!
# Endpoints that share a limit

A request is checked against the limit of its first endpoint, and the limiter holds one limit for
each method and route. Where several endpoints with one method and route have a limit, it is that of
the last one. So the first endpoint of a request says whether the request is checked, and the last
one with its method and route says how many requests are admitted, and in how many minutes
(`World.judged_by_last_limit`). The two agree whenever such endpoints have equal limits.
-/

namespace RequestGuard

open Policy (Endpoint Snapshot)
open RateLimit

namespace Policy.Snapshot

/-- The endpoints with a method and a route that have a limit. -/
def limitsAt (snapshot : Snapshot) (method route : String) : List Endpoint :=
  snapshot.endpoints.filter fun e => e.rateLimit.enabled &&
    decide (e.method = method ∧ e.route = route)

theorem mem_limitsAt {snapshot : Snapshot} {method route : String} {e : Endpoint} :
    e ∈ snapshot.limitsAt method route
      ↔ e ∈ snapshot.endpoints ∧ e.rateLimit.enabled = true ∧ e.method = method
        ∧ e.route = route := by
  simp only [limitsAt, List.mem_filter, Bool.and_eq_true, decide_eq_true_eq]

end Policy.Snapshot

namespace RateLimit

theorem Limiter.limit?_apply (limiter : Limiter) (operation : Operation) (method route : String) :
    (limiter.apply operation).limit? method route = limiter.limit? method route := by
  cases operation with
  | count other path user ip => exact limiter.limit?_count method route other path user ip
  | advance => exact limiter.limit?_advance method route

theorem Limiter.limit?_run (limiter : Limiter) (operations : List Operation)
    (method route : String) :
    (limiter.run operations).limit? method route = limiter.limit? method route := by
  induction operations generalizing limiter with
  | nil => rfl
  | cons operation operations ih =>
    exact (ih (limiter.apply operation)).trans (limiter.limit?_apply operation method route)

theorem Limiter.limit?_ofEndpoints (snapshot : Snapshot) (method route : String) :
    (ofEndpoints snapshot.endpoints).limit? method route
      = (snapshot.limitsAt method route).getLast?.map
        fun e => (e.rateLimit.maxRequests, max e.rateLimit.windowMinutes 1) := by
  rw [limit?, quota?_ofEndpoints, Snapshot.limitsAt, List.getLast?_filter, Option.map_map]
  rfl

/-- The key of a request was counted at an endpoint, and as often in the last minutes as a limit
allows. -/
def Reached (limit : Policy.RateLimit) (operations : List Operation) (e : Endpoint)
    (user ip : Option String) (trigger : Trigger) : Prop :=
  ∃ key, Selects user ip trigger key
    ∧ (∃ operation ∈ operations, operation.carries e.method e.route trigger key = true)
    ∧ limit.maxRequests ≤ (sinceMinutes (max limit.windowMinutes 1) operations.reverse).countP
        (Operation.carries e.method e.route trigger key)

theorem Limiter.refusal?_iff_reached {endpoints : List Endpoint} {operations : List Operation}
    {e : Endpoint} {limit : Policy.RateLimit}
    (h : ((ofEndpoints endpoints).run operations).limit? e.method e.route
      = some (limit.maxRequests, max limit.windowMinutes 1)) (user ip : Option String)
    (trigger : Trigger) :
    ((ofEndpoints endpoints).run operations).refusal? e.method e.route user ip = some trigger
      ↔ Reached limit operations e user ip trigger := by
  rw [limit?_run] at h
  obtain ⟨fresh, hfresh, hlimit⟩ := Option.map_eq_some_iff.1 h
  obtain ⟨hmax, hwindow⟩ := Prod.mk.inj hlimit
  rw [refusal?_run_eq_some_iff hfresh, hmax, hwindow]
  rfl

end RateLimit

/-- A request that comes as far as the limit of an endpoint is judged by a limit: the limiter holds
that limit for the endpoint, and the request is refused if the limit is reached by what happened
since the policy came into force. -/
structure Agent.JudgedBy (agent : Agent) (context : Context) (e : Endpoint)
    (operations : List Operation) (limit : Policy.RateLimit) : Prop where
  history : agent.limiter = (Limiter.ofEndpoints agent.policy.endpoints).run operations
  holds :
    agent.limiter.limit? e.method e.route = some (limit.maxRequests, max limit.windowMinutes 1)
  refused_iff (refusal : Refusal) :
    (Decision.decide agent.policy agent.limiter context.request context.user context.group).1
        = some refusal
      ↔ ∃ trigger, Reached limit operations e (Decision.limitKey? context.user context.group)
        context.request.ip trigger
        ∧ refusal = .rateLimited (if context.group.isSome then .group else trigger)
          context.request.ip

theorem Agent.JudgedBy.of_holds {agent : Agent} {context : Context} {e : Endpoint}
    {operations : List Operation} {limit : Policy.RateLimit}
    (hhistory : agent.limiter = (Limiter.ofEndpoints agent.policy.endpoints).run operations)
    (hchecked : Decision.checkedEndpoint? agent.policy context.request context.user = some e)
    (hholds : agent.limiter.limit? e.method e.route
      = some (limit.maxRequests, max limit.windowMinutes 1)) :
    agent.JudgedBy context e operations limit := by
  refine ⟨hhistory, hholds, fun refusal => ?_⟩
  have hdecide :=
    Decision.decide_of_checkedEndpoint? agent.policy agent.limiter context.request
      context.user context.group
  rw [hchecked] at hdecide
  have hreached (trigger : Trigger) :
      agent.limiter.refusal? e.method e.route (Decision.limitKey? context.user context.group)
        context.request.ip = some trigger
        ↔ Reached limit operations e (Decision.limitKey? context.user context.group)
          context.request.ip trigger := by
    rw [hhistory] at hholds ⊢
    exact Limiter.refusal?_iff_reached hholds _ _ trigger
  simp only [hdecide, Decision.checkLimit, ← hreached]
  cases agent.limiter.refusal? e.method e.route (Decision.limitKey? context.user context.group)
    context.request.ip with
  | none => simp
  | some trigger =>
    simp only [Option.some.injEq]
    constructor
    · rintro rfl
      exact ⟨trigger, rfl, rfl⟩
    · rintro ⟨_, rfl, rfl⟩
      rfl

namespace World

variable {ι : Type} [DecidableEq ι] {settings : Settings} {requests : ι → Request.Parts}

/-- A request that comes as far as a limit is checked because its first endpoint has one, but the
limit it is judged by is that of the last endpoint with the method and the route of the first one.
If all of these have the same limit it is the limit of the first one. -/
theorem judged_by_last_limit (actions : List (Action ι)) (i : ι) {e : Endpoint} :
    let agent := ((start settings requests).run actions).agent
    let context := ((start settings requests).run actions).contexts i
    Decision.checkedEndpoint? agent.policy context.request context.user = some e →
    (agent.policy.endpointsFor context.request.method context.request.route).head? = some e
      ∧ ∃ operations last, (agent.policy.limitsAt e.method e.route).getLast? = some last
          ∧ agent.JudgedBy context e operations last.rateLimit
          ∧ ((∀ other ∈ agent.policy.limitsAt e.method e.route, other.rateLimit = e.rateLimit) →
              agent.JudgedBy context e operations e.rateLimit) := by
  intro agent context hchecked
  have hreaches :
      Decision.Reaches agent.policy agent.limiter context.request context.user context.group e :=
    Decision.reaches_iff.2 hchecked
  have hreachable : ((start settings requests).run actions).Reachable settings requests :=
    ⟨actions, rfl⟩
  obtain ⟨operations, hhistory⟩ := hreachable.limiter_eq_run
  have hfirst : e ∈ agent.policy.limitsAt e.method e.route := by
    rw [Snapshot.mem_limitsAt]
    exact ⟨Policy.mem_of_mem_matching (List.mem_of_head? hreaches.first),
      hreaches.enabled, rfl, rfl⟩
  have hlast : (agent.policy.limitsAt e.method e.route).getLast?.isSome = true := by
    rw [List.getLast?_isSome]
    exact List.ne_nil_of_mem hfirst
  obtain ⟨last, hlast⟩ := Option.isSome_iff_exists.1 hlast
  have hjudged : agent.JudgedBy context e operations last.rateLimit := by
    apply Agent.JudgedBy.of_holds hhistory hchecked
    have hholds := Limiter.limit?_ofEndpoints agent.policy e.method e.route
    rw [← Limiter.limit?_run _ operations, ← hhistory, hlast] at hholds
    exact hholds
  refine ⟨hreaches.first, operations, last, hlast, hjudged, fun hequal => ?_⟩
  rw [← hequal last (List.mem_of_getLast? hlast)]
  exact hjudged

/-- Two endpoints for all methods follow the one for `GET`, and only the last of them has a limit as
well. -/
theorem judged_by_last_limit_other_methods :
    let get : Endpoint :=
      { method := "GET", route := "/", rateLimit := { enabled := true, maxRequests := 1 } }
    let any : Endpoint := { method := "*", route := "/" }
    let limited : Endpoint :=
      { any with rateLimit := { enabled := true, maxRequests := 5, windowMinutes := 3 } }
    let requests : Nat → Request.Parts := fun _ => { method := "GET", url := "/" }
    let actions : List (Action Nat) :=
      [.install { version := 1, endpoints := [get, any, limited] }, .setUser 0 "ada" "Ada",
        .decide 0, .setUser 1 "ada" "Ada"]
    let world := (start {} requests).run actions
    let context := world.contexts 1
    Decision.checkedEndpoint? world.agent.policy context.request context.user = some get
      ∧ (world.agent.policy.endpointsFor "GET" "/").head? = some get
      ∧ (world.agent.decide context).1 = some (.rateLimited .user none)
      ∧ ∃ operations, world.agent.JudgedBy context get operations get.rateLimit := by
  intro get any limited requests actions world context
  have hchecked : Decision.checkedEndpoint? world.agent.policy context.request context.user
      = some get := by decide +kernel
  obtain ⟨-, operations, -, -, -, hjudged⟩ := judged_by_last_limit actions 1 hchecked
  have hshared : world.agent.policy.limitsAt get.method get.route = [get] := by decide +kernel
  refine ⟨hchecked, by decide +kernel,
    by decide +kernel, operations, hjudged fun other hother => ?_⟩
  change other ∈ world.agent.policy.limitsAt get.method get.route at hother
  rw [hshared, List.mem_singleton] at hother
  rw [hother]

/-- The first endpoint admits one request a minute, and the second one with its method and route
two. A second request in the same minute is admitted, although it would be refused if there were
only the first endpoint. -/
theorem first_limit_overruled :
    let first : Endpoint :=
      { method := "GET", route := "/", rateLimit := { enabled := true, maxRequests := 1 } }
    let second : Endpoint := { first with rateLimit := { enabled := true, maxRequests := 2 } }
    let requests : Nat → Request.Parts := fun _ => { method := "GET", url := "/" }
    let calls : List (Action Nat) := [.setUser 0 "ada" "Ada", .decide 0, .setUser 1 "ada" "Ada"]
    let world :=
      (start {} requests).run (.install { version := 1, endpoints := [first, second] } :: calls)
    let alone := (start {} requests).run (.install { version := 1, endpoints := [first] } :: calls)
    let context := world.contexts 1
    (world.agent.policy.endpointsFor "GET" "/").head? = some first
      ∧ Decision.checkedEndpoint? world.agent.policy context.request context.user = some first
      ∧ world.agent.limiter.counter? "GET" "/" .user "ada" = some { total := 1, buckets := [1] }
      ∧ world.agent.limiter.limit? "GET" "/" = some (2, 1) ∧ (world.agent.decide context).1 = none
      ∧ alone.agent.limiter.limit? "GET" "/" = some (1, 1)
      ∧ (alone.agent.decide (alone.contexts 1)).1 = some (.rateLimited .user none)
      ∧ ∀ operations, ¬ world.agent.JudgedBy context first operations first.rateLimit := by
  intro first second requests calls world alone context
  have hlimit : world.agent.limiter.limit? "GET" "/" = some (2, 1) := by decide +kernel
  refine ⟨by decide +kernel,
    by decide +kernel, by decide +kernel, hlimit, by decide +kernel, by decide +kernel,
    by decide +kernel, fun operations hjudged => ?_⟩
  exact absurd (hlimit.symm.trans hjudged.holds) (by decide)

end World

end RequestGuard
