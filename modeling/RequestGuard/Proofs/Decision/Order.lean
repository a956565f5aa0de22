import RequestGuard.Decision
import RequestGuard.Proofs.RateLimit.History

/-!
# The order of the checks

A request that is not exempt goes through five checks in a fixed order, and the first one that
applies refuses it. `RefusedBy` says for each check when it applies and what it answers, in terms of
the policy in force and of the limiter, and without regard to the order.

The decision is that of the first check that applies, and the limiter changes only for a request
that comes as far as the rate limit of its first endpoint and is admitted
(`decide_eq_first_refusal`).
-/

namespace RequestGuard

open Policy (Endpoint Snapshot)
open RateLimit

/-! ### What a limiter counts -/

namespace RateLimit.Limiter

/-- The counter of a key at an endpoint, if the key was counted there. -/
def counter? (limiter : Limiter) (method route : String) (table : Trigger) (key : String) :
    Option Counter :=
  (limiter.quota? method route).bind fun quota => Keyed.find? key (quota.counters table)

/-- The limit of an endpoint: how many requests are admitted, and in how many minutes. -/
def limit? (limiter : Limiter) (method route : String) : Option (Nat × Nat) :=
  (limiter.quota? method route).map fun quota => (quota.maxRequests, quota.windowMinutes)

/-- One limiter follows another in which one request less is counted at an endpoint: for its user
and for its address, each if it is not empty. -/
structure CountsOnce (before after : Limiter) (method route : String)
    (user ip : Option String) : Prop where
  limit (other path : String) : after.limit? other path = before.limit? other path
  counter (other path : String) (table : Trigger) (key : String) :
    after.counter? other path table key
      = if (other = method ∧ path = route) ∧ (before.limit? other path).isSome
            ∧ table.keyOf user ip = some key ∧ key ≠ "" then
          some ((before.counter? other path table key).getD {}).increment
        else before.counter? other path table key

theorem limit?_count (limiter : Limiter) (method route other path : String)
    (user ip : Option String) :
    (limiter.count other path user ip).limit? method route = limiter.limit? method route := by
  rw [limit?, limit?, quota?_count]
  split
  · cases limiter.quota? method route <;> rfl
  · rfl

theorem counter?_count (limiter : Limiter) (method route other path : String)
    (user ip : Option String) (table : Trigger) (key : String) :
    (limiter.count other path user ip).counter? method route table key
      = if (method = other ∧ route = path) ∧ (limiter.limit? method route).isSome
            ∧ table.keyOf user ip = some key ∧ key ≠ "" then
          some ((limiter.counter? method route table key).getD {}).increment
        else limiter.counter? method route table key := by
  rw [counter?, counter?, quota?_count, limit?]
  by_cases hendpoint : method = other ∧ route = path
  · cases hquota : limiter.quota? method route with
    | none => simp
    | some quota =>
      rw [if_pos hendpoint]
      simp [hendpoint, Quota.counters_count, Quota.find?_countFor]
  · rw [if_neg hendpoint, if_neg fun hall => hendpoint hall.1]

theorem countsOnce_count (limiter : Limiter) (method route : String) (user ip : Option String) :
    limiter.CountsOnce (limiter.count method route user ip) method route user ip :=
  ⟨fun other path => limiter.limit?_count other path ..,
    fun other path _ _ => limiter.counter?_count other path ..⟩

theorem limit?_advance (limiter : Limiter) (method route : String) :
    limiter.advance.limit? method route = limiter.limit? method route := by
  rw [limit?, limit?, quota?_advance]
  cases limiter.quota? method route <;> rfl

theorem counter?_advance (limiter : Limiter) (method route : String) (table : Trigger)
    (key : String) :
    limiter.advance.counter? method route table key
      = (limiter.limit? method route).bind fun limit =>
          (limiter.counter? method route table key).map (Counter.advance limit.2) := by
  rw [counter?, counter?, limit?, quota?_advance]
  cases limiter.quota? method route with
  | none => rfl
  | some quota =>
    simp only [Option.map_some, Option.bind_some, Quota.counters_advance]
    exact Keyed.find?_map _ key _

theorem refusal?_some (limiter : Limiter) (method route : String) {user : String}
    (huser : user ≠ "") (ip : Option String) :
    limiter.refusal? method route (some user) ip
      = (limiter.limit? method route).bind fun limit =>
          (limiter.counter? method route .user user).bind fun counter =>
            if limit.1 ≤ counter.total then some .user else none := by
  have hname : nonEmpty? (some user) = some user := nonEmpty?_eq_some_iff.2 ⟨rfl, huser⟩
  rw [refusal?, limit?, counter?]
  cases limiter.quota? method route with
  | none => rfl
  | some quota =>
    simp only [Option.bind_some, Option.map_some, Quota.refusal?, hname, Quota.counters]
    cases hfind : Keyed.find? user quota.users <;> simp [Quota.isReached, hfind]

end RateLimit.Limiter

namespace Decision

/-! ### The checks -/

inductive Check where
  | blocklists
  | userAgent
  | user
  | allowed
  | rateLimit
deriving DecidableEq, Repr

def Check.all : List Check := [.blocklists, .userAgent, .user, .allowed, .rateLimit]

/-- No check applies to a request from a reserved or a bypassed address. -/
def Exempt (snapshot : Snapshot) (request : Request) : Prop :=
  ∃ ip, request.ip = some ip
    ∧ (Net.isReservedText ip = true ∨ snapshot.bypassed.coversText ip = true)

/-- A check applies to a request and refuses it. -/
inductive RefusedBy (snapshot : Snapshot) (limiter : Limiter) (request : Request)
    (user : Option User) (group : Option String) : Check → Refusal → Prop where
  | blocklists {ip : String} {list : Policy.Blocklist} {before after : List Policy.Blocklist} :
      request.ip = some ip → snapshot.blocklists = before ++ list :: after →
        list.addresses.coversText ip = true →
      (∀ earlier ∈ before, earlier.addresses.coversText ip = false) →
      RefusedBy snapshot limiter request user group .blocklists (.blockedIp ip list.description)
  | userAgent {userAgent : String} : request.userAgent? = some userAgent →
      snapshot.isUserAgentBlocked userAgent = true →
      RefusedBy snapshot limiter request user group .userAgent (.blockedUserAgent userAgent)
  | user {known : User} : user = some known → known.id ∈ snapshot.blockedUsers →
      RefusedBy snapshot limiter request user group .user (.blockedUser known.id)
  | allowed {ip : String} {e : Endpoint} : request.ip = some ip →
      e ∈ snapshot.endpointsFor request.method request.route → e.allowed.isEmpty = false →
      e.allowed.coversText ip = false →
      RefusedBy snapshot limiter request user group .allowed (.ipNotAllowed ip)
  | rateLimit {e : Endpoint} {trigger : Trigger} :
      (snapshot.endpointsFor request.method request.route).head? = some e →
        e.rateLimit.enabled = true →
      limiter.refusal? e.method e.route (limitKey? user group) request.ip = some trigger →
      RefusedBy snapshot limiter request user group .rateLimit
        (.rateLimited (if group.isSome then .group else trigger) request.ip)

/-- A request comes as far as the rate limit of an endpoint. -/
structure Reaches (snapshot : Snapshot) (limiter : Limiter) (request : Request) (user : Option User)
    (group : Option String) (e : Endpoint) : Prop where
  notExempt : ¬ Exempt snapshot request
  passed (check : Check) (h : check ≠ .rateLimit) (refusal : Refusal) :
    ¬ RefusedBy snapshot limiter request user group check refusal
  first : (snapshot.endpointsFor request.method request.route).head? = some e
  enabled : e.rateLimit.enabled = true

def refusalOf? (snapshot : Snapshot) (limiter : Limiter) (request : Request) (user : Option User)
    (group : Option String) : Check → Option Refusal
  | .blocklists => checkAddress snapshot request
  | .userAgent => checkUserAgent snapshot request
  | .user => checkUser snapshot user
  | .allowed => checkAllowed snapshot request
  | .rateLimit =>
    (limitedEndpoint? snapshot request).bind fun e => (checkLimit limiter e request user group).1

variable {snapshot : Snapshot} {limiter : Limiter} {request : Request} {user : Option User}
  {group : Option String}

theorem isExempt_iff : isExempt snapshot request = true ↔ Exempt snapshot request := by
  unfold isExempt Exempt
  cases request.ip <;> simp [Snapshot.isBypassed]

theorem limitedEndpoint?_eq_some_iff {e : Endpoint} :
    limitedEndpoint? snapshot request = some e ↔
      (snapshot.endpointsFor request.method request.route).head? = some e
        ∧ e.rateLimit.enabled = true := by
  unfold limitedEndpoint?
  cases snapshot.endpointsFor request.method request.route with
  | nil => simp
  | cons first rest =>
    simp only [List.head?_cons, Option.ite_none_right_eq_some, Option.some.injEq]
    constructor
    · rintro ⟨henabled, rfl⟩
      exact ⟨rfl, henabled⟩
    · rintro ⟨rfl, henabled⟩
      exact ⟨henabled, rfl⟩

theorem refusedBy_blocklists_iff (hexempt : ¬ Exempt snapshot request) {refusal : Refusal} :
    RefusedBy snapshot limiter request user group .blocklists refusal
      ↔ checkAddress snapshot request = some refusal := by
  simp only [checkAddress, Snapshot.blockReason?, Option.bind_eq_some_iff, Option.map_eq_some_iff,
    Option.ite_none_left_eq_some, Option.map_eq_some_iff, List.find?_eq_some_iff_append]
  constructor
  · rintro ⟨hip, hlists, hcovers, hearlier⟩
    refine ⟨_, hip, _,
      ⟨fun hreserved => hexempt ⟨_, hip, .inl hreserved⟩, _, ⟨hcovers, _, _, hlists, ?_⟩, rfl⟩, rfl⟩
    intro earlier hmem
    simp [hearlier earlier hmem]
  · rintro ⟨ip, hip, _, ⟨-, list, ⟨hcovers, before, after, hlists, hearlier⟩, rfl⟩, rfl⟩
    exact .blocklists hip hlists hcovers fun earlier hmem => by simpa using hearlier earlier hmem

/-- A check answers what it is said to answer. -/
theorem refusedBy_iff (hexempt : ¬ Exempt snapshot request) {check : Check} {refusal : Refusal} :
    RefusedBy snapshot limiter request user group check refusal
      ↔ refusalOf? snapshot limiter request user group check = some refusal := by
  cases check with
  | blocklists => exact refusedBy_blocklists_iff hexempt
  | userAgent =>
    simp only [refusalOf?, checkUserAgent, Option.bind_eq_some_iff, Option.ite_none_right_eq_some,
      Option.some.injEq]
    constructor
    · rintro ⟨⟩
      rename_i userAgent hagent hblocked
      exact ⟨userAgent, hagent, hblocked, rfl⟩
    · rintro ⟨userAgent, hagent, hblocked, rfl⟩
      exact .userAgent hagent hblocked
  | user =>
    simp only [refusalOf?, checkUser, Option.bind_eq_some_iff, Option.ite_none_right_eq_some,
      Option.some.injEq, Snapshot.isUserBlocked, List.contains_iff_mem]
    constructor
    · rintro ⟨⟩
      rename_i known huser hblocked
      exact ⟨known, huser, hblocked, rfl⟩
    · rintro ⟨known, huser, hblocked, rfl⟩
      exact .user huser hblocked
  | allowed =>
    simp only [refusalOf?, checkAllowed, isKeptOut, Option.bind_eq_some_iff,
      Option.ite_none_right_eq_some,
      Option.some.injEq, List.any_eq_true, Bool.and_eq_true, Bool.not_eq_true']
    constructor
    · rintro ⟨⟩
      rename_i ip e hip hmem hlisted hout
      exact ⟨ip, hip, ⟨e, hmem, hlisted, hout⟩, rfl⟩
    · rintro ⟨ip, hip, ⟨e, hmem, hlisted, hout⟩, rfl⟩
      exact .allowed hip hmem hlisted hout
  | rateLimit =>
    simp only [refusalOf?, Option.bind_eq_some_iff, limitedEndpoint?_eq_some_iff, checkLimit]
    constructor
    · rintro ⟨⟩
      rename_i e trigger hfirst henabled hrefusal
      exact ⟨e, ⟨hfirst, henabled⟩, by rw [hrefusal]⟩
    · rintro ⟨e, ⟨hfirst, henabled⟩, hrefusal⟩
      split at hrefusal
      · rename_i trigger htrigger
        obtain rfl := Option.some.inj hrefusal
        exact .rateLimit hfirst henabled htrigger
      · cases hrefusal

/-! ### The decision -/

theorem fst_decide (hexempt : ¬ Exempt snapshot request) :
    (decide snapshot limiter request user group).1
      = Check.all.findSome? (refusalOf? snapshot limiter request user group) := by
  rw [decide, if_neg (by rwa [isExempt_iff])]
  simp only [check, Check.all, List.findSome?_cons, List.findSome?_nil, refusalOf?]
  cases checkAddress snapshot request with
  | some refusal => rfl
  | none =>
    cases checkUserAgent snapshot request with
    | some refusal => rfl
    | none =>
      cases checkUser snapshot user with
      | some refusal => rfl
      | none =>
        cases checkAllowed snapshot request with
        | some refusal => rfl
        | none =>
          cases limitedEndpoint? snapshot request with
          | none => rfl
          | some e =>
            show (checkLimit limiter e request user group).1 = _
            cases hlimit : (checkLimit limiter e request user group).1 <;> simp [hlimit]

/-- The endpoint whose limit decides on a request that no other check settles. -/
def checkedEndpoint? (snapshot : Snapshot) (request : Request) (user : Option User) :
    Option Endpoint :=
  if isExempt snapshot request || (check snapshot request user).isSome then none
  else (snapshot.endpointsFor request.method request.route).head?.filter
    fun first => first.rateLimit.enabled

theorem decide_of_checkedEndpoint? (snapshot : Snapshot) (limiter : Limiter) (request : Request)
    (user : Option User) (group : Option String) :
    match checkedEndpoint? snapshot request user with
    | some endpoint =>
      decide snapshot limiter request user group = checkLimit limiter endpoint request user group
    | none => (decide snapshot limiter request user group).2 = limiter := by
  unfold checkedEndpoint? decide
  cases isExempt snapshot request with
  | true => rfl
  | false =>
    cases check snapshot request user with
    | some refusal => rfl
    | none =>
      unfold limitedEndpoint?
      cases snapshot.endpointsFor request.method request.route with
      | nil => rfl
      | cons first rest =>
        cases henabled : first.rateLimit.enabled <;> simp [Option.filter, henabled]

/-- A decision that no limit takes part in does not depend on the limiter. -/
theorem exists_decide_of_unchecked (h : checkedEndpoint? snapshot request user = none)
    (group : Option String) :
    ∃ verdict, ∀ limiter, decide snapshot limiter request user group = (verdict, limiter) := by
  unfold decide
  cases hexempt : isExempt snapshot request with
  | true => exact ⟨none, fun _ => rfl⟩
  | false =>
    cases hcheck : check snapshot request user with
    | some refusal => exact ⟨some refusal, fun _ => rfl⟩
    | none =>
      have hlimit : limitedEndpoint? snapshot request = none := by
        refine Option.eq_none_iff_forall_ne_some.2 fun e he => ?_
        obtain ⟨hfirst, henabled⟩ := limitedEndpoint?_eq_some_iff.1 he
        simp [checkedEndpoint?, hexempt, hcheck, hfirst, henabled] at h
      exact ⟨none, fun _ => by rw [hlimit]; rfl⟩

/-- A decision counts a request that it checks and admits, and otherwise counts nothing. -/
theorem decide_cases (snapshot : Snapshot) (limiter : Limiter) (request : Request)
    (user : Option User) (group : Option String) :
    ((decide snapshot limiter request user group).2 = limiter
        ∧ (checkedEndpoint? snapshot request user = none
          ∨ (decide snapshot limiter request user group).1 ≠ none))
      ∨ ∃ endpoint, checkedEndpoint? snapshot request user = some endpoint
        ∧ limiter.refusal? endpoint.method endpoint.route (limitKey? user group) request.ip = none
        ∧ decide snapshot limiter request user group
          = (none, limiter.count endpoint.method endpoint.route
            (limitKey? user group) request.ip) := by
  have hspec := decide_of_checkedEndpoint? snapshot limiter request user group
  cases hchecked : checkedEndpoint? snapshot request user with
  | none =>
    rw [hchecked] at hspec
    exact .inl ⟨hspec, .inl rfl⟩
  | some endpoint =>
    rw [hchecked] at hspec
    simp only [checkLimit] at hspec
    cases hrefusal :
      limiter.refusal? endpoint.method endpoint.route (limitKey? user group) request.ip with
    | some trigger =>
      rw [hrefusal] at hspec
      rw [hspec]
      exact .inl ⟨rfl, .inr (by simp)⟩
    | none =>
      rw [hrefusal] at hspec
      exact .inr ⟨endpoint, rfl, hrefusal, hspec⟩

theorem reaches_iff {e : Endpoint} :
    Reaches snapshot limiter request user group e
      ↔ checkedEndpoint? snapshot request user = some e := by
  have hfirst : checkedEndpoint? snapshot request user = some e
      ↔ ¬ Exempt snapshot request ∧ check snapshot request user = none
        ∧ (snapshot.endpointsFor request.method request.route).head? = some e
        ∧ e.rateLimit.enabled = true := by
    simp only [checkedEndpoint?, Option.ite_none_left_eq_some, Bool.or_eq_true, isExempt_iff,
      not_or, Bool.not_eq_true,
      Option.isSome_eq_false_iff, Option.isNone_iff_eq_none, Option.filter_eq_some_iff, and_assoc]
  have hpassed (hexempt : ¬ Exempt snapshot request) : check snapshot request user = none
      ↔ ∀ check ≠ .rateLimit,
        ∀ refusal, ¬ RefusedBy snapshot limiter request user group check refusal := by
    simp only [check, Option.orElse_eq_orElse, Option.orElse_eq_or, Option.or_eq_none_iff,
      refusedBy_iff hexempt, ← Option.eq_none_iff_forall_ne_some]
    constructor
    · rintro ⟨haddress, hagent, huser, hallowed⟩ check hcheck
      cases check with
      | blocklists => exact haddress
      | userAgent => exact hagent
      | user => exact huser
      | allowed => exact hallowed
      | rateLimit => exact absurd rfl hcheck
    · intro h
      exact ⟨h .blocklists nofun, h .userAgent nofun, h .user nofun, h .allowed nofun⟩
  rw [hfirst]
  constructor
  · rintro ⟨hexempt, hchecks, hhead, henabled⟩
    exact ⟨hexempt, (hpassed hexempt).2 hchecks, hhead, henabled⟩
  · rintro ⟨hexempt, hchecks, hhead, henabled⟩
    exact ⟨hexempt, (hpassed hexempt).1 hchecks, hhead, henabled⟩

/-- A request of which nothing is known is admitted. -/
theorem fst_decide_of_unknown (snapshot : Snapshot) (limiter : Limiter) {request : Request}
    (hip : request.ip = none) (hagent : request.userAgent? = none) :
    (decide snapshot limiter request none none).1 = none := by
  have hexempt : ¬ Exempt snapshot request := by
    rintro ⟨ip, hsome, -⟩
    rw [hip] at hsome
    cases hsome
  rw [fst_decide hexempt, List.findSome?_eq_none_iff]
  intro check _
  cases check with
  | blocklists => rw [refusalOf?, checkAddress, hip]; rfl
  | userAgent => rw [refusalOf?, checkUserAgent, hagent]; rfl
  | user => rfl
  | allowed => rw [refusalOf?, checkAllowed, hip]; rfl
  | rateLimit =>
    have hlimit (e : Endpoint) : (checkLimit limiter e request none none).1 = none := by
      have hnone : limiter.refusal? e.method e.route none none = none := by
        rw [Limiter.refusal?]
        cases limiter.quota? e.method e.route <;> rfl
      simp only [checkLimit, limitKey?, hip, Option.map_none, hnone]
    rw [refusalOf?]
    cases limitedEndpoint? snapshot request with
    | none => rfl
    | some e => exact hlimit e

/-- An exempt request is admitted. Any other one is refused by the first check that applies to it,
and is admitted if none does. The limiter counts a request that comes as far as its limit and is
admitted, once for its group or user and once for its address, and is left as it is by all
others. -/
theorem decide_eq_first_refusal (snapshot : Snapshot) (limiter : Limiter) (request : Request)
    (user : Option User) (group : Option String) :
    let outcome := decide snapshot limiter request user group
    (Exempt snapshot request → outcome.1 = none)
      ∧ (¬ Exempt snapshot request → ∀ refusal, outcome.1 = some refusal ↔
          ∃ before check after, Check.all = before ++ check :: after
            ∧ RefusedBy snapshot limiter request user group check refusal
            ∧ ∀ earlier ∈ before,
              ∀ other, ¬ RefusedBy snapshot limiter request user group earlier other)
      ∧ (request.ip = none → request.userAgent? = none → user = none →
        group = none → outcome.1 = none)
      ∧ ((∀ e, Reaches snapshot limiter request user group e → outcome.1 ≠ none) →
        outcome.2 = limiter)
      ∧ ∀ e, Reaches snapshot limiter request user group e → outcome.1 = none →
          limiter.CountsOnce outcome.2 e.method e.route (limitKey? user group) request.ip := by
  intro outcome
  refine ⟨?_, ?_, ?_, ?_, ?_⟩
  · intro hexempt
    show (decide snapshot limiter request user group).1 = none
    rw [decide, if_pos (isExempt_iff.2 hexempt)]
  · intro hexempt refusal
    show (decide snapshot limiter request user group).1 = some refusal ↔ _
    simp only [fst_decide hexempt, List.findSome?_eq_some_iff, refusedBy_iff hexempt,
      ← Option.eq_none_iff_forall_ne_some]
  · rintro hip hagent rfl rfl
    exact fst_decide_of_unknown snapshot limiter hip hagent
  · intro hrefused
    obtain ⟨hsame, -⟩ | ⟨e, hchecked, -, hcount⟩ := decide_cases snapshot limiter request user group
    · exact hsame
    · exact absurd (congrArg Prod.fst hcount) (hrefused e (reaches_iff.2 hchecked))
  · intro e hreaches hadmitted
    have hchecked := reaches_iff.1 hreaches
    obtain ⟨-, hnone | hrefused⟩ | ⟨endpoint, hendpoint, -, hcount⟩ :=
      decide_cases snapshot limiter request user group
    · rw [hnone] at hchecked
      cases hchecked
    · exact absurd hadmitted hrefused
    · obtain rfl : endpoint = e := Option.some.inj (hendpoint.symm.trans hchecked)
      have hlimiter :
          outcome.2 = limiter.count endpoint.method endpoint.route
            (limitKey? user group) request.ip :=
        congrArg Prod.snd hcount
      rw [hlimiter]
      exact limiter.countsOnce_count ..

/-- The sender is bypassed, or a blocked user, or belongs to a group that is not at its limit. -/
theorem decide_eq_first_refusal_three_senders :
    let e : Endpoint :=
      { method := "GET", route := "/", rateLimit := { enabled := true, maxRequests := 1 } }
    let snapshot : Snapshot :=
      { endpoints := [e], bypassed := .ofEntries ["7.7.7.7"], blockedUsers := ["mallory"] }
    let limiter := Limiter.ofEndpoints snapshot.endpoints
    let sentBy (remote : Option String) := Request.ofParts { method := "GET", url := "/", remote }
    let mallory : User := { id := "mallory", name := "Mallory" }
    let counted := (decide snapshot limiter (sentBy none) none (some "team")).2
    (Exempt snapshot (sentBy (some "7.7.7.7"))
        ∧ (decide snapshot limiter (sentBy (some "7.7.7.7")) (some mallory) none).1 = none)
      ∧ (¬ Exempt snapshot (sentBy none)
        ∧ (decide snapshot limiter (sentBy none) (some mallory) none).1
          = some (.blockedUser "mallory"))
      ∧ Reaches snapshot limiter (sentBy none) none (some "team") e
      ∧ (decide snapshot limiter (sentBy none) none (some "team")).1 = none
      ∧ limiter.CountsOnce counted "GET" "/" (some "group:team") none
      ∧ counted.counter? "GET" "/" .user "group:team" = some { total := 1, buckets := [1] } := by
  intro e snapshot limiter sentBy mallory counted
  have hbypassed : Exempt snapshot (sentBy (some "7.7.7.7")) :=
    ⟨"7.7.7.7", by decide +kernel, .inr (by decide +kernel)⟩
  have hunknown : ¬ Exempt snapshot (sentBy none) := by
    rintro ⟨ip, hip, -⟩
    cases hip
  have hblocked :
      RefusedBy snapshot limiter (sentBy none) (some mallory) none .user (.blockedUser "mallory") :=
    .user rfl (by decide)
  have hreaches : Reaches snapshot limiter (sentBy none) none (some "team") e :=
    reaches_iff.2 (by decide +kernel)
  have hadmitted : (decide snapshot limiter (sentBy none) none (some "team")).1
      = none := by decide +kernel
  refine ⟨⟨hbypassed, ?_⟩, ⟨hunknown, ?_⟩, hreaches, hadmitted, ?_, by decide +kernel⟩
  · exact (decide_eq_first_refusal snapshot limiter (sentBy (some "7.7.7.7")) (some mallory) none).1
      hbypassed
  · refine ((decide_eq_first_refusal snapshot limiter (sentBy none) (some mallory) none).2.1
      hunknown _).2 ?_
    refine ⟨[.blocklists, .userAgent], .user, _, rfl, hblocked, ?_⟩
    intro earlier hearlier other hrefused
    cases hrefused with
    | blocklists hip => cases hip
    | userAgent hagent => cases hagent
    | user => simp at hearlier
    | allowed hip => cases hip
    | rateLimit => simp at hearlier
  · exact (decide_eq_first_refusal snapshot limiter (sentBy none) none (some "team")).2.2.2.2 e
      hreaches hadmitted

end Decision

end RequestGuard
