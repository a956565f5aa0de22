import RequestGuard.Proofs.Decision.Order
import RequestGuard.Proofs.Net.MatchList

/-!
# Lists of allowed addresses

Which requests the allow-lists of a configuration keep out, read off the texts of their entries. An
endpoint that is configured for a request restricts it to the addresses that its entries cover as
soon as one entry of its list writes a network (`ipNotAllowed_iff`). A list of which no entry can be
read is taken for no list, and then every address is allowed (`unreadable_allowList_allows_all`).
-/

namespace RequestGuard

namespace Net

/-- A text writes an address in the network that an entry writes. -/
def EntryCovers (entry text : String) : Prop :=
  ∃ base n address, WritesNetwork entry base n ∧ WritesAddress text address ∧ address.LiesIn base n

theorem entryCovers_iff {entry text : String} {address : IpAddress}
    (h : WritesAddress text address) :
    EntryCovers entry text ↔ ∃ network, Network.parse? entry = some network
      ∧ network.covers address = true := by
  constructor
  · rintro ⟨base, n, other, hwrites, hother, hlies⟩
    obtain rfl : other = address := by
      rw [← IpAddress.parse?_eq_some_iff] at h hother
      exact Option.some.inj (hother.symm.trans h)
    exact ⟨_, Network.parse?_eq_some_iff.2 ⟨base, n, hwrites, rfl⟩,
      (Network.covers_ofLength base other n).2 hlies⟩
  · rintro ⟨network, hread, hcovers⟩
    obtain ⟨base, n, hwrites, rfl⟩ := Network.parse?_eq_some_iff.1 hread
    exact ⟨base, n, address, hwrites, h, (Network.covers_ofLength base address n).1 hcovers⟩

/-- Decides whether an entry covers an address by reading both. -/
theorem entryCovers_iff_parse {entry text : String} :
    EntryCovers entry text
      ↔ ((IpAddress.parse? text).any fun address => (Network.parse? entry).any (·.covers address))
        = true := by
  cases hread : IpAddress.parse? text with
  | none =>
    simp only [Option.any_none, Bool.false_eq_true, iff_false]
    rintro ⟨_, _, address, -, hwrites, -⟩
    rw [IpAddress.parse?_eq_some_iff.2 hwrites] at hread
    cases hread
  | some address =>
    rw [entryCovers_iff (IpAddress.parse?_eq_some_iff.1 hread), Option.any_some, Option.any_eq_true]

instance (entry text : String) :
    Decidable (EntryCovers entry text) := decidable_of_iff _ entryCovers_iff_parse.symm

namespace MatchList

theorem isEmpty_ofEntries_eq_false_iff {entries : List String} :
    (ofEntries entries).isEmpty = false ↔ ∃ entry ∈ entries, IsEntry entry := by
  rw [isEmpty, beq_eq_false_iff_ne, ← Nat.pos_iff_ne_zero, size_ofEntries, List.countP_pos_iff]
  simp only [decide_eq_true_eq]

theorem coversText_ofEntries_eq_any {entries : List String} (h : (ofEntries entries).Fits)
    (text : String) :
    (ofEntries entries).coversText text
      = entries.any fun entry => decide (EntryCovers entry text) := by
  simp only [entryCovers_iff_parse, Bool.decide_eq_true]
  unfold coversText
  cases IpAddress.parse? text with
  | none => simp
  | some address =>
    rw [ofEntries_eq] at h ⊢
    simp only [covers_foldl_insert wellFormed_empty h, covers_empty, Bool.false_or,
      List.any_filterMap, Option.any_some]
    refine congrArg entries.any (funext fun entry => ?_)
    cases Network.parse? entry <;> rfl

end MatchList

theorem isReservedText_eq_any (text : String) :
    isReservedText text = reservedEntries.any fun entry => decide (EntryCovers entry text) := by
  have hfits : (MatchList.ofEntries reservedEntries).Fits := MatchList.fits_ofEntries (by decide)
  exact MatchList.coversText_ofEntries_eq_any hfits text

end Net

namespace Policy

/-- Whether an endpoint is for the requests with a method and a route. -/
def Endpoint.isFor (endpoint : Endpoint) (method route : String) : Bool :=
  !method.isEmpty && endpoint.holdsForMethod method &&
    (endpoint.route == route || endpoint.isWildcardFor route)

theorem mem_methodCandidates_iff {endpoints : List Endpoint} {method : String} {e : Endpoint} :
    e ∈ methodCandidates endpoints method ↔ e ∈ endpoints ∧ e.holdsForMethod method = true := by
  simp only [methodCandidates, List.mem_append, List.mem_filter]
  cases e.isAnyMethod <;> simp

theorem mem_matching_iff {endpoints : List Endpoint} {method route : String} {e : Endpoint} :
    e ∈ matching endpoints method route ↔ e ∈ endpoints ∧ e.isFor method route = true := by
  rw [matching, Endpoint.isFor]
  cases method.isEmpty with
  | true => simp
  | false =>
    simp only [Bool.false_eq_true, if_false, List.mem_append, List.mem_filter, List.mem_mergeSort,
      mem_methodCandidates_iff, Bool.not_false, Bool.true_and, Bool.and_eq_true, Bool.or_eq_true]
    rw [← and_or_left, and_assoc]

end Policy

/-! ### Requests that are kept out -/

namespace Decision

open Policy (Endpoint Snapshot)
open RateLimit (Limiter)

variable {snapshot : Snapshot} {limiter : Limiter} {request : Request} {user : Option User}
  {group : Option String}
  {ip : String}

theorem refusedBy_allowed_iff (hip : request.ip = some ip) :
    RefusedBy snapshot limiter request user group .allowed (.ipNotAllowed ip)
      ↔ ∃ e ∈ snapshot.endpoints, e.isFor request.method request.route = true
        ∧ isKeptOut e ip = true := by
  simp only [isKeptOut, Bool.and_eq_true, Bool.not_eq_true']
  constructor
  · rintro ⟨⟩
    rename_i e hmem hlisted hip' hout
    obtain ⟨hconfigured, hfor⟩ := Policy.mem_matching_iff.1 hmem
    exact ⟨e, hconfigured, hfor, hlisted, hout⟩
  · rintro ⟨e, hconfigured, hfor, hlisted, hout⟩
    exact .allowed hip (Policy.mem_matching_iff.2 ⟨hconfigured, hfor⟩) hlisted hout

theorem not_exempt (hip : request.ip = some ip) (hreserved : Net.isReservedText ip = false)
    (hbypassed : snapshot.bypassed.coversText ip = false) : ¬ Exempt snapshot request := by
  rintro ⟨other, hother, hexempt⟩
  obtain rfl := Option.some.inj (hip.symm.trans hother)
  simp [hreserved, hbypassed] at hexempt

/-- Nothing that is known of a request is on a list that is checked before the allow-lists. -/
theorem not_refusedBy_earlier (hlists : snapshot.blocklists = [])
    (hagent : request.userAgent? = none) :
    ∀ check ∈ [Check.blocklists, .userAgent, .user], ∀ refusal,
      ¬ RefusedBy snapshot limiter request none group check refusal := by
  intro check hmem refusal hrefused
  cases hrefused with
  | blocklists _ hsplit => simp [hlists] at hsplit
  | userAgent hknown => cases hagent.symm.trans hknown
  | user hknown => cases hknown
  | allowed => simp at hmem
  | rateLimit => simp at hmem

/-- A request that no earlier check refuses is refused for its address if and only if the
allow-lists refuse it. -/
theorem decide_eq_ipNotAllowed_iff (hexempt : ¬ Exempt snapshot request)
    (hearlier : ∀ check ∈ [Check.blocklists, .userAgent, .user], ∀ refusal,
      ¬ RefusedBy snapshot limiter request user group check refusal) :
    (decide snapshot limiter request user group).1 = some (.ipNotAllowed ip)
      ↔ RefusedBy snapshot limiter request user group .allowed (.ipNotAllowed ip) := by
  have hsilent : ∀ check ∈ [Check.blocklists, .userAgent, .user],
      refusalOf? snapshot limiter request user group check = none := by
    intro check hmem
    rw [Option.eq_none_iff_forall_ne_some]
    exact fun refusal hrefused => hearlier check hmem refusal ((refusedBy_iff hexempt).2 hrefused)
  -- The rate limit comes after the allow-lists and refuses for another reason.
  have hlast : ∀ refusal, refusalOf? snapshot limiter request user group .rateLimit = some refusal →
      refusal ≠ .ipNotAllowed ip := by
    rintro refusal hrefused rfl
    nomatch (refusedBy_iff hexempt).2 hrefused
  have hall : Check.all = [.blocklists, .userAgent, .user] ++ [.allowed, .rateLimit] := rfl
  rw [fst_decide hexempt, hall, List.findSome?_append, List.findSome?_eq_none_iff.2 hsilent,
    Option.none_or, refusedBy_iff hexempt]
  simp only [List.findSome?_cons, List.findSome?_nil]
  cases refusalOf? snapshot limiter request user group .allowed with
  | some refusal => rfl
  | none =>
    cases hrefused : refusalOf? snapshot limiter request user group .rateLimit with
    | none => rfl
    | some refusal => simp [hlast refusal hrefused]

/-- A request that no earlier check refuses is kept out exactly if some endpoint that is configured
for it has a list with an entry that can be read, and no entry of that list covers the address. The
lists have to fit their tries, as all lists of fewer than `2 ^ 25` entries do. -/
theorem ipNotAllowed_iff (config : Cloud.Config) (lists : Option Cloud.FirewallLists)
    (previous : Snapshot) (limiter : Limiter) (user : Option User) (group : Option String)
    (hfits : ∀ e ∈ config.endpoints, (Net.MatchList.ofEntries e.allowedIps).Fits)
    (hip : request.ip = some ip) (hexempt : ¬ Exempt (.ofCloud config lists previous) request)
    (hearlier : ∀ check ∈ [Check.blocklists, .userAgent, .user],
      ∀ refusal, ¬ RefusedBy (.ofCloud config lists previous) limiter request user
        group check refusal) :
    (decide (.ofCloud config lists previous) limiter request user group).1 = some (.ipNotAllowed ip)
      ↔ ∃ e ∈ config.endpoints, (Endpoint.ofCloud e).isFor request.method request.route = true
          ∧ (∃ entry ∈ e.allowedIps, Net.IsEntry entry)
          ∧ ∀ entry ∈ e.allowedIps, ¬ Net.EntryCovers entry ip := by
  have hkeptOut (e : Cloud.Endpoint) (hmem : e ∈ config.endpoints) :
    isKeptOut (.ofCloud e) ip = true
      ↔ (∃ entry ∈ e.allowedIps, Net.IsEntry entry)
        ∧ ∀ entry ∈ e.allowedIps, ¬ Net.EntryCovers entry ip := by
    have hallowed : (Endpoint.ofCloud e).allowed = .ofEntries e.allowedIps := rfl
    rw [isKeptOut, hallowed, Bool.and_eq_true, Bool.not_eq_true',
      Net.MatchList.isEmpty_ofEntries_eq_false_iff,
      Net.MatchList.coversText_ofEntries_eq_any (hfits e hmem)]
    simp
  rw [decide_eq_ipNotAllowed_iff hexempt hearlier, refusedBy_allowed_iff hip]
  constructor
  · rintro ⟨_, hmem, hfor, hout⟩
    obtain ⟨e, hconfigured, rfl⟩ := List.mem_map.1 hmem
    exact ⟨e, hconfigured, hfor, (hkeptOut e hconfigured).1 hout⟩
  · rintro ⟨e, hconfigured, hfor, hout⟩
    exact ⟨.ofCloud e, List.mem_map.2 ⟨e, hconfigured, rfl⟩, hfor, (hkeptOut e hconfigured).2 hout⟩

/-- The list of a wildcard route has one entry that can be read. It covers the first address, which
maps an IPv4 address, and does not cover the second one. -/
theorem ipNotAllowed_iff_two_addresses :
    let e : Cloud.Endpoint :=
      { method := "*", route := "/admin/*", allowedIps := ["4.4.4.0-4.4.4.255", " 9.9.0.0/16 "] }
    let snapshot : Snapshot := .ofCloud { endpoints := [e] } none .empty
    let limiter := Limiter.ofEndpoints snapshot.endpoints
    let sentBy (remote : String) :=
      Request.ofParts { method := "GET", url := "/admin/users", remote := some remote }
    (decide snapshot limiter (sentBy "::ffff:9.9.1.2") none none).1
      ≠ some (.ipNotAllowed "::ffff:9.9.1.2")
      ∧ (decide snapshot limiter (sentBy "8.8.8.8") none none).1
        = some (.ipNotAllowed "8.8.8.8") := by
  intro e snapshot limiter sentBy
  have hfits : ∀ configured ∈ [e], (Net.MatchList.ofEntries configured.allowedIps).Fits := by
    intro configured hmem
    rw [List.mem_singleton.1 hmem]
    exact Net.MatchList.fits_ofEntries (by decide)
  have hmapped : (sentBy "::ffff:9.9.1.2").ip = some "::ffff:9.9.1.2" := by decide +kernel
  have hplain : (sentBy "8.8.8.8").ip = some "8.8.8.8" := by decide +kernel
  have hexempt_mapped : ¬ Exempt snapshot (sentBy "::ffff:9.9.1.2") := by
    refine not_exempt hmapped ?_ (by decide +kernel)
    rw [Net.isReservedText_eq_any]
    decide +kernel
  have hexempt_plain : ¬ Exempt snapshot (sentBy "8.8.8.8") := by
    refine not_exempt hplain ?_ (by decide +kernel)
    rw [Net.isReservedText_eq_any]
    decide +kernel
  have hearlier (remote : String) : ∀ check ∈ [Check.blocklists, .userAgent, .user], ∀ refusal,
      ¬ RefusedBy snapshot limiter (sentBy remote) none none check refusal :=
    not_refusedBy_earlier rfl rfl
  refine ⟨fun hrefused => ?_, ?_⟩
  · obtain ⟨configured, hmem, -, -, hout⟩ :=
      (ipNotAllowed_iff { endpoints := [e] } none .empty limiter none none hfits
        hmapped hexempt_mapped
        (hearlier "::ffff:9.9.1.2")).1 hrefused
    obtain rfl := List.mem_singleton.1 hmem
    exact hout " 9.9.0.0/16 " (by simp [e]) (by decide +kernel)
  · refine (ipNotAllowed_iff { endpoints := [e] } none .empty limiter none none hfits
      hplain hexempt_plain
      (hearlier "8.8.8.8")).2 ?_
    exact ⟨e, List.mem_singleton_self e, by decide +kernel, by decide +kernel, by decide +kernel⟩

/-- The only entry of the list is a range of addresses, which is no network. The request is
admitted, although no entry covers its address. -/
theorem unreadable_allowList_allows_all :
    let e : Cloud.Endpoint :=
      { method := "GET", route := "/admin", allowedIps := ["4.4.4.0-4.4.4.255"] }
    let snapshot : Snapshot := .ofCloud { endpoints := [e] } none .empty
    let limiter := Limiter.ofEndpoints snapshot.endpoints
    let request := Request.ofParts { method := "GET", url := "/admin", remote := some "8.8.8.8" }
    request.ip = some "8.8.8.8" ∧ ¬ Exempt snapshot request
      ∧ (∀ check ∈ [Check.blocklists, .userAgent, .user], ∀ refusal,
          ¬ RefusedBy snapshot limiter request none none check refusal)
      ∧ (Endpoint.ofCloud e).isFor request.method request.route = true
      ∧ e.allowedIps ≠ [] ∧ (∀ entry ∈ e.allowedIps, ¬ Net.EntryCovers entry "8.8.8.8")
      ∧ (decide snapshot limiter request none none).1 = none := by
  intro e snapshot limiter request
  have hip : request.ip = some "8.8.8.8" := by decide +kernel
  have hexempt : ¬ Exempt snapshot request := by
    refine not_exempt hip ?_ (by decide +kernel)
    rw [Net.isReservedText_eq_any]
    decide +kernel
  have hearlier : ∀ check ∈ [Check.blocklists, .userAgent, .user], ∀ refusal,
      ¬ RefusedBy snapshot limiter request none none check refusal :=
    not_refusedBy_earlier rfl (by decide +kernel)
  have hlater :
      ∀ check ∈ [Check.allowed, .rateLimit], refusalOf? snapshot limiter request none none check
        = none := by
    decide +kernel
  refine ⟨hip, hexempt, hearlier, by decide +kernel, by decide, by decide +kernel, ?_⟩
  rw [fst_decide hexempt, List.findSome?_eq_none_iff]
  intro check _
  cases check with
  | allowed => exact hlater .allowed (by simp)
  | rateLimit => exact hlater .rateLimit (by simp)
  | blocklists | userAgent | user =>
    rw [Option.eq_none_iff_forall_ne_some]
    intro refusal hrefused
    exact hearlier _ (by simp) refusal ((refusedBy_iff hexempt).2 hrefused)

end Decision

end RequestGuard
