import RequestGuard.Cloud.Event
import RequestGuard.Proofs.Keyed.Updates
import RequestGuard.Proofs.Request.Supplied

/-!
# Credentials are not reported

The event of an attack describes the request in which the attack was found. It is made from the
parts of the request that are left when the headers with credentials are taken away, however their
names are written and however often they come: nothing else that is reported depends on them
(`Cloud.AttackRequest.ofRequest_withoutCredentials`). So the control plane cannot tell two requests
apart that differ in their credentials only.
-/

namespace RequestGuard

namespace ValuesByName

theorem ofPairs_filter (keep : String → Bool) (pairs : List (String × String)) :
    ofPairs (pairs.filter fun pair => keep pair.1)
      = (ofPairs pairs).filter fun entry => keep entry.1 := by
  refine (ordered_ofPairs _).ext ((ordered_ofPairs pairs).filter _) fun name => ?_
  rw [Keyed.find?_filter, find?_ofPairs, find?_ofPairs]
  by_cases hkeep : keep name = true
  · have hsame : (pairs.filter fun pair => keep pair.1).filter (fun pair => pair.1 = name)
        = pairs.filter fun pair => pair.1 = name := by
      rw [List.filter_filter]
      refine List.filter_congr fun pair _ => ?_
      by_cases hname : pair.1 = name
      · simp [hname, hkeep]
      · simp [hname]
    have hmem : name ∈ (pairs.filter fun pair => keep pair.1).map Prod.fst
        ↔ name ∈ pairs.map Prod.fst := by
      simp [hkeep]
    simp only [hsame, hmem, hkeep, if_true]
  · have hmem : name ∉ (pairs.filter fun pair => keep pair.1).map Prod.fst := by
      simp [hkeep]
    rw [if_neg hmem, if_neg hkeep]

end ValuesByName

namespace Request

/-- The headers that carry credentials, by their names in lower case. -/
def credentialNames : List String := ["authorization", "cookie", "proxy-authorization"]

def isCredential (name : String) : Bool := name.toLower ∈ credentialNames

def Parts.withoutCredentials (parts : Parts) : Parts :=
  { parts with headers := parts.headers.filter fun header => !isCredential header.1 }

@[simp] theorem Parts.withoutCredentials_idem (parts : Parts) :
    parts.withoutCredentials.withoutCredentials = parts.withoutCredentials := by
  simp [withoutCredentials]

theorem headersByName_withoutCredentials (parts : Parts) :
    headersByName parts.withoutCredentials.headers
      = (headersByName parts.headers).filter fun entry => entry.1 ∉ credentialNames := by
  have hfilter :=
    ValuesByName.ofPairs_filter (fun name => name ∉ credentialNames) (lowerHeaders parts.headers)
  rw [headersByName, Parts.withoutCredentials]
  refine Eq.trans (congrArg _ ?_) hfilter
  rw [lowerHeaders, List.filter_map]
  refine congrArg _ (List.filter_congr fun header _ => ?_)
  simp [isCredential]

theorem find?_headersByName_withoutCredentials (parts : Parts) {name : String}
    (h : name ∉ credentialNames) :
    Keyed.find? name (headersByName parts.withoutCredentials.headers)
      = Keyed.find? name (headersByName parts.headers) := by
  rw [headersByName_withoutCredentials, Keyed.find?_filter (fun name => name ∉ credentialNames)]
  exact if_pos (by simpa using h)

theorem ip_withoutCredentials (parts : Parts) :
    (ofParts parts.withoutCredentials).ip = (ofParts parts).ip := by
  have hname : "x-forwarded-for" ∉ credentialNames := by decide
  have hforwarded := find?_headersByName_withoutCredentials parts hname
  rw [ofParts, ofParts]
  dsimp only
  rw [hforwarded]
  rfl

theorem userAgent?_withoutCredentials (parts : Parts) :
    (ofParts parts.withoutCredentials).userAgent? = (ofParts parts).userAgent? := by
  have hname : "user-agent".toLower ∉ credentialNames := by decide +kernel
  exact congrArg (fun values => (values.getD []).head?)
    (find?_headersByName_withoutCredentials parts hname)

end Request

namespace Cloud

open Request (Parts)

/-- All headers but those with credentials are reported. -/
theorem AttackRequest.headers_ofRequest (parts : Parts) :
    (ofRequest (.ofParts parts)).headers
      = Request.headersByName parts.withoutCredentials.headers := by
  rw [Request.headersByName_withoutCredentials]
  refine List.filter_congr fun entry _ => ?_
  simp [secretHeaders, Request.credentialNames]

/-- Nothing that is reported of a request depends on its credentials. -/
theorem AttackRequest.ofRequest_withoutCredentials (parts : Parts) :
    ofRequest (.ofParts parts.withoutCredentials) = ofRequest (.ofParts parts) := by
  have hip := Request.ip_withoutCredentials parts
  have hagent := Request.userAgent?_withoutCredentials parts
  have hheaders : (ofRequest (.ofParts parts.withoutCredentials)).headers
      = (ofRequest (.ofParts parts)).headers := by
    rw [headers_ofRequest, headers_ofRequest, Parts.withoutCredentials_idem]
  exact (AttackRequest.mk.injEq ..).mpr ⟨rfl, rfl, rfl, hip, hagent, hheaders, rfl⟩

variable {parts parts' : Parts} {context context' : Context}

/-- Two requests that are the same but for their credentials, with the same user: whatever attack is
found, and whatever else was decided on the two, the events are the same. -/
theorem Event.ofAttack_eq_of_withoutCredentials_eq
    (h : parts.withoutCredentials = parts'.withoutCredentials)
    (hrequest : context.request = .ofParts parts) (hrequest' : context'.request = .ofParts parts')
    (huser : context.user = context'.user) (agent : AgentInfo) (attack : Attack) :
    ofAttack agent attack (some context) = ofAttack agent attack (some context') := by
  have hreported : AttackRequest.ofRequest context.request = .ofRequest context'.request := by
    rw [hrequest, hrequest', ← AttackRequest.ofRequest_withoutCredentials parts, h,
      AttackRequest.ofRequest_withoutCredentials]
  simp only [ofAttack, Option.bind_some, Option.map_some, huser, hreported]

/-- A request with two cookies and a token, and the same one without them. -/
theorem Event.ofAttack_eq_of_withoutCredentials_eq_mixed_case :
    let parts : Parts :=
      { method := "get", url := "/login?next=/"
        headers :=
          [("COOKIE", "session=1"), ("X-Forwarded-For", "8.8.8.8"), ("Authorization", "Bearer x"),
            ("cookie", "theme=2"),
            ("User-Agent", "curl"), ("Proxy-Authorization", "Basic y")] }
    let parts' : Parts :=
      { method := "get", url := "/login?next=/"
        headers := [("X-Forwarded-For", "8.8.8.8"), ("User-Agent", "curl")] }
    let user : User := { id := "1", name := "Ann" }
    let context : Context := { request := .ofParts parts, user }
    let context' : Context := { request := .ofParts parts', user, decision := some none }
    let agent : AgentInfo := { dryMode := false }
    let attack : Attack :=
      { kind := .sqlInjection, operation := "query", source := .query, path := "next",
        payload := "/", metadata := [], blocked := true }
    parts.withoutCredentials = parts'.withoutCredentials ∧ context.user = context'.user
      ∧ Event.ofAttack agent attack (some context) = .ofAttack agent attack (some context') := by
  intro parts parts' user context context' agent attack
  have hheaders :
      parts.withoutCredentials.headers = parts'.withoutCredentials.headers := by decide +kernel
  have h : parts.withoutCredentials = parts'.withoutCredentials :=
    congrArg (fun headers => ({ parts' with headers } : Parts)) hheaders
  have hrequest : context.request = .ofParts parts := rfl
  have hrequest' : context'.request = .ofParts parts' := rfl
  have huser : context.user = context'.user := rfl
  exact ⟨h, huser, Event.ofAttack_eq_of_withoutCredentials_eq h hrequest hrequest'
    huser agent attack⟩

end Cloud

end RequestGuard
