import RequestGuard.Policy.Endpoint

/-!
# The policies that hold for a request

All of them count, and the most specific one comes first: an equal route before a wildcard route,
of wildcard routes the one with more stars, a named method before any method, and otherwise the one
that is configured first.
-/

namespace RequestGuard.Policy

def methodCandidates (endpoints : List Endpoint) (method : String) : List Endpoint :=
  let candidates := endpoints.filter fun e => e.holdsForMethod method
  candidates.filter (fun e => !e.isAnyMethod) ++ candidates.filter Endpoint.isAnyMethod

/-- The policies that hold for a request with a method and a route, the most specific first. A
request without a method has none. -/
def matching (endpoints : List Endpoint) (method route : String) : List Endpoint :=
  if method.isEmpty then []
  else
    let candidates := methodCandidates endpoints method
    candidates.filter (fun e => e.route == route) ++
      (candidates.filter fun e => e.isWildcardFor route).mergeSort
        fun a b => b.starCount ≤ a.starCount

theorem mem_of_mem_matching {endpoints : List Endpoint} {method route : String} {e : Endpoint}
    (h : e ∈ matching endpoints method route) : e ∈ endpoints := by
  have hcandidate (hmem : e ∈ methodCandidates endpoints method) : e ∈ endpoints := by
    simp only [methodCandidates, List.mem_append, List.mem_filter] at hmem
    exact hmem.elim (fun hnamed => hnamed.1.1) fun hany => hany.1.1
  unfold matching at h
  split at h
  · cases h
  · obtain hequal | hwildcard := List.mem_append.1 h
    · exact hcandidate (List.mem_filter.1 hequal).1
    · exact hcandidate (List.mem_filter.1 (List.mem_mergeSort.1 hwildcard)).1

end RequestGuard.Policy
