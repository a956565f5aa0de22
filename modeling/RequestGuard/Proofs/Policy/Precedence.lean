import Mathlib.Data.List.Nodup
import RequestGuard.Policy.Matching

/-!
# The order of the policies for a request

The policies for a request are collected in two rounds, named methods first, and the wildcard routes
are sorted by their stars in a sort that keeps the order of what it cannot tell apart. What comes
out is one order (`Precedes`), and every policy that applies to the request is in it once
(`matching_most_specific_first`). An endpoint may be configured more than once, so here endpoints go
with their places in the configuration.
-/

namespace RequestGuard.Policy

abbrev Placed := Endpoint × Nat

/-- Which requests an endpoint is for. -/
structure Endpoint.AppliesTo (e : Endpoint) (method route : String) : Prop where
  method : e.method = "*" ∨ e.method.toLower = method.toLower
  route : e.route = route ∨ '*' ∈ e.route.toList
    ∧ (Glob.ofRoute e.route).accepts route.toList = true

/-- A named method comes before any method, and otherwise the earlier place comes first. -/
inductive MethodPrecedes (a b : Placed) : Prop where
  | named (ha : a.1.method ≠ "*") (hb : b.1.method = "*")
  | earlier (h : a.1.method = "*" ↔ b.1.method = "*") (hplace : a.2 < b.2)

/-- Which of two endpoints is the more specific one for a route. -/
inductive Precedes (route : String) (a b : Placed) : Prop where
  | equalRoute (ha : a.1.route = route) (hb : b.1.route ≠ route)
  | amongEqual (ha : a.1.route = route) (hb : b.1.route = route) (h : MethodPrecedes a b)
  | moreStars (ha : a.1.route ≠ route) (hb : b.1.route ≠ route)
      (h : b.1.route.toList.count '*' < a.1.route.toList.count '*')
  | amongWildcards (ha : a.1.route ≠ route) (hb : b.1.route ≠ route)
      (hstars : a.1.route.toList.count '*' = b.1.route.toList.count '*') (h : MethodPrecedes a b)

theorem pairwise_snd_zipIdx {α : Type} (items : List α) :
    items.zipIdx.Pairwise fun a b => a.2 < b.2 := by
  have hrange : (items.zipIdx.map Prod.snd).Pairwise (· < ·) := by
    rw [List.zipIdx_map_snd]
    exact List.pairwise_lt_range'
  exact List.pairwise_map.1 hrange

/-- A sort keeps the order of the items that it cannot tell apart. -/
theorem pairwise_mergeSort_of_pairwise {α : Type} (le : α → α → Bool) {R : α → α → Prop}
    (trans : ∀ a b c, le a b = true → le b c = true → le a c = true)
    (total : ∀ a b, (le a b || le b a) = true) {items : List α} (h : items.Pairwise R) :
    (items.mergeSort le).Pairwise fun a b => le a b = true ∧ (le b a = true → R a b) := by
  -- The sort is that of the items with their places, where no two are alike.
  rw [← List.mergeSort_zipIdx, List.pairwise_map]
  have hsorted :=
    List.pairwise_mergeSort (List.zipIdxLE_trans trans) (List.zipIdxLE_total total) items.zipIdx
  have hperm := List.mergeSort_perm items.zipIdx (List.zipIdxLE le)
  have hplaces : (items.zipIdx.mergeSort (List.zipIdxLE le)).Pairwise fun a b => a.2 ≠ b.2 :=
    (hperm.pairwise_iff fun hne => hne.symm).2 ((pairwise_snd_zipIdx items).imp Nat.ne_of_lt)
  refine (hsorted.and hplaces).imp_of_mem ?_
  rintro ⟨a, i⟩ ⟨b, j⟩ ha hb ⟨hle, hne⟩
  have hi : items[i]? = some a := List.mem_zipIdx_iff_getElem?.1 (List.mem_mergeSort.1 ha)
  have hj : items[j]? = some b := List.mem_zipIdx_iff_getElem?.1 (List.mem_mergeSort.1 hb)
  simp only [List.zipIdxLE, Bool.if_false_right, Bool.and_eq_true, decide_eq_true_eq] at hle
  refine ⟨hle.1, fun hback => ?_⟩
  simp only [hback, if_true, decide_eq_true_eq] at hle
  obtain ⟨hi', rfl⟩ := List.getElem?_eq_some_iff.1 hi
  obtain ⟨hj', rfl⟩ := List.getElem?_eq_some_iff.1 hj
  exact List.pairwise_iff_getElem.1 h i j hi' hj' (Nat.lt_of_le_of_ne hle.2 hne)

/-- The endpoints for a method with their places, named methods first. -/
def placedCandidates (endpoints : List Endpoint) (method : String) : List Placed :=
  let candidates := endpoints.zipIdx.filter fun e => e.1.holdsForMethod method
  candidates.filter (fun e => !e.1.isAnyMethod) ++ candidates.filter fun e => e.1.isAnyMethod

/-- The policies for a request with their places. -/
def placedMatching (endpoints : List Endpoint) (method route : String) : List Placed :=
  let candidates := placedCandidates endpoints method
  candidates.filter (fun e => e.1.route == route) ++
    (candidates.filter fun e => e.1.isWildcardFor route).mergeSort
      fun a b => b.1.starCount ≤ a.1.starCount

theorem filter_map_fst (keep : Endpoint → Bool) (placed : List Placed) :
    (placed.filter fun e => keep e.1).map Prod.fst = (placed.map Prod.fst).filter keep :=
  List.filter_map.symm

theorem map_fst_placedCandidates (endpoints : List Endpoint) (method : String) :
    (placedCandidates endpoints method).map Prod.fst = methodCandidates endpoints method := by
  rw [placedCandidates, List.map_append, filter_map_fst (fun e => !e.isAnyMethod),
    filter_map_fst Endpoint.isAnyMethod,
    filter_map_fst (fun e => e.holdsForMethod method), List.zipIdx_map_fst]
  rfl

theorem map_fst_placedMatching (endpoints : List Endpoint) {method : String} (h : method ≠ "")
    (route : String) :
    (placedMatching endpoints method route).map Prod.fst = matching endpoints method route := by
  have hsort (placed : List Placed) :
    (placed.mergeSort fun a b => b.1.starCount ≤ a.1.starCount).map Prod.fst
      = (placed.map Prod.fst).mergeSort fun a b => b.starCount ≤ a.starCount :=
    List.map_mergeSort fun _ _ _ _ => rfl
  rw [placedMatching, List.map_append, filter_map_fst (fun e => e.route == route), hsort,
    filter_map_fst fun e => e.isWildcardFor route, map_fst_placedCandidates, matching,
      if_neg (by simpa using h)]

theorem mem_placedCandidates_iff {endpoints : List Endpoint} {method : String} {e : Placed} :
    e ∈ placedCandidates endpoints method ↔ endpoints[e.2]? = some e.1
      ∧ e.1.holdsForMethod method = true := by
  simp only [placedCandidates, List.mem_append, List.mem_filter, List.mem_zipIdx_iff_getElem?]
  cases e.1.isAnyMethod <;> simp

theorem isAnyMethod_iff {e : Endpoint} : e.isAnyMethod = true ↔ e.method = "*" :=
  beq_iff_eq

theorem isAnyMethod_eq_false_iff {e : Endpoint} : e.isAnyMethod = false ↔ e.method ≠ "*" :=
  beq_eq_false_iff_ne

theorem pairwise_placedCandidates (endpoints : List Endpoint) (method : String) :
    (placedCandidates endpoints method).Pairwise MethodPrecedes := by
  have hplaces := (pairwise_snd_zipIdx endpoints).filter fun e => e.1.holdsForMethod method
  refine List.pairwise_append.2 ⟨?_, ?_, ?_⟩
  · refine (hplaces.filter _).imp_of_mem fun {a b} ha hb hplace => .earlier ?_ hplace
    simp only [List.mem_filter, Bool.not_eq_true', isAnyMethod_eq_false_iff] at ha hb
    exact iff_of_false ha.2 hb.2
  · refine (hplaces.filter _).imp_of_mem fun {a b} ha hb hplace => .earlier ?_ hplace
    simp only [List.mem_filter, isAnyMethod_iff] at ha hb
    exact iff_of_true ha.2 hb.2
  · intro a ha b hb
    simp only [List.mem_filter, Bool.not_eq_true', isAnyMethod_eq_false_iff,
      isAnyMethod_iff] at ha hb
    exact .named ha.2 hb.2

theorem isWildcardFor_iff {e : Endpoint} {route : String} :
    e.isWildcardFor route = true
      ↔ e.route ≠ route ∧ '*' ∈ e.route.toList
        ∧ (Glob.ofRoute e.route).accepts route.toList = true := by
  rw [Endpoint.isWildcardFor, Endpoint.starCount, Glob.isMatch_eq, Bool.and_eq_true,
    Bool.and_eq_true, bne_iff_ne, bne_iff_ne,
    Nat.ne_zero_iff_zero_lt, List.count_pos_iff, and_assoc]

theorem mem_placedMatching_iff {endpoints : List Endpoint} {method route : String} {e : Placed} :
    e ∈ placedMatching endpoints method route ↔ endpoints[e.2]? = some e.1
      ∧ e.1.AppliesTo method route := by
  have hmethod : e.1.holdsForMethod method = true ↔ e.1.method = "*"
      ∨ e.1.method.toLower = method.toLower := by
    rw [Endpoint.holdsForMethod, Bool.or_eq_true, isAnyMethod_iff, beq_iff_eq]
  simp only [placedMatching, List.mem_append, List.mem_mergeSort, List.mem_filter,
    mem_placedCandidates_iff, beq_iff_eq, isWildcardFor_iff, hmethod]
  constructor
  · rintro (⟨⟨hplace, hmethod⟩, hroute⟩ | ⟨⟨hplace, hmethod⟩, -, hroute⟩)
    · exact ⟨hplace, hmethod, .inl hroute⟩
    · exact ⟨hplace, hmethod, .inr hroute⟩
  · rintro ⟨hplace, hmethod, hroute⟩
    by_cases hequal : e.1.route = route
    · exact .inl ⟨⟨hplace, hmethod⟩, hequal⟩
    · exact .inr ⟨⟨hplace, hmethod⟩, hequal, hroute.resolve_left hequal⟩

theorem pairwise_placedMatching (endpoints : List Endpoint) (method route : String) :
    (placedMatching endpoints method route).Pairwise (Precedes route) := by
  have hmethods := pairwise_placedCandidates endpoints method
  have hwildcards :=
    pairwise_mergeSort_of_pairwise (fun a b : Placed => b.1.starCount ≤ a.1.starCount)
    (fun _ _ _ h h' => decide_eq_true (Nat.le_trans (of_decide_eq_true h') (of_decide_eq_true h)))
    (fun a b => by simpa using Nat.le_total b.1.starCount a.1.starCount)
    (hmethods.filter fun e => e.1.isWildcardFor route)
  refine List.pairwise_append.2 ⟨?_, ?_, ?_⟩
  · refine (hmethods.filter _).imp_of_mem fun {a b} ha hb h => ?_
    simp only [List.mem_filter, beq_iff_eq] at ha hb
    exact .amongEqual ha.2 hb.2 h
  · refine hwildcards.imp_of_mem fun {a b} ha hb h => ?_
    simp only [List.mem_mergeSort, List.mem_filter, isWildcardFor_iff] at ha hb
    simp only [decide_eq_true_eq] at h
    obtain hmore | hsame := Nat.lt_or_eq_of_le h.1
    · exact .moreStars ha.2.1 hb.2.1 hmore
    · exact .amongWildcards ha.2.1 hb.2.1 hsame.symm (h.2 (Nat.le_of_eq hsame.symm))
  · intro a ha b hb
    simp only [List.mem_mergeSort, List.mem_filter, beq_iff_eq, isWildcardFor_iff] at ha hb
    exact .equalRoute ha.2 hb.2.1

theorem Precedes.ne {route : String} {a b : Placed} (h : Precedes route a b) : a ≠ b := by
  rintro rfl
  have hmethod : ¬ MethodPrecedes a a := by
    rintro (⟨ha, hb⟩ | ⟨-, hplace⟩)
    · exact ha hb
    · exact Nat.lt_irrefl _ hplace
  cases h with
  | equalRoute ha hb => exact hb ha
  | amongEqual _ _ h => exact hmethod h
  | moreStars _ _ h => exact Nat.lt_irrefl _ h
  | amongWildcards _ _ _ h => exact hmethod h

/-- The policies for a request are those of all endpoints that apply to it, each once, the more
specific ones before the less specific ones. A request without a method has none. -/
theorem matching_most_specific_first (endpoints : List Endpoint) (route : String) :
    matching endpoints "" route = []
      ∧ ∀ method, method ≠ "" →
        ∃ placed : List Placed, matching endpoints method route = placed.map Prod.fst
          ∧ placed.Nodup
          ∧ (∀ e i, (e, i) ∈ placed ↔ endpoints[i]? = some e ∧ e.AppliesTo method route)
          ∧ placed.Pairwise (Precedes route) := by
  refine ⟨rfl, fun method hmethod => ⟨placedMatching endpoints method route, ?_, ?_, ?_, ?_⟩⟩
  · exact (map_fst_placedMatching endpoints hmethod route).symm
  · exact (pairwise_placedMatching endpoints method route).imp Precedes.ne
  · exact fun e i => mem_placedMatching_iff
  · exact pairwise_placedMatching endpoints method route

/-- A wildcard route for a named method and an equal route for any method both hold for a request,
and the policy of another method does not. -/
theorem matching_most_specific_first_mixed_case :
    let wildcard : Endpoint := { method := "get", route := "/a/*" }
    let other : Endpoint := { method := "POST", route := "/a/b" }
    let anyMethod : Endpoint := { method := "*", route := "/a/b" }
    "GET" ≠ ""
      ∧ ∃ placed : List Placed,
        matching [wildcard, other, anyMethod] "GET" "/a/b" = placed.map Prod.fst
          ∧ (wildcard, 0) ∈ placed ∧ (other, 1) ∉ placed ∧ (anyMethod, 2) ∈ placed
          ∧ placed.Pairwise (Precedes "/a/b") := by
  intro wildcard other anyMethod
  have hget : "GET" ≠ "" := by decide
  obtain ⟨placed, hplaced, -, hmem, horder⟩ :=
    (matching_most_specific_first [wildcard, other, anyMethod] "/a/b").2 "GET" hget
  have hwildcard : wildcard.AppliesTo "GET" "/a/b" := by
    have hmethod : "get".toLower = "GET".toLower := by
      show String.map Char.toLower "get" = String.map Char.toLower "GET"
      simp [← String.toList_inj]
    have haccepts : (Glob.ofRoute "/a/*").accepts "/a/b".toList = true := by
      simp [Glob.ofRoute, Glob.accepts, Glob.isEnd, Unicode.eqUpToCase]
    exact ⟨.inr hmethod, .inr ⟨by simp [wildcard], haccepts⟩⟩
  have hother : ¬ other.AppliesTo "GET" "/a/b" := by
    have hmethod : ¬ ("POST" = "*" ∨ "POST".toLower = "GET".toLower) := by
      show ¬ ("POST" = "*" ∨ String.map Char.toLower "POST" = String.map Char.toLower "GET")
      simp [← String.toList_inj]
    exact fun h => hmethod h.method
  have hanyMethod : anyMethod.AppliesTo "GET" "/a/b" := ⟨.inl rfl, .inl rfl⟩
  exact ⟨hget, placed, hplaced, (hmem _ _).2 ⟨rfl, hwildcard⟩, fun h => hother ((hmem _ _).1 h).2,
    (hmem _ _).2 ⟨rfl, hanyMethod⟩, horder⟩

end RequestGuard.Policy
