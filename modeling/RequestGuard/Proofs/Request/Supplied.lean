import RequestGuard.Proofs.Input.Occurrence
import RequestGuard.Request.Basic

/-!
# What the sender of a request supplies

`Supplied` lists the texts that are under the control of the sender of a request, source by source
and in terms of the parts of the request: the pairs of its query, its headers, its cookies, the
parameters of its route and its body. Each comes with the level at which it stands in the value that
its source is looked at as; a value stands one level deeper if its name has several values.

No such text is lost when the request is made of its parts: `Supplied.exists_standsIn`.
-/

namespace RequestGuard

open Input (StandsIn)
open Json (Value)

/-- The decoded pairs of the query of a URL, in their order. -/
def Request.queryPairs (url : String) : List (String × String) :=
  match rawQuery? url.toList with
  | some query => Form.parse query
  | none => []

/-- The headers with their names in lower case, in their order. -/
def Request.lowerHeaders (headers : List (String × String)) : List (String × String) :=
  headers.map fun (name, value) => (name.toLower, value)

/-- The level of the values of a name: values that share a name stand in a list. -/
def valueLevel (pairs : List (String × String)) (name : String) : Nat :=
  if (pairs.map Prod.fst).count name = 1 then 1 else 2

/-- A text that the sender of a request supplies in a source, and its level of nesting. -/
inductive Supplied (parts : Request.Parts) (s : String) : Source → Nat → Prop where
  | queryName {value : String} : (s, value) ∈ Request.queryPairs parts.url →
      Supplied parts s .query 0
  | queryValue {name value : String} {level : Nat} : (name, value) ∈ Request.queryPairs parts.url →
      StandsIn s (.string value) level →
      Supplied parts s .query (valueLevel (Request.queryPairs parts.url) name + level)
  | headerName {value : String} : (s, value) ∈ Request.lowerHeaders parts.headers →
      Supplied parts s .headers 0
  | headerValue {name value : String} {level : Nat} :
      (name, value) ∈ Request.lowerHeaders parts.headers →
      StandsIn s (.string value) level →
      Supplied parts s .headers (valueLevel (Request.lowerHeaders parts.headers) name + level)
  | cookieName {value : String} : (s, value) ∈ (Request.ofParts parts).cookies →
      Supplied parts s .cookies 0
  | cookieValue {name value : String} {level : Nat} :
      (name, value) ∈ (Request.ofParts parts).cookies →
      StandsIn s (.string value) level → Supplied parts s .cookies (1 + level)
  | routeParamName {value : String} : (s, value) ∈ parts.routeParams →
      Supplied parts s .routeParams 0
  | routeParamValue {name value : String} {level : Nat} {before after : List (String × String)} :
      parts.routeParams = before ++ (name, value) :: after → name ∉ after.map Prod.fst →
      StandsIn s (.string value) level → Supplied parts s .routeParams (1 + level)
  | body {value : Value} {level : Nat} : parts.body = some value → StandsIn s value level →
      Supplied parts s .body level

theorem ValuesByName.filter_eq_nil {pairs : List (String × String)} {name : String}
    (h : name ∉ pairs.map Prod.fst) :
    pairs.filter (fun pair => pair.1 = name) = [] := by
  rw [List.filter_eq_nil_iff]
  intro pair hpair
  rw [decide_eq_true_eq]
  rintro rfl
  exact h (List.mem_map_of_mem hpair)

theorem ValuesByName.find?_ofPairs (pairs : List (String × String)) (name : String) :
    Keyed.find? name (ofPairs pairs)
      = if name ∈ pairs.map Prod.fst
        then some ((pairs.filter fun pair => pair.1 = name).map Prod.snd) else none := by
  have hfold : ∀ values : ValuesByName,
      Keyed.find? name (pairs.foldl
        (fun values (name, value) => ValuesByName.add values name value) values)
      = if name ∈ pairs.map Prod.fst then
          some ((Keyed.find? name values).getD []
            ++ (pairs.filter fun pair => pair.1 = name).map Prod.snd)
        else Keyed.find? name values := by
    induction pairs with
    | nil => simp
    | cons pair rest ih =>
      intro values
      obtain ⟨other, value⟩ := pair
      rw [List.foldl_cons, ih]
      dsimp only
      rw [ValuesByName.add, Keyed.find?_update, List.map_cons]
      by_cases hsame : name = other
      · subst hsame
        rw [if_pos rfl, if_pos List.mem_cons_self, List.filter_cons_of_pos (by simp)]
        split
        · simp
        · rename_i hrest
          simp [filter_eq_nil hrest]
      · rw [if_neg hsame, List.filter_cons_of_neg (by simpa using Ne.symm hsame)]
        simp only [List.mem_cons, hsame, false_or]
  rw [ofPairs, hfold]
  simp [Keyed.find?]

theorem ValuesByName.ordered_ofPairs (pairs : List (String × String)) :
    Keyed.Ordered (ofPairs pairs) := by
  rw [ofPairs]
  exact List.foldlRecOn pairs _ Keyed.ordered_nil fun _ h _ _ => Keyed.ordered_update _ _ h

theorem ValuesByName.exists_mem_ofPairs {pairs : List (String × String)} {name value : String}
    (h : (name, value) ∈ pairs) :
    ∃ texts, (name, texts) ∈ ofPairs pairs ∧ value ∈ texts
      ∧ texts.length = (pairs.map Prod.fst).count name := by
  have hname : name ∈ pairs.map Prod.fst := List.mem_map_of_mem h
  have hfind := find?_ofPairs pairs name
  rw [if_pos hname] at hfind
  refine ⟨_, Keyed.mem_of_find? hfind, ?_, ?_⟩
  · exact List.mem_map.2 ⟨(name, value), List.mem_filter.2 ⟨h, by simp⟩, rfl⟩
  · rw [List.length_map, ← List.countP_eq_length_filter, List.count, List.countP_map]
    rfl

namespace Request

theorem standsIn_valuesToJson_name {values : ValuesByName} {name : String} {texts : List String}
    (h : (name, texts) ∈ values) : StandsIn name (valuesToJson values) 0 :=
  .name (List.mem_map_of_mem h)

theorem standsIn_valuesToJson {values : ValuesByName} {name value s : String}
    {texts : List String} {level : Nat} (h : (name, texts) ∈ values) (hvalue : value ∈ texts)
    (hs : StandsIn s (.string value) level) :
    StandsIn s (valuesToJson values) ((if texts.length = 1 then 1 else 2) + level) := by
  rw [Nat.add_comm]
  match texts, hvalue with
  | [text], hvalue =>
    obtain rfl := List.mem_singleton.1 hvalue
    exact .member (List.mem_map.2 ⟨(name, [value]), h, rfl⟩) hs
  | first :: second :: more, hvalue =>
    rw [if_neg (by simp)]
    have hitem : StandsIn s (.array ((first :: second :: more).map .string)) (level + 1) :=
      .item (List.mem_map_of_mem hvalue) hs
    exact .member (List.mem_map.2 ⟨(name, first :: second :: more), h, rfl⟩) hitem

theorem standsIn_textsToJson_name {texts : List (String × String)} {name value : String}
    (h : (name, value) ∈ texts) :
    StandsIn name (textsToJson texts) 0 :=
  .name (List.mem_map_of_mem h)

theorem standsIn_textsToJson {texts : List (String × String)} {name value s : String}
    {level : Nat} (h : (name, value) ∈ texts) (hs : StandsIn s (.string value) level) :
    StandsIn s (textsToJson texts) (1 + level) := by
  rw [Nat.add_comm]
  exact .member (List.mem_map_of_mem h) hs

theorem query_ofParts (parts : Parts) :
    (ofParts parts).query = .ofPairs (queryPairs parts.url) := by
  show parseQuery parts.url = _
  unfold parseQuery queryPairs
  cases rawQuery? parts.url.toList <;> rfl

theorem exists_mem_routeParams {parts : Parts} {name value : String}
    (h : (name, value) ∈ parts.routeParams) :
    ∃ last, (name, last) ∈ (ofParts parts).routeParams := by
  have hsome :
      (parts.routeParams.reverse.find? fun pair => decide (pair.1 = name)).isSome = true := by
    rw [List.find?_isSome]
    exact ⟨(name, value), List.mem_reverse.2 h, by simp⟩
  obtain ⟨last, hlast⟩ := Option.isSome_iff_exists.1 hsome
  have hfind : Keyed.find? name (Keyed.ofList parts.routeParams) = some last.2 := by
    rw [Keyed.find?_ofList, hlast]
    rfl
  exact ⟨last.2, Keyed.mem_of_find? hfind⟩

theorem mem_routeParams_of_last {parts : Parts} {name value : String}
    {before after : List (String × String)}
    (h : parts.routeParams = before ++ (name, value) :: after) (hlast : name ∉ after.map Prod.fst) :
    (name, value) ∈ (ofParts parts).routeParams := by
  have hafter : after.reverse.find? (fun pair => decide (pair.1 = name)) = none := by
    rw [List.find?_eq_none]
    intro pair hpair
    rw [decide_eq_true_eq]
    rintro rfl
    exact hlast (List.mem_map_of_mem (List.mem_reverse.1 hpair))
  have hfind : Keyed.find? name (Keyed.ofList parts.routeParams) = some value := by
    rw [Keyed.find?_ofList, h, List.reverse_append, List.reverse_cons, List.append_assoc,
      List.find?_append, hafter]
    simp
  exact Keyed.mem_of_find? hfind

end Request

/-- What the sender supplies stands in the value that the source is looked at as. -/
theorem Supplied.exists_standsIn {parts : Request.Parts} {s : String} {source : Source}
    {level : Nat} (h : Supplied parts s source level) :
    ∃ value, (Request.ofParts parts).valueOf? source = some value ∧ StandsIn s value level := by
  cases h with
  | queryName hpair =>
    obtain ⟨texts, hmem, -, -⟩ := ValuesByName.exists_mem_ofPairs hpair
    refine ⟨_, rfl, ?_⟩
    rw [Request.query_ofParts]
    exact Request.standsIn_valuesToJson_name hmem
  | queryValue hpair hs =>
    obtain ⟨texts, hmem, hvalue, hlength⟩ := ValuesByName.exists_mem_ofPairs hpair
    refine ⟨_, rfl, ?_⟩
    rw [Request.query_ofParts, valueLevel, ← hlength]
    exact Request.standsIn_valuesToJson hmem hvalue hs
  | headerName hpair =>
    obtain ⟨texts, hmem, -, -⟩ := ValuesByName.exists_mem_ofPairs hpair
    exact ⟨_, rfl, Request.standsIn_valuesToJson_name hmem⟩
  | headerValue hpair hs =>
    obtain ⟨texts, hmem, hvalue, hlength⟩ := ValuesByName.exists_mem_ofPairs hpair
    refine ⟨_, rfl, ?_⟩
    rw [valueLevel, ← hlength]
    exact Request.standsIn_valuesToJson hmem hvalue hs
  | cookieName hcookie => exact ⟨_, rfl, Request.standsIn_textsToJson_name hcookie⟩
  | cookieValue hcookie hs => exact ⟨_, rfl, Request.standsIn_textsToJson hcookie hs⟩
  | routeParamName hparam =>
    obtain ⟨last, hlast⟩ := Request.exists_mem_routeParams hparam
    exact ⟨_, rfl, Request.standsIn_textsToJson_name hlast⟩
  | routeParamValue hparams hlast hs =>
    exact ⟨_, rfl, Request.standsIn_textsToJson (Request.mem_routeParams_of_last hparams hlast) hs⟩
  | body hbody hs => exact ⟨_, hbody, hs⟩

end RequestGuard
