import Mathlib.Data.Set.Card
import RequestGuard.Proofs.Input.Occurrence

/-!
# What is emitted at a position

A position is a place that leads from a value to one of its nodes (`Leads`), through members, items
and the claims of tokens. A node emits the strings that it stands for (`Emits`): a text itself, an
object its names, and an array of scalars its items joined by commas.

The walk meets a string at a place exactly if the string is emitted there, and not too deep
(`mem_occurrences_iff`). What is kept of the walk is therefore always emitted where it was found,
and it is all that is emitted unless that is too much to keep (`keys_strings_eq_emitted`).
-/

namespace RequestGuard.Input

open Json (Value)

/-- A place leads from a value to a node in it. -/
inductive Leads : Value → Path → Value → Prop where
  | here {value : Value} : Leads value [] value
  | member {members : List (String × Value)} {name : String} {value node : Value} {place : Path} :
      (name, value) ∈ members → Leads value place node →
        Leads (.object members) (.member name :: place) node
  | item {items : List Value} {index : Nat} {value node : Value} {place : Path} :
      items[index]? = some value → Leads value place node →
        Leads (.array items) (.item index :: place) node
  | claims {token : String} {claims : List (String × Value)} {node : Value} {place : Path} :
      Jwt.claims? token = some claims →
      Leads (.object (claims.filter fun member => member.1 != "iss")) place node →
      Leads (.string token) (.claims :: place) node

/-- The strings that a node stands for. -/
inductive Emits : Value → String → Prop where
  | self {s : String} : Emits (.string s) s
  | name {members : List (String × Value)} {s : String} {value : Value} :
      (s, value) ∈ members → Emits (.object members) s
  | joined {items : List Value} {texts : List String} {s : String} : items ≠ [] →
      items.mapM scalarText? = some texts → String.intercalate "," texts = s → s ≠ "" →
        Emits (.array items) s

/-- A string is emitted at a position that is not too deep. -/
def EmittedAt (maxDepth : Nat) (value : Value) (place : Path) (s : String) : Prop :=
  place.length ≤ maxDepth ∧ ∃ node, Leads value place node ∧ Emits node s

def emitted (maxDepth : Nat) (value : Value) :
    Set String := {s | ∃ place, EmittedAt maxDepth value place s}

theorem emits_array_iff {items : List Value} {s : String} :
    Emits (.array items) s ↔ joined? items = some s := by
  constructor
  · rintro (⟨⟩ | ⟨⟩ | ⟨-, htexts, rfl, hne⟩)
    rw [joined?, htexts]
    exact if_neg (by simpa using hne)
  · intro h
    unfold joined? at h
    split at h
    · rename_i texts htexts
      obtain ⟨hne, hs⟩ := Option.ite_none_left_eq_some.1 h
      obtain rfl := Option.some.inj hs
      refine .joined ?_ htexts rfl (by simpa using hne)
      rintro rfl
      obtain rfl : [] = texts := Option.some.inj htexts
      exact hne rfl
    · cases h

theorem Emits.mem_occurrences {node : Value} {s : String} (h : Emits node s) (below : Nat)
    (path : Path) :
    (s, path) ∈ occurrences (below + 1) path node := by
  cases h with
  | self => exact List.mem_cons_self
  | name hmem => exact List.mem_flatMap.2 ⟨_, hmem, List.mem_cons_self⟩
  | joined hitems htexts hs hne =>
    have hjoined := emits_array_iff.1 (.joined hitems htexts hs hne)
    refine List.mem_append_right _ ?_
    rw [hjoined]
    exact List.mem_singleton_self _

theorem Leads.mem_occurrences {value node : Value} {place : Path} {s : String} {levels : Nat}
    (h : Leads value place node) (hs : Emits node s) (hlevels : place.length < levels)
    (path : Path) :
    (s, path ++ place) ∈ occurrences levels path value := by
  induction h generalizing levels path with
  | here =>
    obtain ⟨below, rfl⟩ := Nat.exists_eq_add_of_lt hlevels
    rw [List.append_nil]
    exact hs.mem_occurrences _ path
  | @member members name value node place hmem _ ih =>
    obtain ⟨below, rfl⟩ := Nat.exists_eq_succ_of_ne_zero (Nat.ne_zero_of_lt hlevels)
    have hinner := ih hs (Nat.lt_of_succ_lt_succ hlevels) (path ++ [.member name])
    rw [List.append_assoc] at hinner
    exact List.mem_flatMap.2 ⟨_, hmem, List.mem_cons_of_mem _ hinner⟩
  | @item items index value node place hitem _ ih =>
    obtain ⟨below, rfl⟩ := Nat.exists_eq_succ_of_ne_zero (Nat.ne_zero_of_lt hlevels)
    have hinner := ih hs (Nat.lt_of_succ_lt_succ hlevels) (path ++ [.item index])
    rw [List.append_assoc] at hinner
    have hnumbered : (path ++ [.item index], value) ∈ numbered path items :=
      mem_numbered_iff.2 ⟨index, hitem, rfl⟩
    exact List.mem_append_left _ (List.mem_flatMap.2 ⟨_, hnumbered, hinner⟩)
  | @claims token claims node place hclaims _ ih =>
    obtain ⟨below, rfl⟩ := Nat.exists_eq_succ_of_ne_zero (Nat.ne_zero_of_lt hlevels)
    have hinner := ih hs (Nat.lt_of_succ_lt_succ hlevels) (path ++ [.claims])
    rw [List.append_assoc] at hinner
    refine List.mem_cons_of_mem _ ?_
    simp only [claimsWithoutIssuer?, hclaims, Option.map_some]
    exact hinner

theorem exists_leads_of_mem_occurrences {levels : Nat} {path found : Path} {value : Value}
    {s : String} (h : (s, found) ∈ occurrences levels path value) :
    ∃ place node, found = path ++ place ∧ place.length < levels ∧ Leads value place node
      ∧ Emits node s := by
  induction levels generalizing path value with
  | zero => cases h
  | succ below ih =>
    -- What is met further down is at a place one step longer.
    have hdeeper {step : Step} {inner : Value}
        (hstep : ∀ {place node}, Leads inner place node → Leads value (step :: place) node)
        (hinner : (s, found) ∈ occurrences below (path ++ [step]) inner) :
        ∃ place node, found = path ++ place ∧ place.length < below + 1 ∧ Leads value place node
          ∧ Emits node s := by
      obtain ⟨place, node, rfl, hlength, hleads, hemits⟩ := ih hinner
      exact ⟨step :: place, node, by simp, Nat.succ_lt_succ hlength, hstep hleads, hemits⟩
    have hhere (hemits : Emits value s) :
        ∃ place node, path = path ++ place ∧ place.length < below + 1
          ∧ Leads value place node ∧ Emits node s :=
      ⟨[], value, by simp, Nat.succ_pos below, .here, hemits⟩
    cases value with
    | null => cases h
    | bool b => cases h
    | number n => cases h
    | string text =>
      obtain h | h := List.mem_cons.1 h
      · obtain ⟨rfl, rfl⟩ := Prod.mk.inj h
        exact hhere .self
      · unfold claimsWithoutIssuer? at h
        cases hclaims : Jwt.claims? text with
        | none =>
          rw [hclaims] at h
          cases h
        | some claims =>
          rw [hclaims] at h
          exact hdeeper (.claims hclaims) h
    | array items =>
      obtain h | h := List.mem_append.1 h
      · obtain ⟨⟨place, item⟩, hnumbered, hinner⟩ := List.mem_flatMap.1 h
        obtain ⟨index, hitem, rfl⟩ := mem_numbered_iff.1 hnumbered
        exact hdeeper (.item hitem) hinner
      · simp only [Option.mem_toList, Option.map_eq_some_iff, Prod.mk.injEq] at h
        obtain ⟨text, hjoined, rfl, rfl⟩ := h
        exact hhere (emits_array_iff.2 hjoined)
    | object members =>
      obtain ⟨⟨name, nested⟩, hmem, h⟩ := List.mem_flatMap.1 h
      obtain h | hinner := List.mem_cons.1 h
      · obtain ⟨rfl, rfl⟩ := Prod.mk.inj h
        exact hhere (.name hmem)
      · exact hdeeper (.member hmem) hinner

theorem mem_occurrences_iff {maxDepth : Nat} {value : Value} {s : String} {place : Path} :
    (s, place) ∈ occurrences (maxDepth + 1) [] value ↔ EmittedAt maxDepth value place s := by
  constructor
  · intro h
    obtain ⟨place, node, rfl, hlength, hleads, hemits⟩ := exists_leads_of_mem_occurrences h
    exact ⟨Nat.le_of_lt_succ hlength, node, hleads, hemits⟩
  · rintro ⟨hlength, node, hleads, hemits⟩
    exact hleads.mem_occurrences hemits (Nat.lt_succ_of_le hlength) []

theorem emitted_eq (maxDepth : Nat) (value : Value) :
    emitted maxDepth value = ((occurrences (maxDepth + 1) [] value).map Prod.fst).toFinset := by
  ext s
  simp [emitted, mem_occurrences_iff]

theorem encard_emitted (maxDepth : Nat) (value : Value) :
    (emitted maxDepth value).encard
      = ((occurrences (maxDepth + 1) [] value).map Prod.fst).dedup.length := by
  rw [emitted_eq, Set.encard_coe_eq_coe_finsetCard, List.card_toFinset]

theorem mem_of_mem_foldl_add {maxEntries : Nat} {entry : String × Path}
    (occurrences : List (String × Path)) {found : Strings}
    (h : entry ∈ occurrences.foldl (add maxEntries) found) :
    entry ∈ found ∨ entry ∈ occurrences := by
  induction occurrences generalizing found with
  | nil => exact .inl h
  | cons occurrence rest ih =>
    obtain hfound | hrest := ih h
    · unfold add at hfound
      split at hfound
      · exact .inl hfound
      · split at hfound
        · exact .inl hfound
        · obtain rfl | hfound := Keyed.mem_insert hfound
          · exact .inr List.mem_cons_self
          · exact .inl hfound
    · exact .inr (List.mem_cons_of_mem _ hrest)

theorem mem_of_mem_collect {maxEntries levels : Nat} {entry : String × Path} {value : Value}
    (h : entry ∈ collect maxEntries levels [] value []) : entry ∈ occurrences levels [] value := by
  rw [collect_eq_foldl] at h
  exact (mem_of_mem_foldl_add _ h).resolve_left List.not_mem_nil

theorem emittedAt_of_mem_strings {limits : Limits} {value : Value} {s : String} {place : Path}
    (h : (s, place) ∈ strings limits value) : EmittedAt limits.maxDepth value place s :=
  mem_occurrences_iff.1 (mem_of_mem_collect h)

theorem Step.render_ne_empty (step : Step) : step.render ≠ "" := by
  rw [Ne, ← String.toList_inj]
  cases step <;> simp [render]

theorem Path.render_ne_empty (place : Path) : place.render ≠ "" := by
  cases place with
  | nil => decide
  | cons first rest =>
    have hgrows : ∀ (rest : Path) (text : String), text ≠ "" →
        rest.foldl (fun text step => text ++ step.render) text ≠ "" := by
      intro rest
      induction rest with
      | nil => exact fun _ htext => htext
      | cons step rest ih =>
        intro text htext
        refine ih _ fun happend => htext ?_
        rw [← String.toList_inj, String.toList_append] at happend
        rw [← String.toList_inj]
        exact (List.append_eq_nil_iff.1 happend).1
    exact hgrows rest first.render first.render_ne_empty

/-- Each string is kept with a place where it is emitted, whose text is not empty. All that is
emitted is kept, unless there are more distinct strings than may be kept. -/
theorem keys_strings_eq_emitted (limits : Limits) (value : Value) :
    (∀ s place, (s, place) ∈ strings limits value → EmittedAt limits.maxDepth value place s
      ∧ place.render ≠ "")
      ∧ ((emitted limits.maxDepth value).encard ≤ limits.maxEntries →
          {s | s ∈ Keyed.keys (strings limits value)} = emitted limits.maxDepth value) := by
  refine ⟨fun s place h => ⟨emittedAt_of_mem_strings h, place.render_ne_empty⟩, fun hentries => ?_⟩
  rw [encard_emitted, Nat.cast_le] at hentries
  ext s
  constructor
  · intro h
    obtain ⟨⟨_, place⟩, hmem, rfl⟩ := List.mem_map.1 h
    exact ⟨place, emittedAt_of_mem_strings hmem⟩
  · rintro ⟨place, h⟩
    obtain ⟨first, hfirst⟩ := exists_mem_collect hentries (mem_occurrences_iff.2 h)
    exact List.mem_map.2 ⟨(s, first), hfirst, rfl⟩

/-- The issuer of the token does not count, and the subject itself is one step too deep. -/
theorem keys_strings_eq_emitted_token :
    let token := "x.eyJpc3MiOiJhIiwic3ViIjoiYiJ9."
    let value : Value :=
      .object [("ids", .array [.string "1", .bool true]), ("token", .string token)]
    let limits : Limits := { maxDepth := 2, maxEntries := 6 }
    (emitted limits.maxDepth value).encard ≤ limits.maxEntries
      ∧ {s | s ∈ Keyed.keys (strings limits value)} = emitted limits.maxDepth value
      ∧ Keyed.keys (strings limits value) = ["1", "1,true", "ids", "sub", "token", token] := by
  intro token value limits
  have hentries : (emitted limits.maxDepth value).encard ≤ limits.maxEntries := by
    rw [encard_emitted, Nat.cast_le]
    decide +kernel
  exact ⟨hentries, (keys_strings_eq_emitted limits value).2 hentries, by decide +kernel⟩

end RequestGuard.Input
