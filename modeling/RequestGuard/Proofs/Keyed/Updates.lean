import Mathlib.Algebra.GroupWithZero.Nat
import Mathlib.Data.List.Induction
import Mathlib.Data.List.Nodup
import RequestGuard.Keyed

/-!
# Tables that are built by updates

Ordered entries are determined by what is found at each key, and a sum over them changes with an
update by what the value at the key changes. A table is the result of one update after the other
(`updateAll`): at a key it holds what the updates of that key make of nothing, in their order.

A table of limited size takes no new key once it is full (`updateWithin`). Then the keys that it
holds are the first ones that came (`firsts`), and the updates of all other keys might as well not
have been made (`updateAllWithin_eq`).
-/

namespace RequestGuard.Keyed

/-! ### The first keys -/

section First

variable {κ : Type} [DecidableEq κ]

/-- Each key of a list once, in the order in which the keys come first. -/
def distinct (keys : List κ) : List κ := keys.eraseDups

theorem mem_distinct {keys : List κ} {key : κ} :
    key ∈ distinct keys ↔ key ∈ keys := List.mem_eraseDups

theorem distinct_concat (keys : List κ) (key : κ) :
    distinct (keys ++ [key]) = if key ∈ keys then distinct keys else distinct keys ++ [key] := by
  rw [distinct, List.eraseDups_append]
  by_cases hmem : key ∈ keys <;> simp [distinct, List.removeAll, List.eraseDups_cons, hmem]

theorem nodup_distinct (keys : List κ) : (distinct keys).Nodup := by
  induction keys using List.reverseRecOn with
  | nil => simp [distinct]
  | append_singleton keys key ih =>
    rw [distinct_concat]
    split
    · exact ih
    · rename_i hnew
      rw [List.nodup_append]
      refine ⟨ih, by simp, ?_⟩
      intro other hother last hlast
      rw [mem_distinct] at hother
      rw [List.mem_singleton] at hlast
      rintro rfl
      exact hnew (hlast ▸ hother)

/-- The first distinct keys of a list, up to a number. -/
def firsts (max : Nat) (keys : List κ) : List κ := (distinct keys).take max

theorem length_firsts (max : Nat) (keys : List κ) :
    (firsts max keys).length = min max (distinct keys).length :=
  List.length_take

theorem nodup_firsts (max : Nat) (keys : List κ) : (firsts max keys).Nodup :=
  (nodup_distinct keys).sublist (List.take_sublist ..)

theorem mem_of_mem_firsts {max : Nat} {keys : List κ} {key : κ}
    (h : key ∈ firsts max keys) : key ∈ keys :=
  mem_distinct.1 (List.mem_of_mem_take h)

theorem firsts_subset {fewer more : Nat} (h : fewer ≤ more) (keys : List κ) :
    firsts fewer keys ⊆ firsts more keys :=
  (List.take_sublist_take_left h).subset

theorem firsts_of_length_lt {max : Nat} {keys : List κ} (h : (firsts max keys).length < max) :
    firsts max keys = distinct keys := by
  rw [length_firsts] at h
  exact List.take_of_length_le (by omega)

theorem mem_firsts_of_length_lt {max : Nat} {keys : List κ} (h : (firsts max keys).length < max)
    {key : κ} :
    key ∈ firsts max keys ↔ key ∈ keys := by
  rw [firsts_of_length_lt h, mem_distinct]

theorem firsts_concat (max : Nat) (keys : List κ) (key : κ) :
    firsts max (keys ++ [key])
      = if key ∉ firsts max keys
        ∧ (firsts max keys).length < max then firsts max keys ++ [key] else firsts max keys := by
  by_cases hroom : (firsts max keys).length < max
  · have hall := firsts_of_length_lt hroom
    by_cases hknown : key ∈ keys
    · have hkept : ¬ (key ∉ firsts max keys ∧ (firsts max keys).length < max) := fun h =>
        h.1 ((mem_firsts_of_length_lt hroom).2 hknown)
      rw [if_neg hkept, firsts, distinct_concat, if_pos hknown, firsts]
    · have htaken : key ∉ firsts max keys := mt (mem_firsts_of_length_lt hroom).1 hknown
      rw [if_pos ⟨htaken, hroom⟩, firsts, distinct_concat, if_neg hknown, ← hall]
      refine List.take_of_length_le ?_
      rw [List.length_append, List.length_singleton]
      exact hroom
  · have hfull : max ≤ (distinct keys).length := by
      rw [length_firsts] at hroom
      omega
    rw [if_neg fun h => hroom h.2, firsts, distinct_concat]
    split
    · rfl
    · exact List.take_append_of_le_length hfull

section Admitted

variable {α : Type} (max : Nat) (key : α → κ)

def admitted (calls : List α) :
    List α := calls.filter fun call => key call ∈ firsts max (calls.map key)

theorem mem_map_admitted_iff (calls : List α) (k : κ) :
    k ∈ (admitted max key calls).map key ↔ k ∈ firsts max (calls.map key) := by
  constructor
  · intro h
    obtain ⟨call, hcall, rfl⟩ := List.mem_map.1 h
    exact of_decide_eq_true (List.mem_filter.1 hcall).2
  · intro h
    obtain ⟨call, hcall, rfl⟩ := List.mem_map.1 (mem_of_mem_firsts h)
    exact List.mem_map_of_mem (List.mem_filter.2 ⟨hcall, decide_eq_true h⟩)

theorem admitted_concat (calls : List α) (call : α) :
    admitted max key (calls ++ [call])
      = if key call ∈ firsts max (calls.map key) ∨ (firsts max (calls.map key)).length < max then
          admitted max key calls ++ [call]
        else admitted max key calls := by
  have hfirsts := firsts_concat max (calls.map key) (key call)
  rw [admitted, List.map_append, List.map_singleton, List.filter_append, hfirsts]
  by_cases hknown : key call ∈ firsts max (calls.map key)
  · simp [hknown, admitted]
  · by_cases hroom : (firsts max (calls.map key)).length < max
    · -- No key was refused yet, so the new one is none of those that came before.
      have hnew : key call ∉ calls.map key := mt (mem_firsts_of_length_lt hroom).2 hknown
      have hother : ∀ other ∈ calls, key other ≠ key call := by
        intro other hmem hsame
        exact hnew (hsame ▸ List.mem_map_of_mem hmem)
      have hfilter :
        (calls.filter fun other => key other ∈ firsts max (calls.map key) ++ [key call])
          = admitted max key calls := by
        refine List.filter_congr ?_
        intro other hmem
        simp [hother other hmem]
      rw [if_pos ⟨hknown, hroom⟩, if_pos (.inr hroom), hfilter]
      simp
    · simp [hknown, hroom, admitted]

end Admitted

end First

variable {κ ν : Type} [KeyOrder κ] [DecidableEq κ]

/-! ### Ordered entries -/

theorem find?_eq_some_iff {entries : List (κ × ν)} (h : Ordered entries) {key : κ} {value : ν} :
    find? key entries = some value ↔ (key, value) ∈ entries := by
  constructor
  · exact mem_of_find?
  · intro hmem
    induction entries with
    | nil => cases hmem
    | cons entry rest ih =>
      obtain ⟨hhead, hrest⟩ := List.pairwise_cons.1 h
      rcases List.mem_cons.1 hmem with rfl | hmem
      · simp [find?]
      · have hne : entry.1 ≠ key := by
          intro hsame
          have hbefore := hhead _ hmem
          rw [hsame, KeyOrder.before_irrefl] at hbefore
          cases hbefore
        simpa [find?, hne] using ih hrest hmem

theorem find?_eq_none_of_before {entry : κ × ν} {rest : List (κ × ν)}
    (h : Ordered (entry :: rest)) {key : κ} (hbefore : KeyOrder.before key entry.1 = true) :
    find? key rest = none := by
  obtain ⟨hhead, hrest⟩ := List.pairwise_cons.1 h
  cases hfind : find? key rest with
  | none => rfl
  | some value =>
    have hafter : KeyOrder.before entry.1 key = true := hhead _ (mem_of_find? hfind)
    rw [KeyOrder.before_asymm hbefore] at hafter
    cases hafter

omit [DecidableEq κ] in
theorem Ordered.eq_of_perm {first second : List (κ × ν)} (hfirst : Ordered first)
    (hsecond : Ordered second) (h : first.Perm second) : first = second := by
  refine h.eq_of_pairwise ?_ hfirst hsecond
  intro a b _ _ hab hba
  rw [KeyOrder.before_asymm hab] at hba
  cases hba

omit [DecidableEq κ] in
/-- In whatever order the entries of a table are taken out, sorting them by their keys gives the
table. -/
theorem Ordered.mergeSort_eq_of_perm {table drained : List (κ × ν)} (h : Ordered table)
    (hperm : drained.Perm table) :
    (drained.mergeSort fun a b => !KeyOrder.before b.1 a.1) = table := by
  have htrans (a b c : κ × ν) (hab : (!KeyOrder.before b.1 a.1) = true)
      (hbc : (!KeyOrder.before c.1 b.1) = true) : (!KeyOrder.before c.1 a.1) = true := by
    simp only [Bool.not_eq_true'] at hab hbc ⊢
    refine Bool.eq_false_iff.2 fun hca => ?_
    cases hkeys : KeyOrder.before a.1 b.1 with
    | true => exact Bool.eq_false_iff.1 hbc (KeyOrder.before_trans hca hkeys)
    | false => exact Bool.eq_false_iff.1 hbc (KeyOrder.before_total hkeys hab ▸ hca)
  have htotal (a b : κ × ν) : (!KeyOrder.before b.1 a.1 || !KeyOrder.before a.1 b.1) = true := by
    cases hkeys : KeyOrder.before b.1 a.1 with
    | true => simp [KeyOrder.before_asymm hkeys]
    | false => rfl
  have hsorted := (List.mergeSort_perm drained fun a b => !KeyOrder.before b.1 a.1).trans hperm
  refine hsorted.eq_of_pairwise ?_ (List.pairwise_mergeSort htrans htotal drained) ?_
  · intro a b ha hb hab hba
    -- Entries of a table that agree in their keys are one entry.
    have hkey : a.1 = b.1 := KeyOrder.before_total (by simpa using hba) (by simpa using hab)
    exact List.inj_on_of_nodup_map h.nodup_keys (hsorted.mem_iff.1 ha) hb hkey
  · exact h.imp fun hab => by simp [KeyOrder.before_asymm hab]

/-- Ordered entries are the same if the same value is found at each key. -/
theorem Ordered.ext {first second : List (κ × ν)} (hfirst : Ordered first)
    (hsecond : Ordered second) (h : ∀ key, find? key first = find? key second) :
    first = second := by
  have hperm : first.Perm second := by
    have hnodup {entries : List (κ × ν)} (hordered : Ordered entries) : entries.Nodup :=
      List.Nodup.of_map Prod.fst hordered.nodup_keys
    rw [List.perm_ext_iff_of_nodup (hnodup hfirst) (hnodup hsecond)]
    intro entry
    rw [← find?_eq_some_iff hfirst, ← find?_eq_some_iff hsecond, h]
  exact hfirst.eq_of_perm hsecond hperm

theorem ordered_ofList (pairs : List (κ × ν)) : Ordered (ofList pairs) := by
  unfold ofList
  induction pairs using List.reverseRecOn with
  | nil => exact ordered_nil
  | append_singleton pairs pair ih =>
    rw [List.foldl_concat]
    exact ordered_insert pair.1 pair.2 ih

theorem Ordered.ofList_eq {pairs : List (κ × ν)} (h : Ordered pairs) : ofList pairs = pairs :=
  (ordered_ofList pairs).eq_of_perm h (ofList_perm h.nodup_keys)

omit [KeyOrder κ] in
theorem find?_filter (keep : κ → Bool) (key : κ) (entries : List (κ × ν)) :
    find? key (entries.filter fun entry => keep entry.1)
      = if keep key then find? key entries else none := by
  induction entries with
  | nil => simp [find?]
  | cons entry rest ih =>
    by_cases hkeep : keep entry.1 = true
    · by_cases hsame : entry.1 = key
      · subst hsame
        simp [find?, hkeep]
      · simp [find?, hkeep, hsame, ih]
    · by_cases hsame : entry.1 = key
      · subst hsame
        simp [ih, hkeep]
      · simp [find?, hkeep, hsame, ih]

omit [DecidableEq κ] in
theorem Ordered.filter {entries : List (κ × ν)} (h : Ordered entries) (keep : κ × ν → Bool) :
    Ordered (entries.filter keep) :=
  List.Pairwise.filter keep h

omit [DecidableEq κ] in
theorem perm_keys_of_mem_iff {entries : List (κ × ν)} (h : Ordered entries) {expected : List κ}
    (hnodup : expected.Nodup) (hmem : ∀ k, k ∈ keys entries ↔ k ∈ expected) :
    (keys entries).Perm expected :=
  (List.perm_ext_iff_of_nodup h.nodup_keys hnodup).2 hmem

/-- A sum over the values gains the new value at a key and loses the old one. -/
theorem sum_insert {entries : List (κ × ν)} (h : Ordered entries) (measure : ν → Nat) (key : κ)
    (value : ν) :
    ((insert key value entries).map fun entry => measure entry.2).sum
      + (find? key entries).elim 0 measure
      = (entries.map fun entry => measure entry.2).sum + measure value := by
  induction entries with
  | nil => simp [insert, find?]
  | cons entry rest ih =>
    obtain ⟨k, v⟩ := entry
    by_cases hsame : k = key
    · simp [insert, find?, hsame]
      omega
    · by_cases hbefore : KeyOrder.before key k = true
      · have hnone := find?_eq_none_of_before h hbefore
        simp [insert, find?, hsame, hbefore, hnone]
        omega
      · have hrest := ih (List.pairwise_cons.1 h).2
        simp only [insert, find?, hsame, hbefore, if_false, List.map_cons, List.sum_cons]
        simp only [Bool.false_eq_true, if_false, List.map_cons, List.sum_cons]
        omega

/-! ### One update after the other -/

section Updates

variable {α : Type} (key : α → κ) (change : α → Option ν → ν)

def updateAll (calls : List α) (entries : List (κ × ν)) : List (κ × ν) :=
  calls.foldl (fun entries call => update (key call) (change call) entries) entries

theorem updateAll_concat (calls : List α) (call : α) (entries : List (κ × ν)) :
    updateAll key change (calls ++ [call]) entries
      = update (key call) (change call) (updateAll key change calls entries) := by
  simp [updateAll, List.foldl_append]

theorem ordered_updateAll (calls : List α) {entries : List (κ × ν)} (h : Ordered entries) :
    Ordered (updateAll key change calls entries) := by
  induction calls generalizing entries with
  | nil => exact h
  | cons call calls ih => exact ih (ordered_update _ _ h)

/-- At a key stands what its updates make of the value that was there before. -/
theorem find?_updateAll (k : κ) (calls : List α) (entries : List (κ × ν)) :
    find? k (updateAll key change calls entries)
      = (calls.filter fun call => key call = k).foldl (fun old call => some (change call old))
        (find? k entries) := by
  induction calls generalizing entries with
  | nil => rfl
  | cons call calls ih =>
    have hrest : find? k (updateAll key change (call :: calls) entries) = _ :=
      ih (update (key call) (change call) entries)
    rw [hrest, find?_update]
    by_cases hsame : k = key call
    · subst hsame
      simp
    · have hother : key call ≠ k := fun h => hsame h.symm
      simp [hsame, hother]

theorem mem_keys_updateAll {k : κ} {calls : List α} :
    k ∈ keys (updateAll key change calls []) ↔ k ∈ calls.map key := by
  induction calls using List.reverseRecOn with
  | nil => simp [updateAll, keys]
  | append_singleton calls call ih =>
    rw [← contains_iff_mem_keys] at ih ⊢
    rw [updateAll_concat, update, contains_insert, Bool.or_eq_true, decide_eq_true_eq, ih]
    simp [or_comm]

theorem length_updateAll (calls : List α) :
    (updateAll key change calls []).length = (distinct (calls.map key)).length := by
  have hkeys :=
    perm_keys_of_mem_iff (ordered_updateAll key change calls ordered_nil)
      (nodup_distinct (calls.map key))
    fun k => by rw [mem_keys_updateAll, mem_distinct]
  rw [← hkeys.length_eq, keys, List.length_map]

end Updates

/-! ### Tables of limited size -/

/-- Updates the value at a key, unless the key is new and the table is full. -/
def updateWithin (max : Nat) (key : κ) (f : Option ν → ν) (entries : List (κ × ν)) : List (κ × ν) :=
  if !contains key entries && max ≤ entries.length then entries else update key f entries

section Updates

variable {α : Type} (max : Nat) (key : α → κ) (change : α → Option ν → ν)

def updateAllWithin (calls : List α) : List (κ × ν) :=
  calls.foldl (fun entries call => updateWithin max (key call) (change call) entries) []

theorem keys_updateAll_admitted (calls : List α) :
    (keys (updateAll key change (admitted max key calls) [])).Perm (firsts max (calls.map key)) :=
  perm_keys_of_mem_iff (ordered_updateAll key change _ ordered_nil) (nodup_firsts _ _) fun k => by
    rw [mem_keys_updateAll, mem_map_admitted_iff]

/-- The updates of keys that a full table refuses might as well not have been made. -/
theorem updateAllWithin_eq (calls : List α) :
    updateAllWithin max key change calls = updateAll key change (admitted max key calls) [] := by
  induction calls using List.reverseRecOn with
  | nil => rfl
  | append_singleton calls call ih =>
    have hkeys := keys_updateAll_admitted max key change calls
    have hcontains : contains (key call) (updateAll key change (admitted max key calls) []) = true
        ↔ key call ∈ firsts max (calls.map key) := by
      rw [contains_iff_mem_keys]
      exact hkeys.mem_iff
    have hlength : (updateAll key change (admitted max key calls) []).length
        = (firsts max (calls.map key)).length := by
      rw [← hkeys.length_eq, keys, List.length_map]
    have hstep : updateAllWithin max key change (calls ++ [call])
        = updateWithin max (key call) (change call) (updateAllWithin max key change calls) := by
      simp [updateAllWithin, List.foldl_append]
    rw [hstep, ih, updateWithin, hlength, admitted_concat]
    by_cases hknown : key call ∈ firsts max (calls.map key)
    · rw [hcontains.2 hknown]
      simp [hknown, updateAll_concat]
    · rw [Bool.eq_false_iff.2 (mt hcontains.1 hknown)]
      by_cases hroom : (firsts max (calls.map key)).length < max
      · have hfull : ¬ max ≤ (firsts max (calls.map key)).length := by omega
        simp [hroom, hfull, updateAll_concat]
      · have hfull : max ≤ (firsts max (calls.map key)).length := by omega
        simp [hknown, hroom, hfull]

theorem ordered_updateAllWithin (calls : List α) :
    Ordered (updateAllWithin max key change calls) := by
  rw [updateAllWithin_eq]
  exact ordered_updateAll _ _ _ ordered_nil

theorem length_updateAllWithin (calls : List α) :
    (updateAllWithin max key change calls).length = (firsts max (calls.map key)).length := by
  rw [updateAllWithin_eq, ← (keys_updateAll_admitted max key change calls).length_eq,
    keys, List.length_map]

theorem find?_updateAllWithin (k : κ) (calls : List α) :
    find? k (updateAllWithin max key change calls)
      = if k ∈ firsts max (calls.map key) then
          (calls.filter fun call => key call = k).foldl
            (fun old call => some (change call old)) none
        else none := by
  rw [updateAllWithin_eq, find?_updateAll, admitted, List.filter_filter]
  by_cases hmem : k ∈ firsts max (calls.map key)
  · have hfilter :
      (calls.filter fun call => decide (key call = k) &&
        decide (key call ∈ firsts max (calls.map key)))
        = calls.filter fun call => key call = k := by
      refine List.filter_congr ?_
      intro call _
      by_cases hsame : key call = k <;> simp [hsame, hmem]
    rw [if_pos hmem, hfilter]
    rfl
  · have hfilter :
      (calls.filter fun call => decide (key call = k) &&
        decide (key call ∈ firsts max (calls.map key)))
        = [] := by
      rw [List.filter_eq_nil_iff]
      intro call _
      by_cases hsame : key call = k <;> simp [hsame, hmem]
    rw [if_neg hmem, hfilter]
    rfl

end Updates

end RequestGuard.Keyed
