import RequestGuard.Input.Strings
import RequestGuard.Proofs.Keyed.Updates

/-!
# The entries that a walk keeps

A walk keeps strings while it goes, and refuses new ones once it has enough. The result is that of a
walk without such a limit, of which only the first distinct strings are kept in the end, each with
the place where it was met first (`strings_keep_first_entries`): the table of strings is one of
limited size (`Keyed.updateAllWithin`), and a known string is never changed. Therefore a higher
limit only adds strings.
-/

namespace RequestGuard.Input

open Json (Value)

/-- To keep a string is to update a table of limited size in which a known place stays. -/
theorem add_eq_updateWithin (maxEntries : Nat) {found : Strings} (h : Keyed.Ordered found)
    (occurrence : String × Path) :
    add maxEntries found occurrence
      = Keyed.updateWithin maxEntries occurrence.1
        (fun known => known.getD occurrence.2) found := by
  unfold add Keyed.updateWithin
  cases hfind : Keyed.find? occurrence.1 found with
  | some place =>
    have hknown : Keyed.contains occurrence.1 found = true := by simp [Keyed.contains, hfind]
    -- The place that is known is set once more.
    have hsame :
        Keyed.update occurrence.1 (fun known => known.getD occurrence.2) found = found := by
      apply (Keyed.ordered_update _ _ h).ext h
      intro key
      rw [Keyed.find?_update, hfind]
      split
      · rename_i hkey
        rw [hkey, hfind]
        rfl
      · rfl
    simp [hknown, hsame]
  | none =>
    have hnew : Keyed.contains occurrence.1 found = false := by simp [Keyed.contains, hfind]
    simp [hnew, Keyed.update, hfind]

theorem foldl_add_eq_updateAllWithin (maxEntries : Nat) (occurrences : List (String × Path)) :
    occurrences.foldl (add maxEntries) []
      = Keyed.updateAllWithin maxEntries Prod.fst (fun occurrence known => known.getD occurrence.2)
        occurrences := by
  induction occurrences using List.reverseRecOn with
  | nil => rfl
  | append_singleton occurrences occurrence ih =>
    rw [List.foldl_append, ih]
    show add maxEntries (Keyed.updateAllWithin maxEntries _ _ occurrences) occurrence = _
    rw [add_eq_updateWithin maxEntries (Keyed.ordered_updateAllWithin _ _ _ occurrences)]
    simp [Keyed.updateAllWithin, List.foldl_append]

theorem foldl_getD_eq_lookup (s : String) (occurrences : List (String × Path)) :
    (occurrences.filter fun occurrence => occurrence.1 = s).foldl
        (fun known occurrence => some (known.getD occurrence.2)) none
      = occurrences.lookup s := by
  have hkept (place : Path) (later : List (String × Path)) :
      later.foldl (fun known occurrence => some (known.getD occurrence.2)) (some place)
        = some place := by
    induction later with
    | nil => rfl
    | cons occurrence later ih => exact ih
  induction occurrences with
  | nil => rfl
  | cons occurrence rest ih =>
    obtain ⟨text, place⟩ := occurrence
    by_cases hsame : text = s
    · subst hsame
      rw [List.filter_cons_of_pos (by simp), List.lookup_cons_self]
      exact hkept place _
    · rw [List.filter_cons_of_neg (by simpa using hsame), List.lookup_cons,
        beq_false_of_ne (Ne.symm hsame)]
      exact ih

theorem strings_eq_updateAllWithin (limits : Limits) (value : Value) :
    strings limits value
      = Keyed.updateAllWithin limits.maxEntries Prod.fst
        (fun occurrence known => known.getD occurrence.2)
          (occurrences (limits.maxDepth + 1) [] value) := by
  rw [strings, collect_eq_foldl, foldl_add_eq_updateAllWithin]

theorem ordered_strings (limits : Limits) (value : Value) :
    Keyed.Ordered (strings limits value) := by
  rw [strings_eq_updateAllWithin]
  exact Keyed.ordered_updateAllWithin _ _ _ _

theorem mem_strings_iff {limits : Limits} {value : Value} {s : String} {place : Path} :
    (s, place) ∈ strings limits value ↔
      s ∈ Keyed.firsts limits.maxEntries ((occurrences (limits.maxDepth + 1) [] value).map Prod.fst)
        ∧ (occurrences (limits.maxDepth + 1) [] value).lookup s = some place := by
  rw [← Keyed.find?_eq_some_iff (ordered_strings limits value), strings_eq_updateAllWithin,
    Keyed.find?_updateAllWithin, foldl_getD_eq_lookup]
  simp

theorem length_strings (limits : Limits) (value : Value) :
    (strings limits value).length
      = (Keyed.firsts limits.maxEntries
        ((occurrences (limits.maxDepth + 1) [] value).map Prod.fst)).length := by
  rw [strings_eq_updateAllWithin, Keyed.length_updateAllWithin]

/-- What is kept are the first distinct strings that a walk without a limit on their number meets,
as many as may be kept, each with the place where it was met first, and in the order of the strings.
So there are never too many, and a higher limit neither loses a string nor changes its place. -/
theorem strings_keep_first_entries (limits : Limits) (value : Value) :
    let walk := occurrences (limits.maxDepth + 1) [] value
    (∀ s place, (s, place) ∈ strings limits value ↔
        s ∈ Keyed.firsts limits.maxEntries (walk.map Prod.fst) ∧ walk.lookup s = some place)
      ∧ Keyed.Ordered (strings limits value)
      ∧ (strings limits value).length ≤ limits.maxEntries
      ∧ ∀ more, limits.maxEntries ≤ more → ∀ entry ∈ strings limits value,
          entry ∈ strings { limits with maxEntries := more } value := by
  intro walk
  refine ⟨fun s place => mem_strings_iff, ordered_strings limits value, ?_, ?_⟩
  · rw [length_strings, Keyed.length_firsts]
    exact Nat.min_le_left ..
  · intro more hmore entry hentry
    obtain ⟨hfirst, hplace⟩ := mem_strings_iff.1 hentry
    exact mem_strings_iff.2 ⟨Keyed.firsts_subset hmore _ hfirst, hplace⟩

/-- The third item is met too late with a limit of two strings, and the first place of a repeated
one counts. -/
theorem strings_keep_first_entries_repeated :
    let value : Value := .array [.string "b", .object [("b", .string "c")], .string "a"]
    2 ≤ 4 ∧ strings { maxEntries := 2 } value = [("b", [.item 0]), ("c", [.item 1, .member "b"])]
      ∧ ("b", [Step.item 0]) ∈ strings { maxEntries := 4 } value := by
  intro value
  have hfew : strings { maxEntries := 2 } value
      = [("b", [.item 0]), ("c", [.item 1, .member "b"])] := by decide +kernel
  obtain ⟨-, -, -, hmore⟩ := strings_keep_first_entries { maxEntries := 2 } value
  refine ⟨by decide, hfew, hmore 4 (by decide) _ ?_⟩
  rw [hfew]
  exact List.mem_cons_self

end RequestGuard.Input
