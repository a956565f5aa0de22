import Mathlib.Data.List.Dedup
import Mathlib.Data.List.Perm.Subperm
import RequestGuard.Input.Strings

/-!
# Where strings stand in a value

`StandsIn` says that a string stands in a value at a level of nesting, without regard to any walk: a
name stands at the level of its object, a member, an item and the claims of a token one level below.
A walk that goes down far enough meets every such string (`StandsIn.exists_mem_occurrences`), and
what it has met is kept as long as there are no more distinct strings than may be kept
(`exists_mem_collect`).
-/

namespace RequestGuard.Input

open Json (Value)

/-- A string stands in a value at a level of nesting. The issuer in the claims of a token does not
count. -/
inductive StandsIn (s : String) : Value → Nat → Prop where
  | self : StandsIn s (.string s) 0
  | name {members : List (String × Value)} {value : Value} : (s, value) ∈ members →
      StandsIn s (.object members) 0
  | member {members : List (String × Value)} {name : String} {value : Value} {level : Nat} :
      (name, value) ∈ members → StandsIn s value level → StandsIn s (.object members) (level + 1)
  | item {items : List Value} {value : Value} {level : Nat} :
      value ∈ items → StandsIn s value level → StandsIn s (.array items) (level + 1)
  | claims {token : String} {claims : List (String × Value)} {level : Nat} :
      Jwt.claims? token = some claims →
        StandsIn s (.object (claims.filter fun member => member.1 != "iss")) level →
      StandsIn s (.string token) (level + 1)

theorem mem_numbered_iff {items : List Value} {path place : Path} {value : Value} :
    (place, value) ∈ numbered path items
      ↔ ∃ index, items[index]? = some value ∧ place = path ++ [.item index] := by
  simp only [numbered, List.mem_map, Prod.exists, List.mk_mem_zipIdx_iff_getElem?, Prod.mk.injEq]
  constructor
  · rintro ⟨item, index, hitem, rfl, rfl⟩
    exact ⟨index, hitem, rfl⟩
  · rintro ⟨index, hitem, rfl⟩
    exact ⟨value, index, hitem, rfl, rfl⟩

theorem StandsIn.exists_mem_occurrences {s : String} {value : Value} {level levels : Nat}
    (h : StandsIn s value level) (hlevel : level < levels) (path : Path) :
    ∃ place, (s, place) ∈ occurrences levels path value := by
  induction h generalizing levels path with
  | self =>
    obtain ⟨below, rfl⟩ := Nat.exists_eq_add_of_lt hlevel
    exact ⟨path, List.mem_cons_self⟩
  | name hmem =>
    obtain ⟨below, rfl⟩ := Nat.exists_eq_add_of_lt hlevel
    exact ⟨path, List.mem_flatMap.2 ⟨_, hmem, List.mem_cons_self⟩⟩
  | @member members name value level hmem hvalue ih =>
    obtain ⟨below, rfl⟩ := Nat.exists_eq_add_of_lt hlevel
    have hbelow : level < level + 1 + below := by omega
    obtain ⟨place, hplace⟩ := ih hbelow (path ++ [.member name])
    exact ⟨place, List.mem_flatMap.2 ⟨_, hmem, List.mem_cons_of_mem _ hplace⟩⟩
  | @item items value level hmem hvalue ih =>
    obtain ⟨below, rfl⟩ := Nat.exists_eq_add_of_lt hlevel
    obtain ⟨index, hitem⟩ := List.mem_iff_getElem?.1 hmem
    have hnumbered : (path ++ [.item index], _) ∈ numbered path items :=
      mem_numbered_iff.2 ⟨index, hitem, rfl⟩
    have hbelow : level < level + 1 + below := by omega
    obtain ⟨place, hplace⟩ := ih hbelow (path ++ [.item index])
    exact ⟨place, List.mem_append_left _ (List.mem_flatMap.2 ⟨_, hnumbered, hplace⟩)⟩
  | @claims token claims level hclaims hvalue ih =>
    obtain ⟨below, rfl⟩ := Nat.exists_eq_add_of_lt hlevel
    have hbelow : level < level + 1 + below := by omega
    obtain ⟨place, hplace⟩ := ih hbelow (path ++ [.claims])
    refine ⟨place, List.mem_cons_of_mem _ ?_⟩
    simp only [claimsWithoutIssuer?, hclaims, Option.map_some]
    exact hplace

/-- As long as all strings are among as many as may be kept, none of them is lost. -/
theorem contains_foldl_add {maxEntries : Nat} {whole : List String}
    (hwhole : whole.length ≤ maxEntries) {s : String} {found : Strings}
    (hordered : Keyed.Ordered found) (hfound : ∀ key ∈ Keyed.keys found, key ∈ whole)
    (occurrences : List (String × Path))
    (hoccurrences : ∀ occurrence ∈ occurrences, occurrence.1 ∈ whole)
    (hs : Keyed.contains s found = true ∨ s ∈ occurrences.map Prod.fst) :
    Keyed.contains s (occurrences.foldl (add maxEntries) found) = true := by
  induction occurrences generalizing found with
  | nil => simpa using hs
  | cons occurrence rest ih =>
    obtain ⟨text, path⟩ := occurrence
    obtain ⟨htext, hrest⟩ := List.forall_mem_cons.1 hoccurrences
    rw [List.foldl_cons, add]
    split
    · rename_i hknown
      refine ih hordered hfound hrest ?_
      rw [List.map_cons, List.mem_cons] at hs
      obtain hs | rfl | hs := hs
      · exact .inl hs
      · exact .inl hknown
      · exact .inr hs
    · rename_i hnew
      -- What is kept and the new string are distinct members of `whole`, so there is room for one
      -- more.
      have hroom : ¬ found.length ≥ maxEntries := by
        rw [Keyed.contains_iff_mem_keys] at hnew
        have hsubset : text :: Keyed.keys found ⊆ whole := List.forall_mem_cons.2 ⟨htext, hfound⟩
        have hlength := (List.subperm_of_subset (hordered.nodup_keys.cons hnew) hsubset).length_le
        simp only [Keyed.keys, List.length_cons, List.length_map] at hlength
        omega
      rw [if_neg hroom]
      refine ih (Keyed.ordered_insert _ _ hordered) ?_ hrest ?_
      · intro key hkey
        rw [← Keyed.contains_iff_mem_keys, Keyed.contains_insert, Bool.or_eq_true,
          decide_eq_true_eq] at hkey
        obtain rfl | hkey := hkey
        · exact htext
        · exact hfound key (Keyed.contains_iff_mem_keys.1 hkey)
      · rw [Keyed.contains_insert, Bool.or_eq_true, decide_eq_true_eq]
        rw [List.map_cons, List.mem_cons] at hs
        obtain hs | rfl | hs := hs
        · exact .inl (.inr hs)
        · exact .inl (.inl rfl)
        · exact .inr hs

theorem exists_mem_collect {maxEntries levels : Nat} {value : Value}
    (hdistinct : ((occurrences levels [] value).map Prod.fst).dedup.length ≤ maxEntries)
    {s : String} {path : Path} (hmem : (s, path) ∈ occurrences levels [] value) :
    ∃ path, (s, path) ∈ collect maxEntries levels [] value [] := by
  have htexts : ∀ occurrence ∈ occurrences levels [] value,
      occurrence.1 ∈ ((occurrences levels [] value).map Prod.fst).dedup :=
    fun occurrence hoccurrence => List.mem_dedup.2 (List.mem_map_of_mem hoccurrence)
  have hcontains : Keyed.contains s (collect maxEntries levels [] value []) = true := by
    rw [collect_eq_foldl]
    exact contains_foldl_add hdistinct Keyed.ordered_nil (by simp [Keyed.keys]) _ htexts
      (.inr (List.mem_map_of_mem hmem))
  obtain ⟨place, hfind⟩ := Option.isSome_iff_exists.1 hcontains
  exact ⟨place, Keyed.mem_of_find? hfind⟩

end RequestGuard.Input
