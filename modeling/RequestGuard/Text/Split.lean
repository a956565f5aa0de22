/-!
# Cutting a text at a character

`splitOn` cuts at every occurrence and `splitOnce?` at the first one. A cut loses nothing: joining
the pieces with the same character gives the text back (`joinWith_splitOn`).
-/

namespace RequestGuard.Text

/-- The pieces between the occurrences of a character: always at least one. -/
def splitOn (sep : Char) : List Char → List (List Char)
  | [] => [[]]
  | c :: rest =>
    if c = sep then [] :: splitOn sep rest
    else
      match splitOn sep rest with
      | [] => [[c]]
      | piece :: pieces => (c :: piece) :: pieces

/-- What stands before and after the first occurrence of a character. -/
def splitOnce? (sep : Char) : List Char → Option (List Char × List Char)
  | [] => none
  | c :: rest =>
    if c = sep then some ([], rest)
    else (splitOnce? sep rest).map fun (before, after) => (c :: before, after)

def joinWith (sep : Char) : List (List Char) → List Char
  | [] => []
  | [piece] => piece
  | piece :: pieces => piece ++ sep :: joinWith sep pieces

def takeUntil (test : Char → Bool) (s : List Char) : List Char := s.takeWhile fun c => !test c

theorem splitOn_ne_nil (sep : Char) (s : List Char) : splitOn sep s ≠ [] := by
  cases s with
  | nil => simp [splitOn]
  | cons c rest =>
    simp only [splitOn]
    split
    · simp
    · split <;> simp

theorem joinWith_splitOn (sep : Char) (s : List Char) : joinWith sep (splitOn sep s) = s := by
  induction s with
  | nil => rfl
  | cons c rest ih =>
    by_cases hc : c = sep
    · subst hc
      have hne := splitOn_ne_nil c rest
      simp only [splitOn, if_pos]
      cases hpieces : splitOn c rest with
      | nil => exact absurd hpieces hne
      | cons piece pieces =>
        rw [hpieces] at ih
        simp [joinWith, ih]
    · simp only [splitOn, hc, if_false]
      cases hpieces : splitOn sep rest with
      | nil => exact absurd hpieces (splitOn_ne_nil sep rest)
      | cons piece pieces =>
        rw [hpieces] at ih
        cases pieces with
        | nil => simpa [joinWith] using ih
        | cons next more => simpa [joinWith] using ih

theorem not_mem_of_mem_splitOn {sep : Char} {s piece : List Char} (h : piece ∈ splitOn sep s) :
    sep ∉ piece := by
  induction s generalizing piece with
  | nil =>
    simp only [splitOn, List.mem_singleton] at h
    simp [h]
  | cons c rest ih =>
    simp only [splitOn] at h
    split at h
    · rcases List.mem_cons.1 h with rfl | h
      · simp
      · exact ih h
    · rename_i hc
      split at h
      · rename_i hnil
        exact absurd hnil (splitOn_ne_nil sep rest)
      · rename_i first more hpieces
        rcases List.mem_cons.1 h with rfl | h
        · have := @ih first (by simp [hpieces])
          simp [this, Ne.symm hc]
        · exact ih (by simp [hpieces, h])

theorem splitOn_eq_singleton {sep : Char} {s : List Char} (h : sep ∉ s) : splitOn sep s = [s] := by
  induction s with
  | nil => rfl
  | cons c rest ih =>
    simp only [List.mem_cons, not_or] at h
    simp [splitOn, Ne.symm h.1, ih h.2]

theorem splitOn_append {sep : Char} {piece : List Char} (rest : List Char) (h : sep ∉ piece) :
    splitOn sep (piece ++ sep :: rest) = piece :: splitOn sep rest := by
  induction piece with
  | nil => simp [splitOn]
  | cons c piece ih =>
    simp only [List.mem_cons, not_or] at h
    simp [splitOn, Ne.symm h.1, ih h.2]

theorem joinWith_cons {sep : Char} {pieces : List (List Char)} (piece : List Char)
    (h : pieces ≠ []) :
    joinWith sep (piece :: pieces) = piece ++ sep :: joinWith sep pieces := by
  cases pieces with
  | nil => exact absurd rfl h
  | cons next more => rfl

theorem joinWith_ne_nil {sep : Char} {pieces : List (List Char)} (h : 2 ≤ pieces.length) :
    joinWith sep pieces ≠ [] := by
  match pieces, h with
  | _ :: _ :: _, _ => simp [joinWith]

theorem splitOn_joinWith {sep : Char} {pieces : List (List Char)} (hne : pieces ≠ [])
    (h : ∀ piece ∈ pieces, sep ∉ piece) : splitOn sep (joinWith sep pieces) = pieces := by
  induction pieces with
  | nil => exact absurd rfl hne
  | cons piece rest ih =>
    rw [List.forall_mem_cons] at h
    by_cases hlast : rest = []
    · rw [hlast, joinWith, splitOn_eq_singleton h.1]
    · rw [joinWith_cons piece hlast, splitOn_append _ h.1, ih hlast h.2]

/-- A separator cuts a text in two, whatever stands on its sides. -/
theorem splitOn_append_sep {sep : Char} (s rest : List Char) :
    splitOn sep (s ++ sep :: rest) = splitOn sep s ++ splitOn sep rest := by
  induction s with
  | nil => simp [splitOn]
  | cons c s ih =>
    by_cases hc : c = sep
    · simp [splitOn, hc, ih]
    · simp only [List.cons_append, splitOn, hc, if_false, ih]
      cases hpieces : splitOn sep s with
      | nil => exact absurd hpieces (splitOn_ne_nil sep s)
      | cons piece pieces => rfl

theorem joinWith_append {sep : Char} {pieces more : List (List Char)} (hpieces : pieces ≠ [])
    (hmore : more ≠ []) :
    joinWith sep (pieces ++ more) = joinWith sep pieces ++ sep :: joinWith sep more := by
  induction pieces with
  | nil => exact absurd rfl hpieces
  | cons piece rest ih =>
    by_cases hlast : rest = []
    · subst hlast
      exact joinWith_cons piece hmore
    · rw [List.cons_append, joinWith_cons piece (by simp [hlast]), joinWith_cons piece hlast,
        ih hlast, List.append_assoc, List.cons_append]

theorem mem_joinWith {sep x : Char} {pieces : List (List Char)} (h : x ∈ joinWith sep pieces) :
    x = sep ∨ ∃ piece ∈ pieces, x ∈ piece := by
  induction pieces with
  | nil => cases h
  | cons piece rest ih =>
    by_cases hlast : rest = []
    · rw [hlast, joinWith] at h
      exact .inr ⟨piece, List.mem_cons_self, h⟩
    · rw [joinWith_cons piece hlast, List.mem_append, List.mem_cons] at h
      obtain h | rfl | h := h
      · exact .inr ⟨piece, List.mem_cons_self, h⟩
      · exact .inl rfl
      · exact (ih h).imp id fun ⟨other, hmem, hx⟩ => ⟨other, List.mem_cons_of_mem _ hmem, hx⟩

theorem mem_joinWith_of_mem {sep x : Char} {pieces : List (List Char)} {piece : List Char}
    (hpiece : piece ∈ pieces) (h : x ∈ piece) : x ∈ joinWith sep pieces := by
  induction pieces with
  | nil => cases hpiece
  | cons first rest ih =>
    obtain rfl | hpiece := List.mem_cons.1 hpiece
    · cases rest with
      | nil => exact h
      | cons next more => exact List.mem_append_left _ h
    · rw [joinWith_cons first (List.ne_nil_of_mem hpiece)]
      exact List.mem_append_right _ (List.mem_cons_of_mem _ (ih hpiece))

theorem splitOnce?_eq_none {sep : Char} {s : List Char} (h : sep ∉ s) :
    splitOnce? sep s = none := by
  induction s with
  | nil => rfl
  | cons c rest ih =>
    simp only [List.mem_cons, not_or] at h
    simp [splitOnce?, Ne.symm h.1, ih h.2]

theorem splitOnce?_append {sep : Char} {before : List Char} (after : List Char)
    (h : sep ∉ before) : splitOnce? sep (before ++ sep :: after) = some (before, after) := by
  induction before with
  | nil => simp [splitOnce?]
  | cons c rest ih =>
    simp only [List.mem_cons, not_or] at h
    simp [splitOnce?, Ne.symm h.1, ih h.2]

theorem splitOnce?_eq_some {sep : Char} {s before after : List Char}
    (h : splitOnce? sep s = some (before, after)) : s = before ++ sep :: after ∧ sep ∉ before := by
  induction s generalizing before with
  | nil => cases h
  | cons c rest ih =>
    simp only [splitOnce?] at h
    split at h
    · rename_i hc
      obtain ⟨rfl, rfl⟩ := Prod.mk.inj (Option.some.inj h)
      simp [hc]
    · rename_i hc
      obtain ⟨⟨before', after'⟩, hrest, heq⟩ := Option.map_eq_some_iff.1 h
      obtain ⟨rfl, rfl⟩ := Prod.mk.inj heq
      obtain ⟨hsplit, hnot⟩ := ih hrest
      exact ⟨by rw [hsplit]; rfl, by simp [hnot, Ne.symm hc]⟩

theorem takeUntil_append_cons {test : Char → Bool} {c : Char} (h : test c = true)
    (s rest : List Char) :
    takeUntil test (s ++ c :: rest) = takeUntil test s := by
  induction s with
  | nil => simp [takeUntil, h]
  | cons d s ih =>
    unfold takeUntil at ih ⊢
    rw [List.cons_append, List.takeWhile_cons, List.takeWhile_cons, ih]

theorem takeUntil_eq_self {test : Char → Bool} {s : List Char} (h : ∀ c ∈ s, test c = false) :
    takeUntil test s = s := by
  induction s with
  | nil => rfl
  | cons c s ih =>
    rw [List.forall_mem_cons] at h
    unfold takeUntil at ih ⊢
    rw [List.takeWhile_cons_of_pos (by simp [h.1]), ih h.2]

theorem splitOnce?_append_of_not_mem {sep : Char} {s : List Char} (h : sep ∉ s) (rest : List Char) :
    splitOnce? sep (s ++ rest) = (splitOnce? sep rest).map
      fun (before, after) => (s ++ before, after) := by
  induction s with
  | nil => simp
  | cons c s ih =>
    rw [List.mem_cons, not_or] at h
    rw [List.cons_append, splitOnce?, if_neg (Ne.symm h.1), ih h.2, Option.map_map]
    rfl

end RequestGuard.Text
