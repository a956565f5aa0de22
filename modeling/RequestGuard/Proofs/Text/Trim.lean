import Mathlib.Data.List.TakeWhile
import RequestGuard.Text.Blank

/-!
# What is left of a trimmed text

A text is padded if blanks are put around it. What trimming leaves is the text without blanks at its
ends of which the whole is a padded form (`trimChars_eq_iff`), so trimming undoes padding.
-/

namespace RequestGuard.Text

/-- No blank stands at either end. -/
def IsTrimmed (s : List Char) :
    Prop := (∀ c ∈ s.head?, isBlank c = false) ∧ ∀ c ∈ s.getLast?, isBlank c = false

instance (s : List Char) : Decidable (IsTrimmed s) :=
  decidable_of_iff (s.head?.any isBlank = false ∧ s.getLast?.any isBlank = false) (by
    rw [Option.any_eq_false, Option.any_eq_false]
    rfl)

/-- A text is another one with blanks around it. -/
def IsPadded (core text : List Char) : Prop :=
  ∃ before after, text = before ++ core ++ after
    ∧ (∀ c ∈ before, isBlank c = true) ∧ ∀ c ∈ after, isBlank c = true

theorem isPadded_nil_iff {text : List Char} : IsPadded [] text ↔ ∀ c ∈ text, isBlank c = true := by
  constructor
  · rintro ⟨before, after, rfl, hbefore, hafter⟩ c hc
    rw [List.append_nil, List.mem_append] at hc
    exact hc.elim (hbefore c) (hafter c)
  · intro h
    exact ⟨text, [], by simp, h, by simp⟩

theorem test_getLast?_dropTrailing {α : Type} {test : α → Bool} (s : List α) :
    ∀ c ∈ (dropTrailing test s).getLast?, test c = false := by
  induction s with
  | nil => simp [dropTrailing]
  | cons x rest ih =>
    simp only [dropTrailing]
    split
    · split
      · simp
      · rename_i hx
        simpa using hx
    · rename_i hkept
      rwa [List.getLast?_cons_of_ne_nil hkept]

theorem dropTrailing_of_getLast? {α : Type} {test : α → Bool} {s : List α}
    (h : ∀ c ∈ s.getLast?, test c = false) :
    dropTrailing test s = s := by
  obtain ⟨tail, hsplit, htail⟩ := exists_append_dropTrailing test s
  rcases List.eq_nil_or_concat tail with rfl | ⟨front, last, rfl⟩
  · rw [List.append_nil] at hsplit
    exact hsplit.symm
  · have hlast : last ∈ s.getLast? := by
      rw [hsplit]
      simp
    have hdropped := htail last (by simp)
    rw [h last hlast] at hdropped
    cases hdropped

theorem trimChars_of_isPadded {core text : List Char} (hcore : IsTrimmed core)
    (h : IsPadded core text) :
    trimChars text = core := by
  obtain ⟨before, after, rfl, hbefore, hafter⟩ := h
  rw [trimChars, List.append_assoc, List.dropWhile_append_of_pos hbefore]
  cases core with
  | nil => simp [List.dropWhile_eq_nil_iff.2 hafter, dropTrailing]
  | cons c core =>
    have hfirst : isBlank c = false := hcore.1 c rfl
    rw [List.cons_append, List.dropWhile_cons_of_neg (by simp [hfirst]), ← List.cons_append,
      dropTrailing_append _ hafter, dropTrailing_of_getLast? hcore.2]

theorem isTrimmed_trimChars (s : List Char) : IsTrimmed (trimChars s) := by
  constructor
  · intro c hc
    have hfirst := List.head?_dropWhile_not isBlank (trimChars s)
    rwa [dropWhile_trimChars, Option.mem_def.1 hc] at hfirst
  · exact test_getLast?_dropTrailing (s.dropWhile isBlank)

theorem isPadded_trimChars (s : List Char) : IsPadded (trimChars s) s := by
  obtain ⟨after, hsplit, hafter⟩ := exists_append_dropTrailing isBlank (s.dropWhile isBlank)
  refine ⟨s.takeWhile isBlank, after, ?_, fun c => List.mem_takeWhile_imp, hafter⟩
  rw [trimChars, List.append_assoc, ← hsplit, List.takeWhile_append_dropWhile]

theorem trimChars_eq_iff {core text : List Char} :
    trimChars text = core ↔ IsTrimmed core ∧ IsPadded core text := by
  constructor
  · rintro rfl
    exact ⟨isTrimmed_trimChars text, isPadded_trimChars text⟩
  · rintro ⟨hcore, h⟩
    exact trimChars_of_isPadded hcore h

end RequestGuard.Text
