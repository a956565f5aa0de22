/-!
# Blank characters

The characters of Unicode's `White_Space` property, and trimming a text of them. A line feed and a
no-break space are blank; a zero-width space is not.
-/

namespace RequestGuard.Text

/-- The characters with the property `White_Space`. -/
def isBlank (c : Char) : Bool :=
  let n := c.toNat
  (9 ≤ n && n ≤ 13) || n == 0x20 || n == 0x85 || n == 0xA0 || n == 0x1680 ||
    (0x2000 ≤ n && n ≤ 0x200A) || n == 0x2028 || n == 0x2029 || n == 0x202F || n == 0x205F ||
    n == 0x3000

/-- Drops the elements at the end that satisfy the test. -/
def dropTrailing {α : Type} (test : α → Bool) : List α → List α
  | [] => []
  | x :: rest =>
    match dropTrailing test rest with
    | [] => if test x then [] else [x]
    | kept => x :: kept

def trimChars (s : List Char) : List Char := dropTrailing isBlank (s.dropWhile isBlank)

/-- Removes the blank characters at both ends. -/
def trim (s : String) : String := String.ofList (trimChars s.toList)

theorem dropTrailing_eq_nil {α : Type} {test : α → Bool} {s : List α}
    (h : ∀ x ∈ s, test x = true) : dropTrailing test s = [] := by
  induction s with
  | nil => rfl
  | cons x rest ih =>
    simp only [List.forall_mem_cons] at h
    simp [dropTrailing, ih h.2, h.1]

/-- What is kept is a beginning of the list, and only elements that satisfy the test follow it. -/
theorem exists_append_dropTrailing {α : Type} (test : α → Bool) (s : List α) :
    ∃ tail, s = dropTrailing test s ++ tail ∧ ∀ x ∈ tail, test x = true := by
  induction s with
  | nil => exact ⟨[], rfl, by simp⟩
  | cons x rest ih =>
    obtain ⟨tail, hsplit, htail⟩ := ih
    simp only [dropTrailing]
    split
    · rename_i hkept
      rw [hkept, List.nil_append] at hsplit
      split
      · rename_i hx
        exact ⟨x :: rest, rfl, by simpa [hx, hsplit] using htail⟩
      · exact ⟨tail, by simp [hsplit], htail⟩
    · exact ⟨tail, by rw [List.cons_append, ← hsplit], htail⟩

theorem dropTrailing_cons_of_not {α : Type} {test : α → Bool} {x : α} (h : test x = false)
    (rest : List α) :
    dropTrailing test (x :: rest) = x :: dropTrailing test rest := by
  simp only [dropTrailing]
  split
  · rename_i hnil
    simp [h, hnil]
  · rfl

theorem dropTrailing_eq_self {α : Type} {test : α → Bool} {s : List α}
    (h : ∀ x ∈ s, test x = false) :
    dropTrailing test s = s := by
  induction s with
  | nil => rfl
  | cons x rest ih =>
    rw [List.forall_mem_cons] at h
    rw [dropTrailing_cons_of_not h.1, ih h.2]

theorem dropTrailing_append {α : Type} {test : α → Bool} {tail : List α} (s : List α)
    (h : ∀ x ∈ tail, test x = true) : dropTrailing test (s ++ tail) = dropTrailing test s := by
  induction s with
  | nil => exact dropTrailing_eq_nil h
  | cons x rest ih => rw [List.cons_append, dropTrailing, dropTrailing, ih]

theorem dropTrailing_dropTrailing {α : Type} (test : α → Bool) (s : List α) :
    dropTrailing test (dropTrailing test s) = dropTrailing test s := by
  induction s with
  | nil => rfl
  | cons x rest ih =>
    simp only [dropTrailing]
    split
    · split
      · rfl
      · rename_i hx
        simp [dropTrailing, hx]
    · rename_i hkept
      simp [dropTrailing, ih]

theorem dropWhile_trimChars (s : List Char) : (trimChars s).dropWhile isBlank = trimChars s := by
  unfold trimChars
  induction s with
  | nil => rfl
  | cons c rest ih =>
    by_cases hc : isBlank c = true
    · simpa [hc] using ih
    · have hfalse : isBlank c = false := by simpa using hc
      simp [hfalse, dropTrailing_cons_of_not]

theorem trimChars_trimChars (s : List Char) : trimChars (trimChars s) = trimChars s := by
  rw [trimChars, dropWhile_trimChars, trimChars, dropTrailing_dropTrailing]

theorem trimChars_eq_self {s : List Char} (h : ∀ c ∈ s, isBlank c = false) : trimChars s = s := by
  have hstart : s.dropWhile isBlank = s := by
    cases s with
    | nil => rfl
    | cons c rest => exact List.dropWhile_cons_of_neg (by simp [h c])
  rw [trimChars, hstart, dropTrailing_eq_self h]

end RequestGuard.Text
