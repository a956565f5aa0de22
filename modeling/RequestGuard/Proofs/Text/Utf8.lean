import RequestGuard.Text.Digits
import RequestGuard.Text.Utf8

/-!
# Texts have one form as bytes

A character is written as a form of one to four bytes (`IsForm`). The writer writes the form of a
character (`isForm_encodeChar`), which is the only one it has (`IsForm.encodeChar_eq`). The scanner
reads the character of a form off the form, whatever follows (`IsForm.scan_append`), and off nothing
else (`exists_isForm_of_scan`). So bytes are read as a text exactly if they are what the text is
written as (`decode?_eq_some_iff`).
-/

namespace RequestGuard.Utf8

/-- The bytes are the form of a code point: a lead byte that tells the length, and continuation
bytes. -/
inductive IsForm : List UInt8 → Nat → Prop
  | one {b₀ : UInt8} (h₀ : b₀.toNat < 0x80) : IsForm [b₀] b₀.toNat
  | two {b₀ b₁ : UInt8} (h₀ : 0xC2 ≤ b₀.toNat ∧ b₀.toNat ≤ 0xDF) (h₁ : isContinuation b₁ = true) :
      IsForm [b₀, b₁] (b₀.toNat % 32 * 64 + payload b₁)
  | three {b₀ b₁ b₂ : UInt8} (h₁ : opensThree b₀ b₁ = true) (h₂ : isContinuation b₂ = true) :
      IsForm [b₀, b₁, b₂] (b₀.toNat % 16 * 4096 + payload b₁ * 64 + payload b₂)
  | four {b₀ b₁ b₂ b₃ : UInt8} (h₁ : opensFour b₀ b₁ = true) (h₂ : isContinuation b₂ = true)
      (h₃ : isContinuation b₃ = true) :
      IsForm [b₀, b₁, b₂, b₃] (b₀.toNat % 8 * 262144 + payload b₁ * 4096
        + payload b₂ * 64 + payload b₃)

theorem isContinuation_iff {b : UInt8} :
    isContinuation b = true ↔ 0x80 ≤ b.toNat ∧ b.toNat ≤ 0xBF := by
  simp [isContinuation]

theorem opensThree_iff {b₀ b₁ : UInt8} :
    opensThree b₀ b₁ = true ↔ b₀.toNat = 0xE0 ∧ 0xA0 ≤ b₁.toNat ∧ b₁.toNat ≤ 0xBF
      ∨ 0xE1 ≤ b₀.toNat ∧ b₀.toNat ≤ 0xEF ∧ b₀.toNat ≠ 0xED ∧ 0x80 ≤ b₁.toNat ∧ b₁.toNat ≤ 0xBF
      ∨ b₀.toNat = 0xED ∧ 0x80 ≤ b₁.toNat ∧ b₁.toNat ≤ 0x9F := by
  simp only [opensThree, isContinuation, Bool.or_eq_true, Bool.and_eq_true, beq_iff_eq,
    decide_eq_true_eq]
  omega

theorem opensFour_iff {b₀ b₁ : UInt8} :
    opensFour b₀ b₁ = true ↔ b₀.toNat = 0xF0 ∧ 0x90 ≤ b₁.toNat ∧ b₁.toNat ≤ 0xBF
      ∨ 0xF1 ≤ b₀.toNat ∧ b₀.toNat ≤ 0xF3 ∧ 0x80 ≤ b₁.toNat ∧ b₁.toNat ≤ 0xBF
      ∨ b₀.toNat = 0xF4 ∧ 0x80 ≤ b₁.toNat ∧ b₁.toNat ≤ 0x8F := by
  simp only [opensFour, isContinuation, Bool.or_eq_true, Bool.and_eq_true, beq_iff_eq,
    decide_eq_true_eq]
  omega

theorem IsForm.isValidChar {form : List UInt8} {n : Nat} (h : IsForm form n) : n.isValidChar := by
  unfold Nat.isValidChar
  cases h with
  | one h₀ => omega
  | two h₀ h₁ =>
    unfold payload
    omega
  | three h₁ h₂ =>
    rw [opensThree_iff] at h₁
    unfold payload
    omega
  | four h₁ h₂ h₃ =>
    rw [opensFour_iff] at h₁
    unfold payload
    omega

theorem IsForm.encodeChar_eq {form : List UInt8} {n : Nat} (h : IsForm form n) :
    encodeChar (Char.ofNat n) = form := by
  have hpoint : (Char.ofNat n).toNat = n := Text.toNat_ofNat h.isValidChar
  unfold encodeChar
  dsimp only
  rw [hpoint]
  cases h with
  | one h₀ => rw [if_pos h₀, UInt8.ofNat_toNat]
  | @two b₀ b₁ h₀ h₁ =>
    rw [isContinuation_iff] at h₁
    unfold payload
    generalize hn : b₀.toNat % 32 * 64 + b₁.toNat % 64 = n
    rw [if_neg (by omega), if_pos (by omega), show 0xC0 + n / 64 = b₀.toNat by omega,
      show 0x80 + n % 64 = b₁.toNat by omega]
    simp only [UInt8.ofNat_toNat]
  | @three b₀ b₁ b₂ h₁ h₂ =>
    rw [isContinuation_iff] at h₂
    rw [opensThree_iff] at h₁
    unfold payload
    generalize hn : b₀.toNat % 16 * 4096 + b₁.toNat % 64 * 64 + b₂.toNat % 64 = n
    rw [if_neg (by omega), if_neg (by omega), if_pos (by omega), show 0xE0 + n / 4096
      = b₀.toNat by omega,
      show 0x80 + n / 64 % 64 = b₁.toNat by omega, show 0x80 + n % 64 = b₂.toNat by omega]
    simp only [UInt8.ofNat_toNat]
  | @four b₀ b₁ b₂ b₃ h₁ h₂ h₃ =>
    rw [isContinuation_iff] at h₂ h₃
    rw [opensFour_iff] at h₁
    unfold payload
    generalize hn :
      b₀.toNat % 8 * 262144 + b₁.toNat % 64 * 4096 + b₂.toNat % 64 * 64 + b₃.toNat % 64 = n
    rw [if_neg (by omega), if_neg (by omega), if_neg (by omega), show 0xF0 + n / 262144
      = b₀.toNat by omega,
      show 0x80 + n / 4096 % 64 = b₁.toNat by omega, show 0x80 + n / 64 % 64 = b₂.toNat by omega,
      show 0x80 + n % 64 = b₃.toNat by omega]
    simp only [UInt8.ofNat_toNat]

theorem toNat_ofNat_of_lt {n : Nat} (h : n < 256) : (UInt8.ofNat n).toNat = n := by
  rw [UInt8.toNat_ofNat']
  omega

theorem isContinuation_ofNat (n : Nat) : isContinuation (UInt8.ofNat (0x80 + n % 64)) = true := by
  rw [isContinuation_iff, toNat_ofNat_of_lt (by omega)]
  omega

theorem payload_ofNat (n : Nat) : payload (UInt8.ofNat (0x80 + n % 64)) = n % 64 := by
  rw [payload, toNat_ofNat_of_lt (by omega)]
  omega

theorem isForm_encodeChar (c : Char) : IsForm (encodeChar c) c.toNat := by
  have hvalid : c.toNat < 0xD800 ∨ 0xDFFF < c.toNat ∧ c.toNat < 0x110000 := c.valid
  unfold encodeChar
  dsimp only
  generalize c.toNat = n at hvalid
  split
  · have h₀ : (UInt8.ofNat n).toNat = n := toNat_ofNat_of_lt (by omega)
    have hform := @IsForm.one (UInt8.ofNat n) (by omega)
    rwa [h₀] at hform
  split
  · have h₀ : (UInt8.ofNat (0xC0 + n / 64)).toNat = 0xC0 + n / 64 := toNat_ofNat_of_lt (by omega)
    have hform := @IsForm.two (UInt8.ofNat (0xC0 + n / 64)) _ (by omega) (isContinuation_ofNat n)
    rwa [h₀, payload_ofNat, show (0xC0 + n / 64) % 32 * 64 + n % 64 = n by omega] at hform
  split
  · have h₀ : (UInt8.ofNat (0xE0 + n / 4096)).toNat = 0xE0 + n / 4096 :=
      toNat_ofNat_of_lt (by omega)
    have h₁ : (UInt8.ofNat (0x80 + n / 64 % 64)).toNat = 0x80 + n / 64 % 64 :=
      toNat_ofNat_of_lt (by omega)
    have hopens :
        opensThree (UInt8.ofNat (0xE0 + n / 4096)) (UInt8.ofNat (0x80 + n / 64 % 64)) = true := by
      rw [opensThree_iff]
      omega
    have hform := IsForm.three hopens (isContinuation_ofNat n)
    rwa [h₀, payload_ofNat, payload_ofNat,
      show (0xE0 + n / 4096) % 16 * 4096 + n / 64 % 64 * 64 + n % 64 = n by omega] at hform
  · have h₀ : (UInt8.ofNat (0xF0 + n / 262144)).toNat = 0xF0 + n / 262144 :=
      toNat_ofNat_of_lt (by omega)
    have h₁ : (UInt8.ofNat (0x80 + n / 4096 % 64)).toNat = 0x80 + n / 4096 % 64 :=
      toNat_ofNat_of_lt (by omega)
    have hopens : opensFour (UInt8.ofNat (0xF0 + n / 262144)) (UInt8.ofNat (0x80 + n / 4096 % 64))
        = true := by
      rw [opensFour_iff]
      omega
    have hform := IsForm.four hopens (isContinuation_ofNat (n / 64)) (isContinuation_ofNat n)
    rwa [h₀, payload_ofNat, payload_ofNat, payload_ofNat,
      show (0xF0 + n / 262144) % 8 * 262144 + n / 4096 % 64 * 4096 + n / 64 % 64 * 64 + n % 64
        = n by omega] at hform

/-- The character of a form is read off the form, whatever follows. -/
theorem IsForm.scan_append {form : List UInt8} {n : Nat} (h : IsForm form n) (rest : List UInt8) :
    scan (form ++ rest) = some (Char.ofNat n) :: scan rest := by
  rw [scan.eq_def]
  cases h with
  | one h₀ => exact if_pos h₀
  | two h₀ h₁ =>
    dsimp only [List.cons_append, List.nil_append]
    rw [if_neg (by omega), if_pos h₀, if_pos h₁]
  | three h₁ h₂ =>
    have hlead := opensThree_iff.1 h₁
    dsimp only [List.cons_append, List.nil_append]
    rw [if_neg (by omega), if_neg (by omega), if_pos (by omega), if_pos h₁, if_pos h₂]
  | four h₁ h₂ h₃ =>
    have hlead := opensFour_iff.1 h₁
    dsimp only [List.cons_append, List.nil_append]
    rw [if_neg (by omega), if_neg (by omega), if_neg (by omega), if_pos (by omega), if_pos h₁,
      if_pos h₂, if_pos h₃]

/-- A character is read off a form only. -/
theorem exists_isForm_of_scan {bytes : List UInt8} {c : Char} {more : List (Option Char)}
    (h : scan bytes = some c :: more) :
    ∃ form n rest, IsForm form n ∧ bytes = form ++ rest ∧ Char.ofNat n = c ∧ scan rest = more := by
  have hread {form rest : List UInt8} {n : Nat} (hform : IsForm form n)
      (hcons : some (Char.ofNat n) :: scan rest = some c :: more) :
      ∃ form' n' rest', IsForm form' n' ∧ form ++ rest = form' ++ rest' ∧ Char.ofNat n' = c
        ∧ scan rest' = more := by
    obtain ⟨hchar, hmore⟩ := List.cons.inj hcons
    exact ⟨form, n, rest, hform, rfl, Option.some.inj hchar, hmore⟩
  cases bytes with
  | nil =>
    rw [scan] at h
    cases h
  | cons b₀ rest₀ =>
    unfold scan at h
    dsimp only at h
    split at h
    · rename_i h₀
      exact hread (.one h₀) h
    split at h
    · rename_i h₀
      split at h
      · split at h
        · rename_i b₁ rest₁ h₁
          exact hread (.two h₀ h₁) h
        · cases h
      · cases h
    split at h
    · split at h
      · split at h
        · rename_i b₁ rest₁ h₁
          split at h
          · split at h
            · rename_i b₂ rest₂ h₂
              exact hread (.three h₁ h₂) h
            · cases h
          · cases h
        · cases h
      · cases h
    split at h
    · split at h
      · split at h
        · rename_i b₁ rest₁ h₁
          split at h
          · split at h
            · rename_i b₂ rest₂ h₂
              split at h
              · split at h
                · rename_i b₃ rest₃ h₃
                  exact hread (.four h₁ h₂ h₃) h
                · cases h
              · cases h
            · cases h
          · cases h
        · cases h
      · cases h
    · cases h

theorem scan_ne_nil (b : UInt8) (rest : List UInt8) : scan (b :: rest) ≠ [] := by
  rw [scan.eq_def]
  dsimp only
  repeat' split
  all_goals exact List.cons_ne_nil _ _

theorem mapM_id_eq_some_iff {α : Type} {read : List (Option α)} {s : List α} :
    read.mapM id = some s ↔ read = s.map some := by
  induction read generalizing s with
  | nil => cases s <;> simp
  | cons piece read ih =>
    cases piece with
    | none => cases s <;> simp
    | some c =>
      have hcons : (some c :: read).mapM id = (read.mapM id).map (c :: ·) := by
        rw [List.mapM_cons]
        cases read.mapM id <;> rfl
      rw [hcons, Option.map_eq_some_iff]
      simp only [ih]
      constructor
      · rintro ⟨rest, rfl, rfl⟩
        rfl
      · intro h
        cases s with
        | nil => cases h
        | cons d s =>
          obtain ⟨hsame, rfl⟩ := List.cons.inj h
          exact ⟨s, rfl, by rw [Option.some.inj hsame]⟩

theorem scan_encode (s : List Char) : scan (encode s) = s.map some := by
  induction s with
  | nil => rfl
  | cons c s ih =>
    have hcons : encode (c :: s) = encodeChar c ++ encode s := rfl
    rw [hcons, (isForm_encodeChar c).scan_append, Char.ofNat_toNat, ih, List.map_cons]

theorem encode_of_scan {bytes : List UInt8} {s : List Char} (h : scan bytes = s.map some) :
    encode s = bytes := by
  induction s generalizing bytes with
  | nil =>
    cases bytes with
    | nil => rfl
    | cons b rest => exact absurd h (scan_ne_nil b rest)
  | cons c s ih =>
    obtain ⟨form, n, rest, hform, rfl, rfl, hrest⟩ := exists_isForm_of_scan h
    rw [← ih hrest, ← hform.encodeChar_eq]
    rfl

/-- Bytes are read as a text exactly if the text is written so. -/
theorem decode?_eq_some_iff {bytes : List UInt8} {s : List Char} :
    decode? bytes = some s ↔ bytes = encode s := by
  rw [decode?, mapM_id_eq_some_iff]
  exact ⟨fun h => (encode_of_scan h).symm, fun h => h ▸ scan_encode s⟩

end RequestGuard.Utf8
