import RequestGuard.Text.Utf8

/-!
# The order of texts and of their bytes

Texts are ordered by their characters, and so are the bytes of their UTF-8 form
(`encode_lt_encode`). The forms of two characters part at a byte that both of them have, at which
the form of the smaller character has the smaller byte (`diverges_encodeChar`), so that what follows
the characters does not matter.
-/

namespace RequestGuard.Utf8

/-- Two sequences of bytes part at a byte that both have, which is smaller in the first one. -/
def Diverges : List UInt8 → List UInt8 → Prop
  | a :: first, b :: second => a < b ∨ a = b ∧ Diverges first second
  | _, _ => False

theorem Diverges.append_lt_append {first second : List UInt8} (h : Diverges first second)
    (after after' : List UInt8) :
    first ++ after < second ++ after' := by
  induction first generalizing second with
  | nil => exact h.elim
  | cons a first ih =>
    cases second with
    | nil => exact h.elim
    | cons b second =>
      obtain hbyte | ⟨hsame, hrest⟩ := h
      · exact List.Lex.rel hbyte
      · rw [hsame]
        exact List.Lex.cons (ih hrest)

/-- A smaller character has a smaller lead byte, or the same one and smaller bytes after it. -/
theorem diverges_encodeChar {a b : Char} (h : a < b) : Diverges (encodeChar a) (encodeChar b) := by
  have hpoints : a.toNat < b.toNat := h
  have hbound : b.toNat < 0x110000 := by
    have hvalid : b.toNat < 0xD800 ∨ 0xDFFF < b.toNat ∧ b.toNat < 0x110000 := b.valid
    omega
  unfold encodeChar
  dsimp only
  generalize a.toNat = n at hpoints
  generalize b.toNat = m at hpoints hbound
  have hbits12 (k : Nat) : k / 4096 = k / 64 / 64 := by omega
  have hbits18 (k : Nat) : k / 262144 = k / 64 / 64 / 64 := by omega
  -- By the lengths of the forms: the lead byte of a longer form is larger.
  repeat' split
  all_goals
    simp only [Diverges, UInt8.lt_iff_toNat_lt, ← UInt8.toNat_inj,
      UInt8.toNat_ofNat', hbits12, hbits18]
    omega

theorem append_lt_append_left (common : List UInt8) {first second : List UInt8}
    (h : first < second) :
    common ++ first < common ++ second := by
  induction common with
  | nil => exact h
  | cons a common ih => exact List.Lex.cons ih

theorem encodeChar_ne_nil (c : Char) : encodeChar c ≠ [] := by
  unfold encodeChar
  dsimp only
  repeat' split
  all_goals exact List.cons_ne_nil _ _

/-- The smaller of two texts has the smaller bytes. -/
theorem encode_lt_encode {s t : List Char} (h : s < t) : encode s < encode t := by
  replace h : List.Lex (· < ·) s t := h
  induction h with
  | @nil c rest =>
    obtain ⟨byte, more, hbytes⟩ := List.exists_cons_of_ne_nil (encodeChar_ne_nil c)
    rw [encode, encode, List.flatMap_nil, List.flatMap_cons, hbytes]
    exact List.Lex.nil
  | cons _ ih =>
    rw [encode, encode, List.flatMap_cons, List.flatMap_cons]
    exact append_lt_append_left _ ih
  | rel hchar =>
    rw [encode, encode, List.flatMap_cons, List.flatMap_cons]
    exact (diverges_encodeChar hchar).append_lt_append _ _

end RequestGuard.Utf8
