import RequestGuard.Text.Base64Url
import RequestGuard.Text.Digits

/-!
# Bytes have one written form

The digits stand for the numbers below 64, one for each, and a text is read as bytes exactly if it
is what the bytes are written as (`decode?_eq_some_iff`): no text is read that has a bit left over.
-/

namespace RequestGuard.Base64Url

theorem value?_digit {n : Nat} (h : n < 64) : value? (digit n) = some n := by
  have hall : ∀ n < 64, value? (digit n) = some n := by decide
  exact hall n h

theorem digit_of_value? {c : Char} {n : Nat} (h : value? c = some n) : n < 64 ∧ digit n = c := by
  have hsame (k : Nat) (hk : k = c.toNat) : Char.ofNat k = c := by rw [hk, Char.ofNat_toNat]
  unfold value? at h
  split at h
  · rename_i hupper
    rw [Text.isUpper_iff] at hupper
    obtain rfl := Option.some.inj h
    rw [digit, if_pos (by omega)]
    exact ⟨by omega, hsame _ (by omega)⟩
  split at h
  · rename_i hlower
    rw [Text.isLower_iff] at hlower
    obtain rfl := Option.some.inj h
    rw [digit, if_neg (by omega), if_pos (by omega)]
    exact ⟨by omega, hsame _ (by omega)⟩
  split at h
  · rename_i hdigit
    rw [Text.isDigit_iff] at hdigit
    obtain rfl := Option.some.inj h
    rw [digit, if_neg (by omega), if_neg (by omega), if_pos (by omega)]
    exact ⟨by omega, hsame _ (by omega)⟩
  split at h
  · rename_i hdash
    obtain rfl := Option.some.inj h
    exact ⟨by decide, hdash.symm⟩
  split at h
  · rename_i hunderscore
    obtain rfl := Option.some.inj h
    exact ⟨by decide, hunderscore.symm⟩
  · cases h

theorem encode_four_digits {a b c d n : Nat} (ha : a < 64) (hb : b < 64) (hc : c < 64) (hd : d < 64)
    (hn : n = a * 262144 + b * 4096 + c * 64 + d) (bytes : List UInt8) :
    encode (UInt8.ofNat (n / 65536) :: UInt8.ofNat (n / 256 % 256)
      :: UInt8.ofNat (n % 256) :: bytes)
      = digit a :: digit b :: digit c :: digit d :: encode bytes := by
  have hbytes : (UInt8.ofNat (n / 65536)).toNat * 65536 + (UInt8.ofNat (n / 256 % 256)).toNat * 256
      + (UInt8.ofNat (n % 256)).toNat = n := by
    simp only [UInt8.toNat_ofNat']
    omega
  rw [encode, hbytes, show n / 262144
    = a by omega, show n / 4096 % 64 = b by omega, show n / 64 % 64 = c by omega,
    show n % 64 = d by omega]

theorem encode_three_digits {a b c n : Nat} (ha : a < 64) (hb : b < 64) (hc : c < 64)
    (hlast : c % 4 = 0) (hn : n = a * 1024 + b * 16 + c / 4) :
    encode [UInt8.ofNat (n / 256), UInt8.ofNat (n % 256)] = [digit a, digit b, digit c] := by
  have hbytes :
      (UInt8.ofNat (n / 256)).toNat * 1024 + (UInt8.ofNat (n % 256)).toNat * 4 = n * 4 := by
    simp only [UInt8.toNat_ofNat']
    omega
  rw [encode, hbytes, show n * 4 / 4096
    = a by omega, show n * 4 / 64 % 64 = b by omega, show n * 4 % 64 = c by omega]

theorem encode_two_digits {a b : Nat} (ha : a < 64) (hb : b < 64) (hlast : b % 16 = 0) :
    encode [UInt8.ofNat (a * 4 + b / 16)] = [digit a, digit b] := by
  have hbyte : (UInt8.ofNat (a * 4 + b / 16)).toNat = a * 4 + b / 16 := by
    rw [UInt8.toNat_ofNat']
    omega
  rw [encode, hbyte, show (a * 4 + b / 16) * 16 / 64
    = a by omega, show (a * 4 + b / 16) * 16 % 64 = b by omega]

theorem encode_of_decode? {s : List Char} {bytes : List UInt8} (h : decode? s = some bytes) :
    encode bytes = s := by
  fun_induction decode? s generalizing bytes with
  | case1 _ _ _ _ rest a b c d hd hc hb ha n =>
    rename_i ih
    obtain ⟨more, hmore, rfl⟩ := Option.map_eq_some_iff.1 h
    obtain ⟨ha64, rfl⟩ := digit_of_value? ha
    obtain ⟨hb64, rfl⟩ := digit_of_value? hb
    obtain ⟨hc64, rfl⟩ := digit_of_value? hc
    obtain ⟨hd64, rfl⟩ := digit_of_value? hd
    rw [encode_four_digits ha64 hb64 hc64 hd64 rfl, ih hmore]
  | case3 _ _ _ a b c hc hb ha hlast =>
    obtain rfl := Option.some.inj h
    obtain ⟨ha64, rfl⟩ := digit_of_value? ha
    obtain ⟨hb64, rfl⟩ := digit_of_value? hb
    obtain ⟨hc64, rfl⟩ := digit_of_value? hc
    exact encode_three_digits ha64 hb64 hc64 hlast rfl
  | case6 _ _ a b hb ha hlast =>
    obtain rfl := Option.some.inj h
    obtain ⟨ha64, rfl⟩ := digit_of_value? ha
    obtain ⟨hb64, rfl⟩ := digit_of_value? hb
    exact encode_two_digits ha64 hb64 hlast
  | case10 =>
    obtain rfl := Option.some.inj h
    rfl
  | _ => cases h

theorem decode?_encode (bytes : List UInt8) : decode? (encode bytes) = some bytes := by
  fun_induction encode bytes with
  | case1 a b c rest n ih =>
    have ha := a.toNat_lt
    have hb := b.toNat_lt
    have hc := c.toNat_lt
    rw [decode?, value?_digit (by omega), value?_digit (by omega), value?_digit (by omega),
      value?_digit (by omega)]
    dsimp only
    rw [show n / 262144 * 262144 + n / 4096 % 64 * 4096 + n / 64 % 64 * 64 + n % 64
      = n by omega, ih,
      show n / 65536 = a.toNat by omega, show n / 256 % 256
        = b.toNat by omega, show n % 256 = c.toNat by omega]
    simp only [UInt8.ofNat_toNat, Option.map_some]
  | case2 a b n =>
    have ha := a.toNat_lt
    have hb := b.toNat_lt
    rw [decode?, value?_digit (by omega), value?_digit (by omega), value?_digit (by omega)]
    dsimp only
    rw [if_pos (by omega), show n / 4096 * 1024 + n / 64 % 64 * 16 + n % 64 / 4 = n / 4 by omega,
      show n / 4 / 256 = a.toNat by omega, show n / 4 % 256 = b.toNat by omega]
    simp only [UInt8.ofNat_toNat]
  | case3 a n =>
    have ha := a.toNat_lt
    rw [decode?, value?_digit (by omega), value?_digit (by omega)]
    dsimp only
    rw [if_pos (by omega), show n / 64 * 4 + n % 64 / 16 = a.toNat by omega, UInt8.ofNat_toNat]
  | case4 => rfl

/-- A text is read as bytes exactly if the bytes are written so. -/
theorem decode?_eq_some_iff {s : List Char} {bytes : List UInt8} :
    decode? s = some bytes ↔ s = encode bytes :=
  ⟨fun h => (encode_of_decode? h).symm, fun h => h ▸ decode?_encode bytes⟩

theorem not_mem_encode {c : Char} (h : value? c = none) (bytes : List UInt8) :
    c ∉ encode bytes := by
  have hdigit (n : Nat) (hn : n < 64) : c ≠ digit n := by
    rintro rfl
    rw [value?_digit hn] at h
    cases h
  fun_induction encode bytes with
  | case1 a b c rest n ih =>
    have ha := a.toNat_lt
    have hb := b.toNat_lt
    have hc := c.toNat_lt
    simp only [List.mem_cons, not_or]
    exact ⟨hdigit _ (by omega), hdigit _ (by omega), hdigit _ (by omega), hdigit _ (by omega), ih⟩
  | case2 a b n =>
    have ha := a.toNat_lt
    have hb := b.toNat_lt
    simp only [List.mem_cons, not_or]
    exact ⟨hdigit _ (by omega), hdigit _ (by omega), hdigit _ (by omega), List.not_mem_nil⟩
  | case3 a n =>
    have ha := a.toNat_lt
    simp only [List.mem_cons, not_or]
    exact ⟨hdigit _ (by omega), hdigit _ (by omega), List.not_mem_nil⟩
  | case4 => exact List.not_mem_nil

end RequestGuard.Base64Url
