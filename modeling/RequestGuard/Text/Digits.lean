/-!
# Digits

Decimal and hexadecimal digits of ASCII, the decimal text of a natural number, and the number that
a run of digits stands for. `ofDigits_digits` and `ofHexDigits_hexDigits` say that reading undoes
writing.
-/

namespace RequestGuard.Text

/-- The value of a hexadecimal digit of either case. -/
def hexValue? (c : Char) : Option Nat :=
  if c.isDigit then some (c.toNat - 48)
  else if 'a' ≤ c ∧ c ≤ 'f' then some (c.toNat - 87)
  else if 'A' ≤ c ∧ c ≤ 'F' then some (c.toNat - 55)
  else none

/-- The ASCII digits and the letters `a` to `f` of either case. -/
def isHexDigit (c : Char) : Bool := (hexValue? c).isSome

def hexDigit (n : Nat) : Char := Char.ofNat (if n < 10 then 48 + n else 87 + n)

def hexDigitUpper (n : Nat) : Char := Char.ofNat (if n < 10 then 48 + n else 55 + n)

def digitChar (n : Nat) : Char := Char.ofNat (48 + n)

/-- The decimal digits of a number, the most significant first; zero is one digit. -/
def digits (n : Nat) : List Char :=
  if n < 10 then [digitChar n] else digits (n / 10) ++ [digitChar (n % 10)]

def ofDigits (s : List Char) : Nat := s.foldl (fun n c => n * 10 + (c.toNat - 48)) 0

def ofHexDigits (s : List Char) : Nat := s.foldl (fun n c => n * 16 + (hexValue? c).getD 0) 0

/-- The digits of a number in base 16, lower case, the most significant first. -/
def hexDigits (n : Nat) : List Char :=
  if n < 16 then [hexDigit n] else hexDigits (n / 16) ++ [hexDigit (n % 16)]

def decimal (n : Nat) : String := String.ofList (digits n)

/-- The decimal text of an integer, with a sign if it is negative. -/
def decimalInt : Int → String
  | .ofNat n => decimal n
  | .negSucc n => String.ofList ('-' :: digits (n + 1))

/-- The number that a non-empty run of ASCII digits stands for. -/
def readDigits? (s : List Char) : Option Nat :=
  if s ≠ [] ∧ s.all Char.isDigit then some (ofDigits s) else none

theorem isUpper_iff {c : Char} : c.isUpper = true ↔ 65 ≤ c.toNat ∧ c.toNat ≤ 90 := by
  change decide ((65 : UInt32) ≤ c.val ∧ c.val ≤ 90) = true ↔ _
  rw [decide_eq_true_eq, UInt32.le_iff_toNat_le, UInt32.le_iff_toNat_le]
  rfl

theorem isLower_iff {c : Char} : c.isLower = true ↔ 97 ≤ c.toNat ∧ c.toNat ≤ 122 := by
  change (decide ((97 : UInt32) ≤ c.val) && decide (c.val ≤ 122)) = true ↔ _
  rw [Bool.and_eq_true, decide_eq_true_eq, decide_eq_true_eq, UInt32.le_iff_toNat_le,
    UInt32.le_iff_toNat_le]
  rfl

theorem isDigit_iff {c : Char} : c.isDigit = true ↔ 48 ≤ c.toNat ∧ c.toNat ≤ 57 := by
  simp [Char.isDigit, UInt32.le_iff_toNat_le]

/-- What holds for every code point of an interval holds for the characters whose code points are in
it. -/
theorem of_interval {P : Char → Prop} {c : Char} {first count : Nat} (hfirst : first ≤ c.toNat)
    (hcount : c.toNat < first + count) (h : ∀ n : Fin count, P (Char.ofNat (first + n))) : P c := by
  have hc := h ⟨c.toNat - first, by omega⟩
  dsimp only at hc
  rwa [Nat.add_sub_cancel' hfirst, Char.ofNat_toNat] at hc

/-- A test that only characters of ASCII pass. -/
def IsAscii (test : Char → Bool) : Prop := ∀ c, test c = true → c.toNat < 0x80

theorem isAscii_contains {s : List Char} (h : (s.all fun c => decide (c.toNat < 0x80)) = true) :
    IsAscii s.contains := by
  intro c hc
  exact of_decide_eq_true (List.all_eq_true.1 h c (List.contains_iff_mem.1 hc))

theorem isAscii_single {c : Char} (h : c.toNat < 0x80) : IsAscii (· == c) := by
  intro d hd
  rwa [beq_iff_eq.1 hd]

theorem isAscii_interval (first : Char) {last : Char} (h : last.toNat < 0x80) :
    IsAscii fun c => first ≤ c && c ≤ last := by
  intro c hc
  rw [Bool.and_eq_true, decide_eq_true_iff, decide_eq_true_iff] at hc
  have hbound : c.toNat ≤ last.toNat := hc.2
  exact Nat.lt_of_le_of_lt hbound h

def asciiChars : List Char := (List.range 0x80).map Char.ofNat

theorem mem_asciiChars {c : Char} (h : c.toNat < 0x80) : c ∈ asciiChars :=
  List.mem_map.2 ⟨c.toNat, List.mem_range.2 h, Char.ofNat_toNat c⟩

/-- A test that only characters of ASCII pass holds for those among them that pass it. -/
theorem IsAscii.eq_contains {test : Char → Bool} (h : IsAscii test) :
    test = (asciiChars.filter test).contains := by
  funext c
  rw [Bool.eq_iff_iff, List.contains_iff_mem, List.mem_filter]
  constructor
  · intro hc
    exact ⟨mem_asciiChars (h c hc), hc⟩
  · intro hc
    exact hc.2

theorem toNat_ofNat {point : Nat} (h : point.isValidChar) : (Char.ofNat point).toNat = point := by
  rw [Char.ofNat, dif_pos h]
  rfl

theorem digitChar_toNat {n : Nat} (h : n < 10) : (digitChar n).toNat = 48 + n := by
  have : ∀ k : Fin 10, (digitChar k.val).toNat = 48 + k.val := by decide
  exact this ⟨n, h⟩

theorem digitChar_isDigit {n : Nat} (h : n < 10) : (digitChar n).isDigit = true := by
  have : ∀ k : Fin 10, (digitChar k.val).isDigit = true := by decide
  exact this ⟨n, h⟩

theorem ofDigits_append_singleton (s : List Char) (c : Char) :
    ofDigits (s ++ [c]) = ofDigits s * 10 + (c.toNat - 48) := by
  simp [ofDigits, List.foldl_append]

theorem ofDigits_digits (n : Nat) : ofDigits (digits n) = n := by
  induction n using Nat.strongRecOn with
  | ind n ih =>
    rw [digits]
    split
    · rename_i h
      simp [ofDigits, digitChar_toNat h]
    · rename_i h
      rw [ofDigits_append_singleton, ih (n / 10) (by omega), digitChar_toNat (by omega)]
      omega

theorem digits_ne_nil (n : Nat) : digits n ≠ [] := by
  rw [digits]
  split <;> simp

theorem isDigit_of_mem_digits {n : Nat} {c : Char} (h : c ∈ digits n) : c.isDigit = true := by
  induction n using Nat.strongRecOn with
  | ind n ih =>
    rw [digits] at h
    split at h
    · rename_i hn
      rw [List.mem_singleton.1 h]
      exact digitChar_isDigit hn
    · rename_i hn
      rcases List.mem_append.1 h with h | h
      · exact ih _ (by omega) h
      · rw [List.mem_singleton.1 h]
        exact digitChar_isDigit (by omega)

theorem readDigits?_eq_some_iff {s : List Char} {n : Nat} :
    readDigits? s = some n ↔ s ≠ [] ∧ s.all Char.isDigit = true ∧ ofDigits s = n := by
  unfold readDigits?
  split
  · rename_i h
    simp [h]
  · rename_i h
    simp only [reduceCtorEq, false_iff]
    exact fun hread => h ⟨hread.1, hread.2.1⟩

theorem eq_zero_of_digits_head {n : Nat} {rest : List Char}
    (h : digits n = '0' :: rest) : n = 0 := by
  induction n using Nat.strongRecOn generalizing rest with
  | ind n ih =>
    rw [digits] at h
    split at h
    · rename_i hsmall
      have hchar : (digitChar n).toNat = '0'.toNat := congrArg Char.toNat (List.cons.inj h).1
      rw [digitChar_toNat hsmall] at hchar
      have : '0'.toNat = 48 := rfl
      omega
    · rename_i hlarge
      obtain ⟨c, tail, hdigits⟩ := List.exists_cons_of_ne_nil (digits_ne_nil (n / 10))
      rw [hdigits, List.cons_append] at h
      obtain ⟨rfl, -⟩ := List.cons.inj h
      have := ih (n / 10) (by omega) hdigits
      omega

theorem hexValue?_hexDigit {n : Nat} (h : n < 16) : hexValue? (hexDigit n) = some n := by
  revert n
  decide

theorem isHexDigit_hexDigit {n : Nat} (h : n < 16) : isHexDigit (hexDigit n) = true := by
  rw [isHexDigit, hexValue?_hexDigit h]
  rfl

theorem isHexDigit_hexDigitUpper {n : Nat} (h : n < 16) : isHexDigit (hexDigitUpper n) = true := by
  revert n
  decide

theorem isHexDigit_of_isDigit {c : Char} (h : c.isDigit = true) : isHexDigit c = true := by
  simp [isHexDigit, hexValue?, h]

theorem isAscii_isHexDigit : IsAscii isHexDigit := by
  intro c h
  unfold isHexDigit hexValue? at h
  split at h
  · rename_i hdigit
    rw [isDigit_iff] at hdigit
    omega
  split at h
  · rename_i hlower
    have hbound : c.toNat ≤ 'f'.toNat := hlower.2
    exact Nat.lt_of_le_of_lt hbound (by decide)
  split at h
  · rename_i hupper
    have hbound : c.toNat ≤ 'F'.toNat := hupper.2
    exact Nat.lt_of_le_of_lt hbound (by decide)
  · cases h

theorem hexDigits_ne_nil (n : Nat) : hexDigits n ≠ [] := by
  rw [hexDigits]
  split <;> simp

theorem isHexDigit_of_mem_hexDigits {n : Nat} {c : Char} (h : c ∈ hexDigits n) :
    isHexDigit c = true := by
  induction n using Nat.strongRecOn with
  | ind n ih =>
    rw [hexDigits] at h
    split at h
    · rename_i hn
      rw [List.mem_singleton.1 h]
      exact isHexDigit_hexDigit hn
    · rename_i hn
      rcases List.mem_append.1 h with h | h
      · exact ih _ (by omega) h
      · rw [List.mem_singleton.1 h]
        exact isHexDigit_hexDigit (by omega)

theorem ofHexDigits_hexDigits (n : Nat) : ofHexDigits (hexDigits n) = n := by
  induction n using Nat.strongRecOn with
  | ind n ih =>
    rw [hexDigits]
    split
    · rename_i h
      simp [ofHexDigits, hexValue?_hexDigit h]
    · rename_i h
      have hrest : ofHexDigits (hexDigits (n / 16)) = n / 16 := ih _ (by omega)
      rw [ofHexDigits] at hrest ⊢
      rw [List.foldl_append, hrest, List.foldl_cons, List.foldl_nil,
        hexValue?_hexDigit (by omega), Option.getD_some]
      omega

end RequestGuard.Text
