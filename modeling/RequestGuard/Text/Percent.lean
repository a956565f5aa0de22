import RequestGuard.Text.Digits

/-!
# Percent-encoding

A byte may be written as `%` and two hexadecimal digits. `decode` reads such triples and leaves
every other byte alone, a stray `%` included; `encodeByte` writes one with upper-case digits.
-/

namespace RequestGuard.Percent

def hexByte? (b : UInt8) : Option Nat := Text.hexValue? (Char.ofNat b.toNat)

/-- Replaces each `%` that two hexadecimal digits follow by the byte that they write. -/
def decode : List UInt8 → List UInt8
  | [] => []
  | b :: rest =>
    if b = 0x25 then
      match rest with
      | high :: low :: tail =>
        match hexByte? high, hexByte? low with
        | some h, some l => UInt8.ofNat (h * 16 + l) :: decode tail
        | _, _ => b :: decode (high :: low :: tail)
      | short => b :: decode short
    else b :: decode rest

/-- A byte as `%` and two upper-case hexadecimal digits. -/
def encodeByte (b : UInt8) : List Char :=
  ['%', Text.hexDigitUpper (b.toNat / 16), Text.hexDigitUpper (b.toNat % 16)]

theorem decode_cons_of_ne {b : UInt8} (h : b ≠ 0x25) (rest : List UInt8) :
    decode (b :: rest) = b :: decode rest := by
  rw [decode.eq_def]
  exact if_neg h

theorem decode_eq_self {bytes : List UInt8} (h : 0x25 ∉ bytes) : decode bytes = bytes := by
  induction bytes with
  | nil => rfl
  | cons b rest ih =>
    rw [List.mem_cons, not_or] at h
    rw [decode_cons_of_ne (Ne.symm h.1), ih h.2]

end RequestGuard.Percent
