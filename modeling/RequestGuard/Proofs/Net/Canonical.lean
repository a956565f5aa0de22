import Mathlib.Algebra.Group.Nat.Defs
import RequestGuard.Proofs.Net.Grammar

/-!
# Canonical texts of addresses

The canonical text of an address is a text of that address (`isAddress_render`), and so it is read
as the address that it was written for (`parse?_render`). For the octets and groups this means that
a word is put together again from its parts; for the zero groups that are left out, that the longest
run of zeros is a run of zeros of the list (`exists_eq_append_longestZeroRun`).
-/

namespace RequestGuard.Net

open Text (digits hexDigits joinWith)

theorem joinParts_octets (bits : BitVec 32) : joinParts 8 (octets bits) = bits.toNat := by
  have hbound := bits.isLt
  simp only [joinParts, octets, List.map_cons, List.map_nil, List.foldl_cons, List.foldl_nil,
    Nat.shiftLeft_eq, BitVec.extractLsb'_toNat, Nat.shiftRight_eq_div_pow]
  omega

theorem joinParts_groups (bits : BitVec 128) : joinParts 16 (groups bits) = bits.toNat := by
  have hbound := bits.isLt
  simp only [joinParts, groups, List.map_cons, List.map_nil, List.foldl_cons, List.foldl_nil,
    Nat.shiftLeft_eq, BitVec.extractLsb'_toNat, Nat.shiftRight_eq_div_pow]
  omega

theorem joinParts_mapped {bits : BitVec 128} {inner : BitVec 32} (h : mapped? bits = some inner) :
    joinParts 16 (List.replicate 5 0 ++ 0xFFFF :: quadGroups (octets inner)) = bits.toNat := by
  obtain ⟨hmark, hinner⟩ := Option.ite_none_right_eq_some.1 h
  have hhigh : bits.toNat / 2 ^ 32 % 2 ^ 96 = 0xFFFF := by
    simpa [BitVec.extractLsb'_toNat, Nat.shiftRight_eq_div_pow] using congrArg BitVec.toNat hmark
  have hlow : bits.toNat % 2 ^ 32 = inner.toNat := by
    simpa [BitVec.extractLsb'_toNat] using congrArg BitVec.toNat (Option.some.inj hinner)
  have hbound := bits.isLt
  have hword := inner.isLt
  simp only [joinParts, octets, quadGroups, List.replicate, List.map_cons, List.map_nil,
    List.cons_append, List.nil_append, List.foldl_cons, List.foldl_nil, Nat.shiftLeft_eq,
    BitVec.extractLsb'_toNat, Nat.shiftRight_eq_div_pow]
  omega

theorem length_digits_le {n k : Nat} (hk : 0 < k) (h : n < 10 ^ k) : (digits n).length ≤ k := by
  induction k generalizing n with
  | zero => exact absurd hk (Nat.lt_irrefl 0)
  | succ k ih =>
    rw [digits]
    split
    · simp
    · rename_i hlarge
      cases k with
      | zero => omega
      | succ k =>
        have hrest := ih (n := n / 10) (Nat.succ_pos k) (by omega)
        rw [List.length_append, List.length_singleton]
        omega

theorem length_hexDigits_le {n k : Nat} (hk : 0 < k) (h : n < 16 ^ k) :
    (hexDigits n).length ≤ k := by
  induction k generalizing n with
  | zero => exact absurd hk (Nat.lt_irrefl 0)
  | succ k ih =>
    rw [hexDigits]
    split
    · simp
    · rename_i hlarge
      cases k with
      | zero => omega
      | succ k =>
        have hrest := ih (n := n / 16) (Nat.succ_pos k) (by omega)
        rw [List.length_append, List.length_singleton]
        omega

theorem isOctet_digits {n : Nat} (h : n ≤ 255) : IsOctet false (digits n) n where
  nonempty := Text.digits_ne_nil n
  short := length_digits_le (by decide) (by omega)
  digits := List.all_eq_true.2 fun _ hc => Text.isDigit_of_mem_digits hc
  value := Text.ofDigits_digits n
  small := h
  plain := by
    by_cases hzero : (digits n).head? = some '0'
    · -- A leading zero is the only digit.
      obtain ⟨rest, hdigits⟩ : ∃ rest, digits n = '0' :: rest := by
        cases hcases : digits n with
        | nil => exact absurd hcases (Text.digits_ne_nil n)
        | cons c rest =>
          rw [hcases] at hzero
          exact ⟨rest, by rw [Option.some.inj hzero]⟩
      have hn := Text.eq_zero_of_digits_head hdigits
      exact .inr (.inr (by rw [hn, digits]; rfl))
    · exact .inr (.inl hzero)

theorem isQuad_renderQuad (bits : BitVec 32) :
    IsQuad false (IpAddress.renderQuad (octets bits)) (octets bits) := by
  have hoctet (start : Nat) := isOctet_digits (Nat.le_of_lt_succ (bits.extractLsb' start 8).isLt)
  exact .octets (hoctet 24) (hoctet 16) (hoctet 8) (hoctet 0)

theorem isGroup_hexDigits {n : Nat} (h : n < 0x10000) : IsGroup (hexDigits n) n where
  nonempty := Text.hexDigits_ne_nil n
  short := length_hexDigits_le (by decide) (by omega)
  digits := List.all_eq_true.2 fun _ hc => Text.isHexDigit_of_mem_hexDigits hc
  value := Text.ofHexDigits_hexDigits n

theorem isGroups_renderGroups {padded tail : Bool} {parts : List Nat} (hne : parts ≠ [])
    (h : ∀ part ∈ parts, part < 0x10000) :
    IsGroups padded tail (IpAddress.renderGroups parts) parts := by
  induction parts with
  | nil => exact absurd rfl hne
  | cons part rest ih =>
    obtain ⟨hpart, hrest⟩ := List.forall_mem_cons.1 h
    by_cases hlast : rest = []
    · subst hlast
      exact .last (isGroup_hexDigits hpart)
    · have hpieces : rest.map hexDigits ≠ [] := by simpa using hlast
      rw [IpAddress.renderGroups, List.map_cons, Text.joinWith_cons _ hpieces]
      exact .cons (isGroup_hexDigits hpart) (ih hlast hrest)

theorem isSide_renderGroups {padded tail : Bool} {parts : List Nat}
    (h : ∀ part ∈ parts, part < 0x10000) :
    IsSide padded tail (IpAddress.renderGroups parts) parts := by
  by_cases hnone : parts = []
  · subst hnone
    exact .inl ⟨rfl, rfl⟩
  · exact .inr (isGroups_renderGroups hnone h)

namespace IpAddress

theorem exists_eq_append_zeroRun (parts : List Nat) :
    ∃ after, parts = List.replicate (zeroRun parts) 0 ++ after := by
  refine ⟨parts.dropWhile (· = 0), ?_⟩
  have hzeros : parts.takeWhile (· = 0) = List.replicate (zeroRun parts) 0 := by
    rw [zeroRun, List.eq_replicate_iff]
    exact ⟨rfl, fun part hpart => by simpa using List.all_eq_true.1 List.all_takeWhile part hpart⟩
  rw [← hzeros, List.takeWhile_append_dropWhile]

theorem exists_eq_append_longestZeroRun (parts : List Nat) :
    ∃ before after, parts = before ++ List.replicate (longestZeroRun parts).2 0 ++ after
      ∧ before.length = (longestZeroRun parts).1 := by
  induction parts with
  | nil => exact ⟨[], [], rfl, rfl⟩
  | cons part rest ih =>
    rw [longestZeroRun]
    dsimp only
    split
    · obtain ⟨after, hafter⟩ := exists_eq_append_zeroRun (part :: rest)
      exact ⟨[], after, hafter, rfl⟩
    · obtain ⟨before, after, hrest, hlength⟩ := ih
      exact ⟨part :: before, after,
        by rw [List.cons_append, List.cons_append, ← hrest], by rw [List.length_cons, hlength]⟩

/-! ### Texts -/

theorem isEightGroups_renderV6 {bits : BitVec 128} (h : mapped? bits = none) :
    IsEightGroups false 1 (renderV6 bits) (groups bits) := by
  have hsmall : ∀ part ∈ groups bits, part < 0x10000 := by
    intro part hpart
    obtain ⟨start, -, rfl⟩ := List.mem_map.1 hpart
    exact (bits.extractLsb' start 16).isLt
  have height : (groups bits).length = 8 := rfl
  simp only [renderV6, h]
  generalize groups bits = parts at hsmall height
  split
  · rename_i hlong
    obtain ⟨before, after, hparts, hplace⟩ := exists_eq_append_longestZeroRun parts
    generalize longestZeroRun parts = run at hlong hparts hplace
    obtain ⟨place, length⟩ := run
    dsimp only at hlong hparts hplace ⊢
    subst hparts hplace
    simp only [List.length_append, List.length_replicate] at height
    simp only [List.forall_mem_append] at hsmall
    obtain ⟨⟨hbefore, -⟩, hafter⟩ := hsmall
    have htake : (before ++ List.replicate length 0 ++ after).take before.length = before := by simp
    have hdrop :
        (before ++ List.replicate length 0 ++ after).drop (before.length + length) = after := by
      rw [List.drop_append_of_le_length (by simp)]
      simp
    have hzeros : 8 - before.length - after.length = length := by omega
    have hgroups : IsEightGroups false 1 (renderGroups before ++ ':' :: ':' :: renderGroups after)
        (before ++ List.replicate (8 - before.length - after.length) 0 ++ after) :=
      .compressed (isSide_renderGroups hbefore) (isSide_renderGroups hafter) (by omega) (by omega)
    rw [htake, hdrop]
    rwa [hzeros] at hgroups
  · have hne : parts ≠ [] := by
      rintro rfl
      cases height
    exact .full (isGroups_renderGroups hne hsmall) height

theorem isEightGroups_renderV6_mapped {bits : BitVec 128} {inner : BitVec 32}
    (h : mapped? bits = some inner) :
    IsEightGroups false 1 (renderV6 bits)
      (List.replicate 5 0 ++ 0xFFFF :: quadGroups (octets inner)) := by
  have hmark : IsGroup ['f', 'f', 'f', 'f'] 0xFFFF := ⟨by decide, by decide, by decide, by decide⟩
  have hafter :
      IsSide false true (['f', 'f', 'f', 'f'] ++ ':' :: renderQuad (octets inner))
        (0xFFFF :: quadGroups (octets inner)) :=
    .inr (.cons hmark (.quad rfl (isQuad_renderQuad inner)))
  simp only [renderV6, h]
  exact .compressed (.inl ⟨rfl, rfl⟩) hafter (by decide) (by simp [quadGroups, octets])

/-- The canonical text of an address is a text of the address. -/
theorem isAddress_render (address : IpAddress) : IsAddress address.render.toList address := by
  cases address with
  | v4 bits =>
    have hword : ofOctets (octets bits)
        = .v4 bits := by rw [ofOctets, joinParts_octets, BitVec.ofNat_toNat, BitVec.setWidth_eq]
    have hquad := IsAddress.v4 (isQuad_renderQuad bits)
    rw [hword] at hquad
    rwa [render, String.toList_ofList]
  | v6 bits =>
    have hword {parts : List Nat} (hjoin : joinParts 16 parts = bits.toNat) :
        ofGroups parts = .v6 bits := by
      rw [ofGroups, hjoin, BitVec.ofNat_toNat, BitVec.setWidth_eq]
    rw [render, String.toList_ofList]
    cases hmapped : mapped? bits with
    | none =>
      have hgroups := IsAddress.v6 (isEightGroups_renderV6 hmapped)
      rwa [hword (joinParts_groups bits)] at hgroups
    | some inner =>
      have hgroups := IsAddress.v6 (isEightGroups_renderV6_mapped hmapped)
      rwa [hword (joinParts_mapped hmapped)] at hgroups

theorem isHexDigit_of_isBlank {c : Char} (h : Text.isBlank c = true) :
    Text.isHexDigit c = false := by
  have hdigit : c.isDigit = (decide (48 ≤ c.toNat) && decide (c.toNat ≤ 57)) := rfl
  have hlower : ('a' ≤ c ∧ c ≤ 'f') ↔ 97 ≤ c.toNat ∧ c.toNat ≤ 102 := Iff.rfl
  have hupper : ('A' ≤ c ∧ c ≤ 'F') ↔ 65 ≤ c.toNat ∧ c.toNat ≤ 70 := Iff.rfl
  simp only [Text.isBlank, Bool.or_eq_true, Bool.and_eq_true, decide_eq_true_eq, beq_iff_eq] at h
  simp only [Text.isHexDigit, Text.hexValue?, hdigit, hlower, hupper, Bool.and_eq_true,
    decide_eq_true_eq]
  rw [if_neg (by omega), if_neg (by omega), if_neg (by omega)]
  rfl

theorem trimChars_of_isAddress {s : List Char} {address : IpAddress} (h : IsAddress s address) :
    Text.trimChars s = s := by
  refine Text.trimChars_eq_self fun c hc => Bool.eq_false_iff.2 fun hblank => ?_
  have hdot : c ≠ '.' := by
    rintro rfl
    cases hblank
  have hcolon : c ≠ ':' := by
    rintro rfl
    cases hblank
  exact h.not_mem (isHexDigit_of_isBlank hblank) hdot hcolon hc

/-- The canonical text of an address is read as the address. -/
theorem parse?_render (address : IpAddress) : parse? address.render = some address := by
  have haddress := isAddress_render address
  have hbracket : address.render.toList.head? ≠ some '[' := fun hhead =>
    haddress.not_mem (c := '[') (by decide) (by decide) (by decide) (List.mem_of_head? hhead)
  rw [parse?, trimChars_of_isAddress haddress, unbracket_eq_self hbracket, ofChars?_eq_some_iff]
  exact haddress

end IpAddress

end RequestGuard.Net
