import RequestGuard.Proofs.Text.Utf8
import RequestGuard.Text.Form

/-!
# Form encoding is read back

A byte of a name or a value is written as itself, as a plus sign or as a triple, and is read off
what it is written as, whatever follows (`decode_encodeByte`). The plus signs are read before the
triples, so a plus sign that a triple writes is not taken for a space. None of the characters with
which names and values are written separates them (`isWritten`), so a query string is cut where it
was put together: reading it gives the pairs in their order (`parse_serialize`).
-/

namespace RequestGuard

namespace Utf8

theorem decodeLossy_encode (s : List Char) : decodeLossy (encode s) = s := by
  rw [decodeLossy, scan_encode, List.map_map]
  exact List.map_id s

end Utf8

namespace Percent

theorem toNat_hexDigitUpper_lt {n : Nat} (h : n < 16) : (Text.hexDigitUpper n).toNat < 0x80 := by
  revert n
  decide

theorem hexByte?_hexDigitUpper {n : Nat} (h : n < 16) :
    hexByte? (UInt8.ofNat (Text.hexDigitUpper n).toNat) = some n := by
  revert n
  decide

theorem decode_encodeByte (b : UInt8) (rest : List UInt8) :
    decode (Utf8.encode (encodeByte b) ++ rest) = b :: decode rest := by
  have hb := b.toNat_lt
  have hhigh : b.toNat / 16 < 16 := by omega
  have hlow : b.toNat % 16 < 16 := by omega
  have hbytes : Utf8.encode (encodeByte b)
      = [0x25, UInt8.ofNat (Text.hexDigitUpper (b.toNat / 16)).toNat,
        UInt8.ofNat (Text.hexDigitUpper (b.toNat % 16)).toNat] := by
    rw [encodeByte, Utf8.encode_cons_of_lt (by decide),
      Utf8.encode_cons_of_lt (toNat_hexDigitUpper_lt hhigh),
      Utf8.encode_cons_of_lt (toNat_hexDigitUpper_lt hlow)]
    rfl
  have hvalue : UInt8.ofNat (b.toNat / 16 * 16 + b.toNat % 16) = b := by
    rw [Nat.div_add_mod', UInt8.ofNat_toNat]
  rw [hbytes]
  simp only [List.cons_append, List.nil_append]
  rw [decode, if_pos rfl]
  simp only [hexByte?_hexDigitUpper hhigh, hexByte?_hexDigitUpper hlow, hvalue]

end Percent

namespace Form

/-- The characters with which names and values are written. -/
def isWritten (c : Char) : Bool := c.isAlphanum || ['*', '-', '.', '_', '+', '%'].contains c

/-- What a written character stands for if it is no part of a triple. -/
def readPlus (c : Char) : Char := if c = '+' then ' ' else c

theorem decodeComponent_eq (s : List Char) :
    decodeComponent s = Utf8.decodeLossy (Percent.decode (Utf8.encode (s.map readPlus))) := rfl

theorem isWritten_hexDigitUpper {n : Nat} (h : n < 16) :
    isWritten (Text.hexDigitUpper n) = true := by
  revert n
  decide

theorem readPlus_hexDigitUpper {n : Nat} (h : n < 16) :
    readPlus (Text.hexDigitUpper n) = Text.hexDigitUpper n := by
  revert n
  decide

theorem of_isPlain {b : UInt8} (h : isPlain b = true) :
    b.toNat < 0x80 ∧ b ≠ 0x25 ∧ isWritten (Char.ofNat b.toNat) = true
      ∧ readPlus (Char.ofNat b.toNat) = Char.ofNat b.toNat := by
  have hall : ∀ n : Fin 256, isPlain (UInt8.ofNat n) = true → n.val < 0x80 ∧ UInt8.ofNat n ≠ 0x25
      ∧ isWritten (Char.ofNat n) = true ∧ readPlus (Char.ofNat n) = Char.ofNat n := by
    decide +kernel
  have hb := hall ⟨b.toNat, b.toNat_lt⟩
  rw [UInt8.ofNat_toNat] at hb
  exact hb h

theorem isWritten_of_mem_encodeByte {b : UInt8} {c : Char} (h : c ∈ encodeByte b) :
    isWritten c = true := by
  have hb := b.toNat_lt
  unfold encodeByte at h
  split at h
  · rename_i hplain
    rw [List.mem_singleton.1 h]
    exact (of_isPlain hplain).2.2.1
  split at h
  · rw [List.mem_singleton.1 h]
    decide
  · simp only [Percent.encodeByte, List.mem_cons, List.not_mem_nil, or_false] at h
    obtain rfl | rfl | rfl := h
    · decide
    · exact isWritten_hexDigitUpper (by omega)
    · exact isWritten_hexDigitUpper (by omega)

theorem decode_encodeByte (b : UInt8) (rest : List UInt8) :
    Percent.decode (Utf8.encode ((encodeByte b).map readPlus) ++ rest)
      = b :: Percent.decode rest := by
  have hb := b.toNat_lt
  unfold encodeByte
  split
  · rename_i hplain
    obtain ⟨hascii, hpercent, -, hplus⟩ := of_isPlain hplain
    have hpoint : (Char.ofNat b.toNat).toNat = b.toNat := Text.toNat_ofNat (.inl (by omega))
    rw [List.map_singleton, hplus, Utf8.encode_cons_of_lt (by omega), hpoint, UInt8.ofNat_toNat]
    exact Percent.decode_cons_of_ne hpercent rest
  split
  · rename_i hspace
    rw [hspace]
    exact Percent.decode_cons_of_ne (by decide) rest
  · have hmap : (Percent.encodeByte b).map readPlus = Percent.encodeByte b := by
      simp only [Percent.encodeByte, List.map_cons, List.map_nil,
        readPlus_hexDigitUpper (n := b.toNat / 16) (by omega),
        readPlus_hexDigitUpper (n := b.toNat % 16) (by omega)]
      rfl
    rw [hmap, Percent.decode_encodeByte]

theorem decode_encodeBytes (bytes : List UInt8) :
    Percent.decode (Utf8.encode ((bytes.flatMap encodeByte).map readPlus)) = bytes := by
  induction bytes with
  | nil => rfl
  | cons b rest ih =>
    rw [List.flatMap_cons, List.map_append, Utf8.encode_append, decode_encodeByte, ih]

theorem decodeComponent_encodeComponent (s : List Char) :
    decodeComponent (encodeComponent s) = s := by
  rw [decodeComponent_eq, encodeComponent, decode_encodeBytes, Utf8.decodeLossy_encode]

theorem isWritten_of_mem_encodeComponent {s : List Char} {c : Char} (h : c ∈ encodeComponent s) :
    isWritten c = true := by
  obtain ⟨b, -, hc⟩ := List.mem_flatMap.1 h
  exact isWritten_of_mem_encodeByte hc

theorem not_mem_encodeComponent {c : Char} (h : isWritten c = false) (s : List Char) :
    c ∉ encodeComponent s := by
  intro hc
  rw [isWritten_of_mem_encodeComponent hc] at h
  cases h

theorem decodePair_encodePair (pair : String × String) : decodePair (encodePair pair) = pair := by
  have hname : '=' ∉ encodeComponent pair.1.toList := not_mem_encodeComponent (by decide) _
  rw [decodePair, encodePair, Text.splitOnce?_append _ hname, Option.getD_some]
  simp only [decodeComponent_encodeComponent, String.ofList_toList]

theorem encodePair_ne_nil (pair : String × String) : encodePair pair ≠ [] :=
  List.append_ne_nil_of_right_ne_nil _ (List.cons_ne_nil _ _)

theorem not_mem_encodePair {c : Char} (hc : isWritten c = false) (hequals : c ≠ '=')
    (pair : String × String) :
    c ∉ encodePair pair := by
  rw [encodePair, List.mem_append, List.mem_cons]
  rintro (h | rfl | h)
  · exact not_mem_encodeComponent hc _ h
  · exact hequals rfl
  · exact not_mem_encodeComponent hc _ h

/-- Pairs are read back in their order, whatever is in them. -/
theorem parse_serialize (pairs : List (String × String)) : parse (serialize pairs) = pairs := by
  cases pairs with
  | nil => rfl
  | cons first rest =>
    have hpieces : ∀ piece ∈ (first :: rest).map encodePair, '&' ∉ piece := by
      intro piece hpiece
      obtain ⟨pair, -, rfl⟩ := List.mem_map.1 hpiece
      exact not_mem_encodePair (by decide) (by decide) pair
    have hfilled : ((first :: rest).map encodePair).filter (fun piece => !piece.isEmpty)
        = (first :: rest).map encodePair := by
      rw [List.filter_eq_self]
      intro piece hpiece
      obtain ⟨pair, -, rfl⟩ := List.mem_map.1 hpiece
      simpa using encodePair_ne_nil pair
    rw [parse, serialize, Text.splitOn_joinWith (by simp) hpieces, hfilled, List.map_map]
    exact (List.map_congr_left fun pair _ => decodePair_encodePair pair).trans (List.map_id _)

theorem number_sign_not_mem_serialize (pairs : List (String × String)) : '#' ∉ serialize pairs := by
  intro h
  obtain h | ⟨piece, hpiece, h⟩ := Text.mem_joinWith h
  · exact absurd h (by decide)
  · obtain ⟨pair, -, rfl⟩ := List.mem_map.1 hpiece
    exact not_mem_encodePair (by decide) (by decide) pair h

end Form

end RequestGuard
