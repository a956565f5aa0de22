import RequestGuard.Net.SocketAddress
import RequestGuard.Proofs.Net.Grammar

/-!
# The grammar of socket addresses

A socket address is an address and a port: a dotted quad and the port after a colon, or an IPv6
address in brackets, in which a zone may follow it, and then the port. The reader accepts exactly
these texts, and none of them is the text of an address alone, with or without brackets
(`IsSocketAddress.not_isAddress`).
-/

namespace RequestGuard.Net

open Text (ofDigits)

/-- Decimal digits that write a number below a limit, with leading zeros or without. -/
structure IsBelow (limit : Nat) (s : List Char) (n : Nat) : Prop where
  nonempty : s ≠ []
  digits : s.all Char.isDigit = true
  value : ofDigits s = n
  small : n < limit

/-- An IPv6 address, which a zone may follow. -/
inductive IsZoned : List Char → IpAddress → Prop where
  | plain {s : List Char} {parts : List Nat} : IsEightGroups false 1 s parts →
      IsZoned s (.ofGroups parts)
  | zone {s zone : List Char} {parts : List Nat} {n : Nat} : IsEightGroups false 1 s parts →
      IsBelow 0x100000000 zone n →
      IsZoned (s ++ '%' :: zone) (.ofGroups parts)

/-- An address and a port. -/
inductive IsSocketAddress : List Char → SocketAddress → Prop where
  | v4 {s port : List Char} {parts : List Nat} {n : Nat} : IsQuad false s parts →
      IsBelow 0x10000 port n →
      IsSocketAddress (s ++ ':' :: port) ⟨.ofOctets parts, n⟩
  | v6 {s port : List Char} {ip : IpAddress} {n : Nat} : IsZoned s ip → IsBelow 0x10000 port n →
      IsSocketAddress ('[' :: (s ++ ']' :: ':' :: port)) ⟨ip, n⟩

theorem readBelow?_eq_some_iff {limit : Nat} {s : List Char} {n : Nat} :
    readBelow? limit s = some n ↔ IsBelow limit s n := by
  unfold readBelow?
  constructor
  · intro h
    cases hread : Text.readDigits? s with
    | none => simp [hread] at h
    | some m =>
      simp only [hread, Option.ite_none_right_eq_some, Option.some.injEq] at h
      obtain ⟨hsmall, rfl⟩ := h
      obtain ⟨hne, hdigits, hvalue⟩ := Text.readDigits?_eq_some_iff.1 hread
      exact ⟨hne, hdigits, hvalue, hsmall⟩
  · intro h
    rw [Text.readDigits?_eq_some_iff.2 ⟨h.nonempty, h.digits, h.value⟩]
    exact if_pos h.small

theorem IsBelow.not_mem {limit : Nat} {s : List Char} {n : Nat} (h : IsBelow limit s n) {c : Char}
    (hc : c.isDigit = false) : c ∉ s := by
  intro hmem
  have hdigit := List.all_eq_true.1 h.digits c hmem
  rw [hc] at hdigit
  cases hdigit

theorem IsZoned.bracket_not_mem {s : List Char} {ip : IpAddress} (h : IsZoned s ip) : ']' ∉ s := by
  cases h with
  | plain hgroups => exact hgroups.not_mem (by decide) (by decide) (by decide)
  | zone hgroups hzone =>
    have hinner := hgroups.not_mem (c := ']') (by decide) (by decide) (by decide)
    simp [hinner, hzone.not_mem (c := ']') (by decide)]

namespace SocketAddress

theorem readZoned?_eq_some_iff {s : List Char} {ip : IpAddress} :
    readZoned? s = some ip ↔ IsZoned s ip := by
  constructor
  · intro h
    unfold readZoned? at h
    split at h
    · rename_i inner zone hsplit
      obtain ⟨rfl, -⟩ := Text.splitOnce?_eq_some hsplit
      obtain ⟨n, hzone, hread⟩ := Option.bind_eq_some_iff.1 h
      obtain ⟨parts, hgroups, rfl⟩ := Option.map_eq_some_iff.1 hread
      exact .zone (readGroups?_eq_some_iff.1 hgroups) (readBelow?_eq_some_iff.1 hzone)
    · obtain ⟨parts, hgroups, rfl⟩ := Option.map_eq_some_iff.1 h
      exact .plain (readGroups?_eq_some_iff.1 hgroups)
  · intro h
    cases h with
    | plain hgroups =>
      have hpercent := hgroups.not_mem (c := '%') (by decide) (by decide) (by decide)
      rw [readZoned?, Text.splitOnce?_eq_none hpercent, readGroups?_eq_some_iff.2 hgroups]
      rfl
    | zone hgroups hzone =>
      have hpercent := hgroups.not_mem (c := '%') (by decide) (by decide) (by decide)
      rw [readZoned?, Text.splitOnce?_append _ hpercent]
      simp only [readBelow?_eq_some_iff.2 hzone, readGroups?_eq_some_iff.2 hgroups,
        Option.bind_some, Option.map_some]

/-- The reader of socket addresses accepts what the grammar writes. -/
theorem ofChars?_eq_some_iff {s : List Char} {address : SocketAddress} :
    ofChars? s = some address ↔ IsSocketAddress s address := by
  constructor
  · intro h
    unfold ofChars? at h
    split at h
    · split at h
      · rename_i inner port hsplit
        obtain ⟨rfl, -⟩ := Text.splitOnce?_eq_some hsplit
        obtain ⟨ip, hip, hread⟩ := Option.bind_eq_some_iff.1 h
        obtain ⟨n, hport, rfl⟩ := Option.map_eq_some_iff.1 hread
        exact .v6 (readZoned?_eq_some_iff.1 hip) (readBelow?_eq_some_iff.1 hport)
      · cases h
    · split at h
      · rename_i quad port hsplit
        obtain ⟨rfl, -⟩ := Text.splitOnce?_eq_some hsplit
        obtain ⟨parts, hquad, hread⟩ := Option.bind_eq_some_iff.1 h
        obtain ⟨n, hport, rfl⟩ := Option.map_eq_some_iff.1 hread
        exact .v4 (readQuad?_eq_some_iff.1 hquad) (readBelow?_eq_some_iff.1 hport)
      · cases h
  · intro h
    cases h with
    | v4 hquad hport =>
      have hcolon := hquad.not_mem (c := ':') (by decide) (by decide)
      have hbracket := hquad.not_mem (c := '[') (by decide) (by decide)
      rw [ofChars?]
      · simp only [Text.splitOnce?_append _ hcolon, readQuad?_eq_some_iff.2 hquad,
          readBelow?_eq_some_iff.2 hport, Option.bind_some, Option.map_some]
      · -- The text does not begin with a bracket.
        intro rest heq
        obtain ⟨c, more, hmore⟩ := List.exists_cons_of_ne_nil (List.ne_nil_of_mem hquad.dot_mem)
        rw [hmore, List.cons_append] at heq
        exact hbracket (by simp [hmore, (List.cons.inj heq).1])
    | v6 hzoned hport =>
      rw [ofChars?, Text.splitOnce?_append _ hzoned.bracket_not_mem]
      simp only [readZoned?_eq_some_iff.2 hzoned, readBelow?_eq_some_iff.2 hport,
        Option.bind_some, Option.map_some]

end SocketAddress

theorem IsSocketAddress.not_isAddress {s : List Char} {socket : SocketAddress}
    (h : IsSocketAddress s socket) (address : IpAddress) :
    ¬ IsAddress (IpAddress.unbracket s) address := by
  cases h with
  | @v4 quad port parts n hquad hport =>
    have hcount : (quad ++ ':' :: port).count ':' = 1 := by
      rw [List.count_append, List.count_cons_self,
        List.count_eq_zero.2 (hquad.not_mem (by decide) (by decide)),
        List.count_eq_zero.2 (hport.not_mem (by decide))]
    have hbracket : (quad ++ ':' :: port).head? ≠ some '[' := by
      intro hhead
      have hmem : '[' ∈ quad ++ ':' :: port := List.mem_of_head? hhead
      simp [hquad.not_mem (c := '[') (by decide) (by decide),
        hport.not_mem (c := '[') (by decide)] at hmem
    rw [IpAddress.unbracket_eq_self hbracket]
    intro haddress
    cases haddress with
    | v4 hwhole => exact hwhole.not_mem (c := ':') (by decide) (by decide) (by simp)
    | v6 hgroups =>
      have htwo := hgroups.two_le_count
      omega
  | @v6 inner port ip n hzoned hport =>
    -- The text ends with a digit, so its bracket stays.
    have hkept : IpAddress.unbracket ('[' :: (inner ++ ']' :: ':' :: port))
        = '[' :: (inner ++ ']' :: ':' :: port) := by
      obtain ⟨last, front, hreverse⟩ :=
        List.exists_cons_of_ne_nil (List.reverse_ne_nil_iff.2 hport.nonempty)
      have hlast : last ≠ ']' := by
        rintro rfl
        refine hport.not_mem (c := ']') (by decide) ?_
        rw [← List.mem_reverse, hreverse]
        exact List.mem_cons_self
      simp only [IpAddress.unbracket, List.reverse_append, List.reverse_cons,
        hreverse, List.cons_append]
      split
      · rename_i heq
        exact absurd (List.cons.inj heq).1 hlast
      · rfl
    rw [hkept]
    exact fun haddress => haddress.not_mem (c := '[') (by decide) (by decide) (by decide) (by simp)

end RequestGuard.Net
