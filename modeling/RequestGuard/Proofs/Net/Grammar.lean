import RequestGuard.Net.Network

/-!
# The grammar of addresses and networks

The texts that write an address or a network, as rules: a dotted quad is four octets, an IPv6
address is eight groups between colons, or fewer with one double colon, and a quad may stand for the
last two groups. Before a slash the rules are the same but for two points, which are parameters:
octets may be `padded` with zeros, and a double colon stands for at least `gap` groups.

The readers accept exactly these texts and give the values that the rules give.
-/

namespace RequestGuard.Net

open Text (ofDigits ofHexDigits isHexDigit splitOn splitOnce? joinWith)

/-- One to `width` decimal digits that write a number of at most `limit`. -/
structure IsDecimal (width limit : Nat) (s : List Char) (n : Nat) : Prop where
  nonempty : s ≠ []
  short : s.length ≤ width
  digits : s.all Char.isDigit = true
  value : ofDigits s = n
  small : n ≤ limit

/-- An octet, which begins with a zero only if it is a single digit or may be `padded`. -/
structure IsOctet (padded : Bool) (s : List Char) (n : Nat) : Prop extends IsDecimal 3 255 s n where
  plain : padded = true ∨ s.head? ≠ some '0' ∨ s.length = 1

/-- Four octets with dots between them. -/
inductive IsQuad (padded : Bool) : List Char → List Nat → Prop where
  | octets {a b c d : List Char} {w x y z : Nat} : IsOctet padded a w → IsOctet padded b x →
      IsOctet padded c y → IsOctet padded d z →
      IsQuad padded (a ++ '.' :: (b ++ '.' :: (c ++ '.' :: d))) [w, x, y, z]

/-- A group: one to four hexadecimal digits. -/
structure IsGroup (s : List Char) (n : Nat) : Prop where
  nonempty : s ≠ []
  short : s.length ≤ 4
  digits : s.all isHexDigit = true
  value : ofHexDigits s = n

/-- Groups with colons between them. If `tail` holds, the last one may be a quad. -/
inductive IsGroups (padded tail : Bool) : List Char → List Nat → Prop where
  | last {s : List Char} {n : Nat} : IsGroup s n → IsGroups padded tail s [n]
  | quad {s : List Char} {parts : List Nat} : tail = true → IsQuad padded s parts →
      IsGroups padded tail s (quadGroups parts)
  | cons {s rest : List Char} {n : Nat} {parts : List Nat} : IsGroup s n →
      IsGroups padded tail rest parts →
      IsGroups padded tail (s ++ ':' :: rest) (n :: parts)

/-- Groups on one side of a double colon, of which there may be none. -/
def IsSide (padded tail : Bool) (s : List Char) (parts : List Nat) : Prop :=
  (s = [] ∧ parts = []) ∨ IsGroups padded tail s parts

/-- Eight groups, or fewer with a double colon for the missing zeros. -/
inductive IsEightGroups (padded : Bool) (gap : Nat) : List Char → List Nat → Prop where
  | full {s : List Char} {parts : List Nat} : IsGroups padded true s parts → parts.length = 8 →
      IsEightGroups padded gap s parts
  | compressed {before after : List Char} {head tail : List Nat} : IsSide padded false before head →
      IsSide padded true after tail → head.length ≤ 7 → head.length + gap + tail.length ≤ 8 →
      IsEightGroups padded gap (before ++ ':' :: ':' :: after)
        (head ++ List.replicate (8 - head.length - tail.length) 0 ++ tail)

/-- The text of an address. -/
inductive IsAddress : List Char → IpAddress → Prop where
  | v4 {s : List Char} {parts : List Nat} : IsQuad false s parts → IsAddress s (.ofOctets parts)
  | v6 {s : List Char} {parts : List Nat} : IsEightGroups false 1 s parts →
      IsAddress s (.ofGroups parts)

/-- An address, a slash and a number of leading bits. -/
inductive IsSubnet : List Char → IpAddress → Nat → Prop where
  | v4 {s length : List Char} {parts : List Nat} {n : Nat} : IsQuad true s parts →
      IsDecimal 2 32 length n →
      IsSubnet (s ++ '/' :: length) (.ofOctets parts) n
  | v6 {s length : List Char} {parts : List Nat} {n : Nat} : IsEightGroups true 0 s parts →
      IsDecimal 3 128 length n → IsSubnet (s ++ '/' :: length) (.ofGroups parts) n

/-! ### Numbers and quads -/

theorem readLength?_eq_some_iff {width limit : Nat} {s : List Char} {n : Nat} :
    Network.readLength? width limit s = some n ↔ IsDecimal width limit s n := by
  unfold Network.readLength?
  constructor
  · intro h
    split at h
    · rename_i hshort
      cases hread : Text.readDigits? s with
      | none => simp [hread] at h
      | some m =>
        simp only [hread, Option.ite_none_right_eq_some, Option.some.injEq] at h
        obtain ⟨hsmall, rfl⟩ := h
        obtain ⟨hne, hdigits, hvalue⟩ := Text.readDigits?_eq_some_iff.1 hread
        exact ⟨hne, hshort, hdigits, hvalue, hsmall⟩
    · cases h
  · intro h
    rw [if_pos h.short, Text.readDigits?_eq_some_iff.2 ⟨h.nonempty, h.digits, h.value⟩]
    exact if_pos h.small

theorem readOctet?_eq_some_iff {padded : Bool} {s : List Char} {n : Nat} :
    readOctet? padded s = some n ↔ IsOctet padded s n := by
  unfold readOctet?
  constructor
  · intro h
    split at h
    · rename_i hform
      cases hread : Text.readDigits? s with
      | none => simp [hread] at h
      | some m =>
        simp only [hread, Option.ite_none_right_eq_some, Option.some.injEq] at h
        obtain ⟨hsmall, rfl⟩ := h
        obtain ⟨hne, hdigits, hvalue⟩ := Text.readDigits?_eq_some_iff.1 hread
        exact ⟨⟨hne, hform.1, hdigits, hvalue, hsmall⟩, hform.2⟩
    · cases h
  · intro h
    rw [if_pos ⟨h.short, h.plain⟩, Text.readDigits?_eq_some_iff.2 ⟨h.nonempty, h.digits, h.value⟩]
    exact if_pos h.small

theorem IsDecimal.not_mem {width limit : Nat} {s : List Char} {n : Nat}
    (h : IsDecimal width limit s n) {c : Char} (hc : c.isDigit = false) : c ∉ s := by
  intro hmem
  have hdigit := List.all_eq_true.1 h.digits c hmem
  rw [hc] at hdigit
  cases hdigit

theorem IsQuad.not_mem {padded : Bool} {s : List Char} {parts : List Nat}
    (h : IsQuad padded s parts) {c : Char} (hdigit : c.isDigit = false)
    (hdot : c ≠ '.') : c ∉ s := by
  obtain ⟨ha, hb, hc, hd⟩ := h
  simp [ha.not_mem hdigit, hb.not_mem hdigit, hc.not_mem hdigit, hd.not_mem hdigit, hdot]

private theorem mapM_cons_eq_some {f : List Char → Option Nat} {piece : List Char}
    {pieces : List (List Char)} {parts : List Nat} (h : (piece :: pieces).mapM f = some parts) :
    ∃ part rest, f piece = some part ∧ pieces.mapM f = some rest ∧ parts = part :: rest := by
  simp only [List.mapM_cons, Option.bind_eq_bind, Option.bind_eq_some_iff, Option.pure_def,
    Option.some.injEq] at h
  obtain ⟨part, hpart, rest, hrest, rfl⟩ := h
  exact ⟨part, rest, hpart, hrest, rfl⟩

private theorem length_of_mapM {f : List Char → Option Nat} {pieces : List (List Char)}
    {parts : List Nat} (h : pieces.mapM f = some parts) : pieces.length = parts.length := by
  induction pieces generalizing parts with
  | nil =>
    obtain rfl : [] = parts := Option.some.inj h
    rfl
  | cons piece pieces ih =>
    obtain ⟨part, rest, _, hrest, rfl⟩ := mapM_cons_eq_some h
    simp [ih hrest]

theorem readQuad?_eq_some_iff {padded : Bool} {s : List Char} {parts : List Nat} :
    readQuad? padded s = some parts ↔ IsQuad padded s parts := by
  unfold readQuad?
  constructor
  · intro h
    have hjoin := Text.joinWith_splitOn '.' s
    generalize splitOn '.' s = pieces at h hjoin
    subst hjoin
    cases hread : pieces.mapM (readOctet? padded) with
    | none => simp [hread] at h
    | some values =>
      simp only [hread, Option.ite_none_right_eq_some, Option.some.injEq] at h
      obtain ⟨hlength, rfl⟩ := h
      have hfour := (length_of_mapM hread).trans hlength
      rcases pieces with _ | ⟨a, _ | ⟨b, _ | ⟨c, _ | ⟨d, _ | ⟨e, rest⟩⟩⟩⟩⟩ <;> simp at hfour
      obtain ⟨w, _, ha, hbcd, rfl⟩ := mapM_cons_eq_some hread
      obtain ⟨x, _, hb, hcd, rfl⟩ := mapM_cons_eq_some hbcd
      obtain ⟨y, _, hc, hlast, rfl⟩ := mapM_cons_eq_some hcd
      obtain ⟨z, _, hd, hnil, rfl⟩ := mapM_cons_eq_some hlast
      obtain rfl := Option.some.inj hnil
      exact .octets (readOctet?_eq_some_iff.1 ha) (readOctet?_eq_some_iff.1 hb)
        (readOctet?_eq_some_iff.1 hc)
        (readOctet?_eq_some_iff.1 hd)
  · rintro ⟨ha, hb, hc, hd⟩
    have hdot : Char.isDigit '.' = false := by decide
    rw [Text.splitOn_append _ (ha.not_mem hdot), Text.splitOn_append _ (hb.not_mem hdot),
      Text.splitOn_append _ (hc.not_mem hdot), Text.splitOn_eq_singleton (hd.not_mem hdot)]
    simp [readOctet?_eq_some_iff.2 ha, readOctet?_eq_some_iff.2 hb, readOctet?_eq_some_iff.2 hc,
      readOctet?_eq_some_iff.2 hd]

/-! ### Groups -/

theorem readGroup?_eq_some_iff {s : List Char} {n : Nat} : readGroup? s = some n ↔ IsGroup s n := by
  unfold readGroup?
  constructor
  · intro h
    simp only [Option.ite_none_right_eq_some, Option.some.injEq] at h
    obtain ⟨⟨hne, hshort, hdigits⟩, hvalue⟩ := h
    exact ⟨hne, hshort, hdigits, hvalue⟩
  · intro h
    rw [if_pos ⟨h.nonempty, h.short, h.digits⟩, h.value]

theorem IsGroup.not_mem {s : List Char} {n : Nat} (h : IsGroup s n) {c : Char}
    (hc : isHexDigit c = false) :
    c ∉ s := by
  intro hmem
  have hdigit := List.all_eq_true.1 h.digits c hmem
  rw [hc] at hdigit
  cases hdigit

theorem IsQuad.dot_mem {padded : Bool} {s : List Char} {parts : List Nat}
    (h : IsQuad padded s parts) : '.' ∈ s := by
  obtain ⟨ha, hb, hc, hd⟩ := h
  simp

theorem readPieces?_cons {padded tail : Bool} {pieces : List (List Char)} (piece : List Char)
    (h : pieces ≠ []) :
    readPieces? padded tail (piece :: pieces)
      = (readGroup? piece).bind fun group => (readPieces? padded tail pieces).map (group :: ·) := by
  cases pieces with
  | nil => exact absurd rfl h
  | cons next more => rfl

theorem IsGroups.of_readPieces? {padded tail : Bool} {pieces : List (List Char)} {parts : List Nat}
    (hne : pieces ≠ []) (h : readPieces? padded tail pieces = some parts) :
    IsGroups padded tail (joinWith ':' pieces) parts := by
  induction pieces generalizing parts with
  | nil => exact absurd rfl hne
  | cons piece pieces ih =>
    by_cases hlast : pieces = []
    · subst hlast
      rw [readPieces?] at h
      split at h
      · rename_i group hgroup
        obtain rfl := Option.some.inj h
        exact .last (readGroup?_eq_some_iff.1 hgroup)
      · split at h
        · rename_i htail
          obtain ⟨octets, hquad, rfl⟩ := Option.map_eq_some_iff.1 h
          exact .quad htail (readQuad?_eq_some_iff.1 hquad)
        · cases h
    · rw [readPieces?_cons piece hlast] at h
      obtain ⟨group, hgroup, hrest⟩ := Option.bind_eq_some_iff.1 h
      obtain ⟨rest, hread, rfl⟩ := Option.map_eq_some_iff.1 hrest
      rw [Text.joinWith_cons piece hlast]
      exact .cons (readGroup?_eq_some_iff.1 hgroup) (ih hlast hread)

theorem IsGroups.readPieces? {padded tail : Bool} {s : List Char} {parts : List Nat}
    (h : IsGroups padded tail s parts) : readPieces? padded tail (splitOn ':' s) = some parts := by
  have hcolon : isHexDigit ':' = false := by decide
  induction h with
  | last hgroup =>
    rw [Text.splitOn_eq_singleton (hgroup.not_mem hcolon), Net.readPieces?,
      readGroup?_eq_some_iff.2 hgroup]
  | quad htail hquad =>
    have hnone : ∀ s, '.' ∈ s → readGroup? s = none := by
      intro s hdot
      rw [Option.eq_none_iff_forall_ne_some]
      intro n hread
      exact (readGroup?_eq_some_iff.1 hread).not_mem (by decide) hdot
    rw [Text.splitOn_eq_singleton (hquad.not_mem (by decide) (by decide)), Net.readPieces?,
      hnone _ hquad.dot_mem]
    simp [htail, readQuad?_eq_some_iff.2 hquad]
  | cons hgroup hrest ih =>
    rw [Text.splitOn_append _ (hgroup.not_mem hcolon),
      readPieces?_cons _ (Text.splitOn_ne_nil ':' _), readGroup?_eq_some_iff.2 hgroup, ih]
    rfl

theorem readPieces?_splitOn_eq_some_iff {padded tail : Bool} {s : List Char} {parts : List Nat} :
    readPieces? padded tail (splitOn ':' s) = some parts ↔ IsGroups padded tail s parts := by
  refine ⟨fun h => ?_, IsGroups.readPieces?⟩
  have hgroups := IsGroups.of_readPieces? (Text.splitOn_ne_nil ':' s) h
  rwa [Text.joinWith_splitOn] at hgroups

theorem IsGroups.exists_cons {padded tail : Bool} {s : List Char} {parts : List Nat}
    (h : IsGroups padded tail s parts) : ∃ c rest, s = c :: rest ∧ c ≠ ':' := by
  have hfirst :
      ∀ {s : List Char} (more : List Char), s ≠ [] → ':' ∉ s →
        ∃ c rest, s ++ more = c :: rest ∧ c ≠ ':' := by
    intro s more hne hnot
    cases s with
    | nil => exact absurd rfl hne
    | cons c rest => exact ⟨c, rest ++ more, rfl, fun heq => hnot (heq ▸ List.mem_cons_self)⟩
  cases h with
  | last hgroup =>
    have hcolon := hgroup.not_mem (c := ':') (by decide)
    simpa using hfirst [] hgroup.nonempty hcolon
  | quad _ hquad =>
    have hcolon := hquad.not_mem (c := ':') (by decide) (by decide)
    simpa using hfirst [] (List.ne_nil_of_mem hquad.dot_mem) hcolon
  | cons hgroup _ => exact hfirst _ hgroup.nonempty (hgroup.not_mem (by decide))

theorem readSide?_eq_some_iff {padded tail : Bool} {s : List Char} {parts : List Nat} :
    readSide? padded tail s = some parts ↔ IsSide padded tail s parts := by
  unfold readSide? IsSide
  by_cases hs : s = []
  · rw [if_pos hs]
    constructor
    · intro h
      exact .inl ⟨hs, (Option.some.inj h).symm⟩
    · rintro (⟨_, rfl⟩ | hgroups)
      · rfl
      · obtain ⟨c, rest, hcons, _⟩ := hgroups.exists_cons
        rw [hs] at hcons
        cases hcons
  · rw [if_neg hs, readPieces?_splitOn_eq_some_iff]
    simp [hs]

/-! ### Addresses -/

theorem splitGap?_eq_some {s before after : List Char} (h : splitGap? s = some (before, after)) :
    s = before ++ ':' :: ':' :: after := by
  induction s using splitGap?.induct generalizing before with
  | case1 rest =>
    obtain ⟨rfl, rfl⟩ := Prod.mk.inj (Option.some.inj h)
    rfl
  | case2 c rest hgap ih =>
    rw [splitGap?] at h
    · obtain ⟨⟨before', after'⟩, hrest, heq⟩ := Option.map_eq_some_iff.1 h
      obtain ⟨rfl, rfl⟩ := Prod.mk.inj heq
      rw [ih hrest]
      rfl
    · exact hgap
  | case3 => cases h

theorem splitGap?_cons {c : Char} {rest : List Char} (h : c ≠ ':' ∨ rest.head? ≠ some ':') :
    splitGap? (c :: rest) = (splitGap? rest).map fun (before, after) => (c :: before, after) := by
  rw [splitGap?]
  rintro more rfl rfl
  simp at h

theorem splitGap?_append {piece : List Char} (rest : List Char) (h : ':' ∉ piece) :
    splitGap? (piece ++ rest) = (splitGap? rest).map
      fun (before, after) => (piece ++ before, after) := by
  induction piece with
  | nil => simp
  | cons c piece ih =>
    simp only [List.mem_cons, not_or] at h
    rw [List.cons_append, splitGap?_cons (.inl (Ne.symm h.1)), ih h.2, Option.map_map]
    rfl

/-- Groups hold no double colon, also where the text goes on. -/
theorem IsGroups.splitGap? {padded tail : Bool} {s : List Char} {parts : List Nat}
    (h : IsGroups padded tail s parts) (rest : List Char) :
    splitGap? (s ++ rest) = (splitGap? rest).map fun (before, after) => (s ++ before, after) := by
  induction h with
  | last hgroup => exact splitGap?_append rest (hgroup.not_mem (by decide))
  | quad _ hquad => exact splitGap?_append rest (hquad.not_mem (by decide) (by decide))
  | @cons s rest' n parts hgroup hrest ih =>
    obtain ⟨c, more, rfl, hc⟩ := hrest.exists_cons
    have hhead : (c :: more ++ rest).head? ≠ some ':' := by simp [hc]
    rw [List.append_assoc, splitGap?_append _ (hgroup.not_mem (by decide)), List.cons_append,
      splitGap?_cons (.inr hhead), ih]
    simp only [Option.map_map]
    congr 1
    funext ⟨before, after⟩
    simp

theorem IsSide.splitGap? {padded tail : Bool} {before : List Char} {head : List Nat}
    (h : IsSide padded tail before head) (after : List Char) :
    splitGap? (before ++ ':' :: ':' :: after) = some (before, after) := by
  rcases h with ⟨rfl, rfl⟩ | hgroups
  · rfl
  · rw [hgroups.splitGap?]
    simp [Net.splitGap?]

theorem readGroups?_eq_some_iff {padded : Bool} {gap : Nat} {s : List Char} {parts : List Nat} :
    readGroups? padded gap s = some parts ↔ IsEightGroups padded gap s parts := by
  constructor
  · intro h
    unfold readGroups? at h
    split at h
    · rename_i before after hgap
      obtain rfl := splitGap?_eq_some hgap
      split at h
      · rename_i head tail hhead htail
        simp only [Option.ite_none_right_eq_some, Option.some.injEq] at h
        obtain ⟨⟨hshort, hsum⟩, rfl⟩ := h
        exact .compressed (readSide?_eq_some_iff.1 hhead)
          (readSide?_eq_some_iff.1 htail) hshort hsum
      · cases h
    · split at h
      · rename_i hread
        simp only [Option.ite_none_right_eq_some, Option.some.injEq] at h
        obtain ⟨hlength, rfl⟩ := h
        exact .full (readPieces?_splitOn_eq_some_iff.1 hread) hlength
      · cases h
  · intro h
    cases h with
    | full hgroups hlength =>
      have hgap : Net.splitGap? s = none := by
        have hwhole := hgroups.splitGap? []
        simpa [Net.splitGap?] using hwhole
      rw [readGroups?, hgap, readPieces?_splitOn_eq_some_iff.2 hgroups]
      exact if_pos hlength
    | compressed hhead htail hshort hsum =>
      simp only [readGroups?, hhead.splitGap?, readSide?_eq_some_iff.2 hhead,
        readSide?_eq_some_iff.2 htail]
      exact if_pos ⟨hshort, hsum⟩

theorem IsGroups.length_le_count {padded tail : Bool} {s : List Char} {parts : List Nat}
    (h : IsGroups padded tail s parts) :
    parts.length ≤ s.count ':' + 2 := by
  induction h with
  | last => simp
  | quad _ hquad =>
    obtain ⟨_, _, _, _⟩ := hquad
    simp [quadGroups]
  | cons _ _ ih =>
    simp only [List.length_cons, List.count_append, List.count_cons_self]
    omega

theorem IsEightGroups.two_le_count {padded : Bool} {gap : Nat} {s : List Char} {parts : List Nat}
    (h : IsEightGroups padded gap s parts) : 2 ≤ s.count ':' := by
  cases h with
  | full hgroups hlength =>
    have hle := hgroups.length_le_count
    omega
  | compressed =>
    simp only [List.count_append, List.count_cons_self]
    omega

theorem IsEightGroups.readQuad? {padded : Bool} {gap : Nat} {s : List Char} {parts : List Nat}
    (h : IsEightGroups padded gap s parts) : readQuad? padded s = none := by
  rw [Option.eq_none_iff_forall_ne_some]
  intro octets hread
  have hcolon : ':' ∈ s := List.count_pos_iff.1 (Nat.lt_of_lt_of_le Nat.zero_lt_two h.two_le_count)
  exact (readQuad?_eq_some_iff.1 hread).not_mem (by decide) (by decide) hcolon

/-- The reader of addresses accepts what the grammar writes. -/
theorem IpAddress.ofChars?_eq_some_iff {s : List Char} {address : IpAddress} :
    IpAddress.ofChars? s = some address ↔ IsAddress s address := by
  constructor
  · intro h
    unfold IpAddress.ofChars? at h
    split at h
    · rename_i parts hread
      obtain rfl := Option.some.inj h
      exact .v4 (readQuad?_eq_some_iff.1 hread)
    · obtain ⟨parts, hread, rfl⟩ := Option.map_eq_some_iff.1 h
      exact .v6 (readGroups?_eq_some_iff.1 hread)
  · intro h
    cases h with
    | v4 hquad => rw [IpAddress.ofChars?, readQuad?_eq_some_iff.2 hquad]
    | v6 hgroups =>
      rw [IpAddress.ofChars?, hgroups.readQuad?, readGroups?_eq_some_iff.2 hgroups]
      rfl

theorem IpAddress.unbracket_eq_self {s : List Char} (h : s.head? ≠ some '[') :
    IpAddress.unbracket s = s := by
  unfold IpAddress.unbracket
  split
  · exact absurd rfl h
  · rfl

section

variable {padded tail : Bool} {s : List Char} {c : Char}

theorem IsGroups.not_mem {parts : List Nat} (h : IsGroups padded tail s parts)
    (hhex : isHexDigit c = false) (hdot : c ≠ '.') (hcolon : c ≠ ':') : c ∉ s := by
  have hdigit : c.isDigit = false := by
    rw [Bool.eq_false_iff]
    intro hdigit
    rw [Text.isHexDigit_of_isDigit hdigit] at hhex
    cases hhex
  induction h with
  | last hgroup => exact hgroup.not_mem hhex
  | quad _ hquad => exact hquad.not_mem hdigit hdot
  | cons hgroup _ ih => simp [hgroup.not_mem hhex, hcolon, ih]

theorem IsSide.not_mem {parts : List Nat} (h : IsSide padded tail s parts)
    (hhex : isHexDigit c = false) (hdot : c ≠ '.') (hcolon : c ≠ ':') : c ∉ s := by
  rcases h with ⟨rfl, _⟩ | hgroups
  · simp
  · exact hgroups.not_mem hhex hdot hcolon

theorem IsEightGroups.not_mem {gap : Nat} {parts : List Nat} (h : IsEightGroups padded gap s parts)
    (hhex : isHexDigit c = false) (hdot : c ≠ '.') (hcolon : c ≠ ':') : c ∉ s := by
  cases h with
  | full hgroups _ => exact hgroups.not_mem hhex hdot hcolon
  | compressed hhead htail _ _ =>
    simp [hhead.not_mem hhex hdot hcolon, htail.not_mem hhex hdot hcolon, hcolon]

theorem IsAddress.not_mem {address : IpAddress} (h : IsAddress s address)
    (hhex : isHexDigit c = false) (hdot : c ≠ '.') (hcolon : c ≠ ':') : c ∉ s := by
  cases h with
  | v4 hquad => exact (IsGroups.quad rfl hquad : IsGroups false true s _).not_mem hhex hdot hcolon
  | v6 hgroups => exact hgroups.not_mem hhex hdot hcolon

end

/-! ### Networks -/

namespace Network

/-- The network of the addresses that agree with one in a number of leading bits. -/
def ofLength : IpAddress → Nat → Network
  | .v4 bits, n => .v4 (Block.truncate ⟨bits, n⟩)
  | .v6 bits, n => .v6 (Block.truncate ⟨bits, n⟩)

/-- The reader of networks accepts what the grammar writes, and clears the host bits. -/
theorem ofChars?_eq_some_iff {s : List Char} {network : Network} :
    ofChars? s = some network
      ↔ ∃ address n, IsSubnet s address n ∧ network = ofLength address n := by
  constructor
  · intro h
    unfold ofChars? at h
    split at h
    · cases h
    · rename_i before after hsplit
      obtain ⟨rfl, _⟩ := Text.splitOnce?_eq_some hsplit
      split at h
      · rename_i parts hread
        obtain ⟨n, hn, rfl⟩ := Option.map_eq_some_iff.1 h
        exact ⟨_, n, .v4 (readQuad?_eq_some_iff.1 hread) (readLength?_eq_some_iff.1 hn), rfl⟩
      · obtain ⟨parts, hread, hrest⟩ := Option.bind_eq_some_iff.1 h
        obtain ⟨n, hn, rfl⟩ := Option.map_eq_some_iff.1 hrest
        exact ⟨_, n, .v6 (readGroups?_eq_some_iff.1 hread) (readLength?_eq_some_iff.1 hn), rfl⟩
  · rintro ⟨address, n, hsubnet, rfl⟩
    cases hsubnet with
    | v4 hquad hlength =>
      rw [ofChars?, Text.splitOnce?_append _ (hquad.not_mem (by decide) (by decide))]
      simp only [readQuad?_eq_some_iff.2 hquad, readLength?_eq_some_iff.2 hlength]
      rfl
    | v6 hgroups hlength =>
      rw [ofChars?, Text.splitOnce?_append _ (hgroups.not_mem (by decide) (by decide) (by decide))]
      simp only [hgroups.readQuad?, readGroups?_eq_some_iff.2 hgroups,
        readLength?_eq_some_iff.2 hlength]
      rfl

theorem ofChars?_eq_none {s : List Char} (h : '/' ∉ s) : ofChars? s = none := by
  rw [ofChars?, Text.splitOnce?_eq_none h]

end Network

end RequestGuard.Net
