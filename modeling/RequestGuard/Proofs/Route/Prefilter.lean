import RequestGuard.Proofs.Net.Grammar
import RequestGuard.Proofs.Route.SegmentPattern

/-!
# Tests before patterns

A segment is tested before it is compared with a pattern. The tests for identifiers and mail
addresses only ask for what the patterns ask for as well (`admits_of_holds`). Those for numbers and
dates ask for more: their patterns allow the digits of all scripts, and the segment is to begin with
one of ASCII. So the tests change nothing but where a number or a date begins with another digit
(`generalize_eq_byPatterns_iff`), and such a segment stays as it is.
-/

namespace RequestGuard.Route

/-- What stands in a route for a segment if it is compared with the patterns alone. -/
def generalizeByPatterns (s : List Char) : List Char :=
  if s.isEmpty then []
  else
    match SegmentClass.all.find? fun k => k.matchesPattern s with
    | some k => k.placeholder
    | none => s

namespace SegmentClass

variable {s : List Char} {c : Char}

theorem generalizeByPatterns_eq (s : List Char) :
    generalizeByPatterns s = if s.isEmpty then [] else match ofPattern? s with
      | some k => k.placeholder
      | none => s := by
  unfold generalizeByPatterns ofPattern?
  simp only [matchesPattern_eq_holds]

theorem length_of_isUuid (h : isUuid s = true) : s.length = 36 := by
  rw [isUuid, Bool.or_eq_true] at h
  obtain h | h := h <;> exact length_of_fits h

theorem toNat_lt_of_isUuid (h : isUuid s = true) : ∀ c ∈ s, c.toNat < 0x80 := by
  have hhex (n : Nat) :
      ∀ t ∈ times n Text.isHexDigit, Text.IsAscii t := forall_mem_times Text.isAscii_isHexDigit
  have hzero (n : Nat) :
      ∀ t ∈ times n (· == '0'), Text.IsAscii t := forall_mem_times (Text.isAscii_single (by decide))
  have hhyphen : Text.IsAscii (· == '-') := Text.isAscii_single (by decide)
  have hversion : Text.IsAscii fun c => '1' ≤ c && c ≤ '8' := Text.isAscii_interval '1' (by decide)
  have hvariant : Text.IsAscii (['8', '9', 'a', 'b', 'A', 'B'].contains ·) :=
    Text.isAscii_contains (by decide)
  rw [isUuid, Bool.or_eq_true] at h
  obtain h | h := h
  · apply forall_of_fits (P := fun c => c.toNat < 0x80) _ h
    simp only [hyphen, List.forall_mem_append, List.forall_mem_cons, List.not_mem_nil,
      false_implies, implies_true, and_true, and_assoc]
    exact ⟨hhex 8, hhyphen, hhex 4, hhyphen, hversion, hhex 3, hhyphen, hvariant,
      hhex 3, hhyphen, hhex 12⟩
  · apply forall_of_fits (P := fun c => c.toNat < 0x80) _ h
    simp only [hyphen, List.forall_mem_append, List.forall_mem_cons, List.not_mem_nil,
      false_implies, implies_true, and_true, and_assoc]
    exact ⟨hzero 8, hhyphen, hzero 4, hhyphen, hzero 4, hhyphen, hzero 4, hhyphen, hzero 12⟩

theorem admits_number (s : List Char) :
    SegmentClass.number.admits s = s.head?.any Char.isDigit := by
  cases s <;> rfl

theorem admits_date (s : List Char) : SegmentClass.date.admits s = s.head?.any Char.isDigit := by
  cases s <;> rfl

/-! ### Numbers and dates -/

/-- A number or a date. -/
def IsNumeric (s : List Char) : Prop := isNumber s = true ∨ isDate s = true

theorem le_toNat_of_isDecimal (h : isDecimal c = true) (hdigit : c.isDigit = false) :
    0x80 ≤ c.toNat := by
  rw [← Bool.not_eq_true, Text.isDigit_iff] at hdigit
  -- After the digits of ASCII, the next boundary of the set is 1632.
  change Unicode.CharSet.holds c.toNat false (48 :: 58 :: 1632 :: _) = true at h
  rw [Unicode.CharSet.holds] at h
  split at h
  · rw [Unicode.CharSet.holds] at h
    split at h
    · rw [Unicode.CharSet.holds] at h
      split at h
      · omega
      · cases h
    · omega
  · cases h

theorem IsNumeric.mem (h : IsNumeric s) : ∀ c ∈ s, isDecimal c = true ∨ c = '-' := by
  obtain h | h := h
  · intro c hc
    rw [isNumber, Bool.and_eq_true] at h
    exact .inl (List.all_eq_true.1 h.2 c hc)
  · have hdecimal (n : Nat) :
        ∀ t ∈ times n isDecimal, ∀ c, t c = true → isDecimal c = true ∨ c = '-' :=
      forall_mem_times fun c hc => .inl hc
    have hhyphen : ∀ c : Char, (c == '-') = true → isDecimal c = true ∨ c = '-' :=
      fun c hc => .inr (beq_iff_eq.1 hc)
    rw [isDate, Bool.or_eq_true] at h
    obtain h | h := h
    · apply forall_of_fits (P := fun c => isDecimal c = true ∨ c = '-') _ h
      simp only [hyphen, List.forall_mem_append, List.forall_mem_cons, List.not_mem_nil,
        false_implies, implies_true, and_true, and_assoc]
      exact ⟨hdecimal 4, hhyphen, hdecimal 2, hhyphen, hdecimal 2⟩
    · apply forall_of_fits (P := fun c => isDecimal c = true ∨ c = '-') _ h
      simp only [hyphen, List.forall_mem_append, List.forall_mem_cons, List.not_mem_nil,
        false_implies, implies_true, and_true, and_assoc]
      exact ⟨hdecimal 2, hhyphen, hdecimal 2, hhyphen, hdecimal 4⟩

theorem IsNumeric.exists_cons (h : IsNumeric s) : ∃ c rest, s = c :: rest ∧ isDecimal c = true := by
  cases s with
  | nil => obtain h | h := h <;> cases h
  | cons c rest =>
    refine ⟨c, rest, rfl, ?_⟩
    obtain h | h := h
    · rw [isNumber, Bool.and_eq_true] at h
      exact List.all_eq_true.1 h.2 c List.mem_cons_self
    · rw [isDate, Bool.or_eq_true] at h
      obtain h | h := h
      · exact head_of_fits h
      · exact head_of_fits h

/-- A kind of character that a random token has. -/
def isTokenKind (c : Char) : Bool := c.isLower || c.isUpper || isTokenSymbol c

theorem isAscii_isTokenKind : Text.IsAscii isTokenKind := by
  intro c h
  rw [isTokenKind, Bool.or_eq_true, Bool.or_eq_true, Text.isLower_iff, Text.isUpper_iff] at h
  obtain (h | h) | h := h
  · omega
  · omega
  · exact Text.isAscii_contains (by decide) c h

theorem isTokenKind_eq_false_of_isDigit (h : c.isDigit = true) : isTokenKind c = false := by
  rw [Text.isDigit_iff] at h
  have hlast : c.toNat < 48 + 10 := by omega
  exact Text.of_interval (P := fun c => isTokenKind c = false) h.1 hlast (by decide)

theorem IsNumeric.isTokenKind_eq_false (h : IsNumeric s) : ∀ c ∈ s, isTokenKind c = false := by
  intro c hc
  obtain hdecimal | rfl := h.mem c hc
  · cases hdigit : c.isDigit with
    | true => exact isTokenKind_eq_false_of_isDigit hdigit
    | false =>
      rw [Bool.eq_false_iff]
      intro hkind
      exact Nat.not_lt.2 (le_toNat_of_isDecimal hdecimal hdigit) (isAscii_isTokenKind c hkind)
  · decide

theorem not_isSecret_of_isTokenKind_eq_false (h : ∀ c ∈ s, isTokenKind c = false) :
    isSecret s = false := by
  have hkind {test : Char → Bool} (htest : ∀ c, test c = true → isTokenKind c = true) :
      s.any test = false := by
    rw [List.any_eq_false]
    intro c hc hpass
    exact Bool.false_ne_true ((h c hc).symm.trans (htest c hpass))
  have hlower : s.any Char.isLower = false := hkind fun c hc => by simp [isTokenKind, hc]
  have hupper : s.any Char.isUpper = false := hkind fun c hc => by simp [isTokenKind, hc]
  have hsymbol : s.any isTokenSymbol = false := hkind fun c hc => by simp [isTokenKind, hc]
  rw [Bool.eq_false_iff]
  intro hsecret
  rw [isSecret, hlower, hupper, hsymbol] at hsecret
  simp only [Bool.and_eq_true, decide_eq_true_iff] at hsecret
  exact absurd hsecret.1.1.2 (by decide)

section Foreign

variable (h : IsNumeric s) (hfirst : s.head?.any Char.isDigit = false)

include h hfirst

theorem IsNumeric.exists_mem_le : ∃ c ∈ s, 0x80 ≤ c.toNat := by
  obtain ⟨c, rest, rfl, hc⟩ := h.exists_cons
  exact ⟨c, List.mem_cons_self, le_toNat_of_isDecimal hc hfirst⟩

/-- A number or a date whose first digit is not one of ASCII is only a number or a date. -/
theorem IsNumeric.holds_eq_false {k : SegmentClass} (hnumber : k ≠ .number) (hdate : k ≠ .date) :
    k.holds s = false := by
  obtain ⟨c, hmem, hlarge⟩ := h.exists_mem_le hfirst
  have hhex : Text.isHexDigit c = false :=
    Bool.eq_false_iff.2 fun hhex => Nat.not_lt.2 hlarge (Text.isAscii_isHexDigit c hhex)
  have hne {d : Char} (hd : d.toNat < 0x80) : c ≠ d := fun heq => Nat.not_lt.2 hlarge (heq ▸ hd)
  rw [Bool.eq_false_iff]
  intro hholds
  cases k with
  | number => exact hnumber rfl
  | uuid => exact Nat.not_lt.2 hlarge (toNat_lt_of_isUuid hholds c hmem)
  | date => exact hdate rfl
  | email =>
    obtain ⟨name, first, last, rfl, -⟩ := isEmail_iff.1 hholds
    have hat := h.mem '@' (by simp)
    exact absurd hat (by decide)
  | ip =>
    obtain ⟨address, haddress⟩ := Option.isSome_iff_exists.1 hholds
    exact (Net.IpAddress.ofChars?_eq_some_iff.1 haddress).not_mem hhex (hne (by decide))
      (hne (by decide)) hmem
  | hash =>
    rw [holds, isHash, Bool.and_eq_true] at hholds
    have hdigit := List.all_eq_true.1 hholds.2 c hmem
    rw [hhex] at hdigit
    cases hdigit
  | secret =>
    have hsecret := not_isSecret_of_isTokenKind_eq_false h.isTokenKind_eq_false
    exact Bool.false_ne_true (hsecret.symm.trans hholds)

theorem IsNumeric.generalize_eq_self : generalize s = s := by
  have hnone : of? s = none := by
    rw [of?, List.find?_eq_none]
    intro k _
    rw [Bool.not_eq_true, Bool.and_eq_false_iff]
    by_cases hnumber : k = .number
    · rw [hnumber, admits_number]
      exact .inl hfirst
    by_cases hdate : k = .date
    · rw [hdate, admits_date]
      exact .inl hfirst
    exact .inr (h.holds_eq_false hfirst hnumber hdate)
  obtain ⟨c, rest, rfl, -⟩ := h.exists_cons
  rw [generalize, hnone]
  rfl

end Foreign

theorem IsNumeric.generalizeByPatterns_ne_self (h : IsNumeric s) : generalizeByPatterns s ≠ s := by
  obtain ⟨c, rest, rfl, hc⟩ := h.exists_cons
  have hsome : (ofPattern? (c :: rest)).isSome = true := by
    rw [ofPattern?, List.find?_isSome]
    obtain h | h := h
    · exact ⟨.number, by decide, h⟩
    · exact ⟨.date, by decide, h⟩
  obtain ⟨k, hk⟩ := Option.isSome_iff_exists.1 hsome
  rw [generalizeByPatterns_eq, hk]
  intro heq
  have hcolon : k.placeholder.head? = some ':' := by cases k <;> rfl
  have hhead : some ':' = some c := hcolon.symm.trans (congrArg List.head? heq)
  obtain rfl := Option.some.inj hhead
  exact absurd hc (by decide)

/-- The test before a pattern asks for no more than the pattern, but for a first digit of ASCII. -/
theorem admits_of_holds {k : SegmentClass}
    (hfirst : s.head?.any Char.isDigit = true ∨ ¬ IsNumeric s) (h : k.holds s = true) :
    k.admits s = true := by
  cases k with
  | number =>
    rw [admits_number]
    exact hfirst.resolve_right fun hnot => hnot (.inl h)
  | uuid =>
    rw [admits, beq_iff_eq, Utf8.encode_of_lt (toNat_lt_of_isUuid h), List.length_map,
      length_of_isUuid h]
  | date =>
    rw [admits_date]
    exact hfirst.resolve_right fun hnot => hnot (.inr h)
  | email =>
    obtain ⟨name, first, last, rfl, -⟩ := isEmail_iff.1 h
    exact List.contains_iff_mem.2 (by simp)
  | ip => rfl
  | hash => rfl
  | secret => rfl

theorem of?_eq_ofPattern? (hfirst : s.head?.any Char.isDigit = true ∨ ¬ IsNumeric s) :
    of? s = ofPattern? s := by
  have hsame : (fun k : SegmentClass => k.admits s && k.holds s) = fun k => k.holds s := by
    funext k
    rw [Bool.and_eq_right_iff_imp]
    exact admits_of_holds hfirst
  rw [of?, ofPattern?, hsame]

end SegmentClass

open SegmentClass (IsNumeric matchesPattern_eq_holds)

/-- The tests before the patterns change what stands for a segment exactly if it is a number or a
date that does not begin with a digit of ASCII, and then it stays as it is. -/
theorem generalize_eq_byPatterns_iff (s : List Char) :
    (generalize s = generalizeByPatterns s ↔ s.head?.any Char.isDigit = true
        ∨ SegmentClass.number.matchesPattern s = false ∧ SegmentClass.date.matchesPattern s = false)
      ∧ (generalize s = generalizeByPatterns s ∨ generalize s = s) := by
  have hnumeric : SegmentClass.number.matchesPattern s = false
    ∧ SegmentClass.date.matchesPattern s = false
      ↔ ¬ IsNumeric s := by
    rw [matchesPattern_eq_holds, matchesPattern_eq_holds, IsNumeric, not_or,
      Bool.not_eq_true, Bool.not_eq_true]
    rfl
  rw [hnumeric]
  by_cases hfirst : s.head?.any Char.isDigit = true ∨ ¬ IsNumeric s
  · have hsame : generalize s = generalizeByPatterns s := by
      rw [generalize, SegmentClass.of?_eq_ofPattern? hfirst]
      exact (SegmentClass.generalizeByPatterns_eq s).symm
    exact ⟨iff_of_true hsame hfirst, .inl hsame⟩
  · rw [not_or, not_not, Bool.not_eq_true] at hfirst
    have hself : generalize s = s := hfirst.2.generalize_eq_self hfirst.1
    refine ⟨iff_of_false ?_ ?_, .inr hself⟩
    · rw [hself]
      exact hfirst.2.generalizeByPatterns_ne_self.symm
    · rw [not_or, not_not, Bool.not_eq_true]
      exact hfirst

/-- A digit of another script is left as it is, though it is a number by its pattern. -/
theorem generalize_ne_byPatterns_digit :
    generalize "٣".toList ≠ generalizeByPatterns "٣".toList
      ∧ generalizeByPatterns "٣".toList = ":number".toList := by
  decide +kernel

end RequestGuard.Route
