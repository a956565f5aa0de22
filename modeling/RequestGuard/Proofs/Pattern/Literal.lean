import Mathlib.Tactic.FinCases
import RequestGuard.Proofs.Pattern.Span
import RequestGuard.Proofs.Unicode.Folding

/-!
# Patterns that are put together

A text becomes a pattern for itself when a backslash is put before each character that has a meaning
of its own. Reading such a pattern takes one step for each character, and the class that is read for
it holds exactly the characters that are equal to it up to case.

`Reader.Reads reader s final` says that reading all of `s` leads to `final`, with any fuel that
exceeds the length of `s`. So the reading of a pattern that is put together from parts is followed
from its end, part by part.
-/

namespace RequestGuard.Pattern

theorem Escape.read?_special (flags : Flags) {c : Char} (hc : c ∈ specialChars) (rest : List Char) :
    read? flags (c :: rest) = some (.char c, rest) := by
  unfold specialChars at hc
  fin_cases hc <;> rfl

/-- Characters that are special in a pattern have no other case. -/
theorem eq_of_fold_eq_special {c d : Char} (hc : c ∈ specialChars)
    (h : Unicode.fold c = Unicode.fold d) : d = c := by
  have hcaseless : specialChars.all Unicode.isCaseless = true := by decide +kernel
  exact Unicode.eq_of_fold_eq_of_isCaseless (List.all_eq_true.1 hcaseless c hc) h

namespace CharClass

theorem contains_single_iff {c d : Char} : (single c).contains d = true ↔ c = d := by
  rw [single, contains, Bool.and_eq_true, decide_eq_true_iff, decide_eq_true_iff]
  constructor
  · intro h
    exact Char.toNat_inj.1 (Nat.le_antisymm h.1 h.2)
  · rintro rfl
    exact ⟨Nat.le_refl _, Nat.le_refl _⟩

theorem contains_folded_single_iff {c d : Char} :
    (folded (single c)).contains d = true ↔ Unicode.fold c = Unicode.fold d := by
  rw [contains, List.any_eq_true]
  simp only [contains_single_iff, exists_eq_right', Unicode.mem_caseVariants_iff]

theorem contains_single (c : Char) : (single c).contains = fun d => d == c := by
  funext d
  rw [Bool.eq_iff_iff, contains_single_iff, beq_iff_eq, eq_comm]

theorem contains_folded_single {c : Char} (hc : Unicode.isCaseless c = true) :
    (folded (single c)).contains = fun d => d == c := by
  funext d
  rw [Bool.eq_iff_iff, contains_folded_single_iff, beq_iff_eq]
  constructor
  · exact Unicode.eq_of_fold_eq_of_isCaseless hc
  · intro h
    rw [h]

theorem contains_folded_eq {cls : CharClass} {members : List Char}
    (h : cls.contains = members.contains) :
    (folded cls).contains = (members.flatMap Unicode.caseVariants).contains := by
  funext c
  rw [Bool.eq_iff_iff, contains, h, List.any_eq_true, List.contains_iff_mem, List.mem_flatMap]
  simp only [List.contains_iff_mem, Unicode.mem_caseVariants_iff]
  constructor
  · intro hc
    obtain ⟨d, hd, hmem⟩ := hc
    exact ⟨d, hmem, hd.symm⟩
  · intro hc
    obtain ⟨d, hmem, hd⟩ := hc
    exact ⟨d, hd.symm, hmem⟩

end CharClass

namespace Expr

variable {text : List Char} {i j : Nat}

theorem spans_sequence_cons (a : Expr) (rest : List Expr) :
    (sequence (a :: rest)).Spans text i j
      ↔ ∃ k, a.Spans text i k ∧ (sequence rest).Spans text k j := by
  cases rest with
  | nil => simp [sequence, Spans]
  | cons b rest => rw [sequence, Spans]; simp

theorem wellFormed_sequence {exprs : List Expr} (h : ∀ a ∈ exprs, a.WellFormed) :
    (sequence exprs).WellFormed := by
  induction exprs with
  | nil => exact trivial
  | cons a rest ih =>
    obtain ⟨ha, hrest⟩ := List.forall_mem_cons.1 h
    cases rest with
    | nil => exact ha
    | cons b rest => exact ⟨ha, ih hrest⟩

theorem spans_textStart_iff (hi : i ≤ text.length) :
    (assertion .textStart word).Spans text i j ↔ i = 0 ∧ j = 0 := by
  rw [Spans, Assertion.holds, Place.of, Option.isNone_iff_eq_none, List.getLast?_eq_none_iff,
    List.take_eq_nil_iff]
  constructor
  · intro h
    obtain ⟨rfl, hzero | rfl⟩ := h
    · exact ⟨hzero, hzero⟩
    · exact ⟨Nat.le_zero.1 hi, Nat.le_zero.1 hi⟩
  · intro h
    exact ⟨h.1.trans h.2.symm, .inl h.1⟩

theorem spans_textEnd_iff : (assertion .textEnd word).Spans text i j
    ↔ i = j ∧ text.drop i = [] := by
  rw [Spans, Assertion.holds, Place.of, Option.isNone_iff_eq_none, List.getElem?_eq_none_iff,
    List.drop_eq_nil_iff]

/-- Copies of a class match the characters that stand next, as long as they are all in the class. -/
theorem chain_chars_iff {cls : CharClass} {n : Nat} :
    Chain (Spans text (.chars cls)) n i j ↔
      ∃ gap, gap.length = n ∧ text.drop i = gap ++ text.drop j ∧ j = i + n
        ∧ ∀ c ∈ gap, cls.contains c = true := by
  induction n generalizing i with
  | zero =>
    rw [Chain]
    constructor
    · intro h
      exact ⟨[], rfl, by rw [h, List.nil_append], h.symm, by simp⟩
    · intro h
      obtain ⟨gap, -, -, hj, -⟩ := h
      exact hj.symm
  | succ n ih =>
    constructor
    · intro h
      obtain ⟨_, ⟨rfl, c, hc, hcontains⟩, hrest⟩ := h
      obtain ⟨gap, rfl, hdrop, rfl, hgap⟩ := ih.1 hrest
      refine ⟨c :: gap, rfl, ?_, by omega, List.forall_mem_cons.2 ⟨hcontains, hgap⟩⟩
      exact drop_eq_cons_iff.2 ⟨hc, hdrop⟩
    · intro h
      obtain ⟨gap, hlength, hdrop, rfl, hgap⟩ := h
      cases gap with
      | nil => cases hlength
      | cons c gap =>
        obtain ⟨hcontains, hgap⟩ := List.forall_mem_cons.1 hgap
        obtain ⟨hc, hdrop⟩ := drop_eq_cons_iff.1 hdrop
        exact ⟨i + 1, ⟨rfl, c, hc, hcontains⟩,
          ih.2 ⟨gap, Nat.succ.inj hlength, hdrop, by omega, hgap⟩⟩

theorem spans_repeated_chars_iff {cls : CharClass} {least : Nat} {most : Option Nat} :
    (repeated (.chars cls) least most).Spans text i j ↔
      ∃ gap, text.drop i = gap ++ text.drop j ∧ j = i + gap.length ∧ least ≤ gap.length
        ∧ (∀ m, most = some m → gap.length ≤ m) ∧ ∀ c ∈ gap, cls.contains c = true := by
  rw [Spans]
  simp only [chain_chars_iff]
  constructor
  · intro h
    obtain ⟨n, hleast, hmost, gap, rfl, hdrop, hj, hgap⟩ := h
    exact ⟨gap, hdrop, hj, hleast, hmost, hgap⟩
  · intro h
    obtain ⟨gap, hdrop, hj, hleast, hmost, hgap⟩ := h
    exact ⟨gap.length, hleast, hmost, gap, rfl, hdrop, hj, hgap⟩

end Expr

namespace Reader

variable {reader next final : Reader} {s rest : List Char}

/-- Reading all of a text leads from one reader to another one. -/
def Reads (reader : Reader) (s : List Char) (final : Reader) : Prop :=
  ∀ fuel, s.length < fuel → run? fuel reader s = some final

theorem Reads.nil (hspaced : reader.flags.spaced = false) : reader.Reads [] reader := by
  intro fuel hfuel
  cases fuel with
  | zero => cases hfuel
  | succ fuel => simp [run?, Flags.skip, hspaced]

theorem Reads.step (hspaced : reader.flags.spaced = false)
    (hstep : reader.step? s = some (next, rest)) (hshorter : rest.length < s.length)
    (h : next.Reads rest final) : reader.Reads s final := by
  intro fuel hfuel
  cases fuel with
  | zero => cases hfuel
  | succ fuel =>
    cases s with
    | nil => cases hshorter
    | cons c s =>
      have hskip : reader.flags.skip (c :: s) = c :: s := by rw [Flags.skip, hspaced]; rfl
      rw [run?, hskip]
      dsimp only
      rw [hstep, Option.bind_some]
      exact h fuel (by omega)

def addParts (reader : Reader) (parts : List Nested) : Reader :=
  { reader with items := (parts.map Item.part).reverse ++ reader.items }

theorem addParts_cons (reader : Reader) (part : Nested) (parts : List Nested) :
    (reader.add part.expr part.depth).addParts parts = reader.addParts (part :: parts) := by
  simp [addParts, add]

theorem addParts_append (reader : Reader) (parts more : List Nested) :
    (reader.addParts parts).addParts more = reader.addParts (parts ++ more) := by
  simp [addParts]

theorem nested_items_addParts (flags : Flags) (parts : List Nested) :
    (({ flags : Reader }.addParts parts).items.map Item.nested).reverse = parts := by
  rw [addParts]
  dsimp only
  rw [List.append_nil, List.map_reverse, List.reverse_reverse, List.map_map]
  exact List.map_id parts

theorem expr_inside_addParts (flags : Flags) (parts : List Nested) :
    ({ flags : Reader }.addParts parts).inside.expr = Expr.sequence (parts.map Nested.expr) := by
  show Expr.sequence
    ((({ flags : Reader }.addParts parts).items.map Item.nested).reverse.map Nested.expr) = _
  rw [nested_items_addParts]

theorem maxDepth_le {parts : List Nested} {bound : Nat} (h : ∀ part ∈ parts, part.depth ≤ bound) :
    Nested.maxDepth parts ≤ bound := by
  have hfold : ∀ start ≤ bound, (parts.map Nested.depth).foldl max start ≤ bound := by
    induction parts with
    | nil => exact fun _ hstart => hstart
    | cons part parts ih =>
      obtain ⟨hpart, hparts⟩ := List.forall_mem_cons.1 h
      intro start hstart
      exact ih hparts _ (Nat.max_le.2 ⟨hstart, hpart⟩)
  exact hfold 0 (Nat.zero_le bound)

theorem depth_inside_addParts_le (flags : Flags) {parts : List Nested} {bound : Nat}
    (h : ∀ part ∈ parts, part.depth ≤ bound) :
    ({ flags : Reader }.addParts parts).inside.depth ≤ bound + 1 := by
  have hmax := maxDepth_le h
  show (if (({ flags : Reader }.addParts parts).items.map Item.nested).reverse.length
    > 1 then _ else _) ≤ _
  rw [nested_items_addParts]
  split
  · exact Nat.succ_le_succ hmax
  · exact Nat.le_succ_of_le hmax

theorem step?_of_not_special {c : Char} (hc : c ∉ specialChars) :
    reader.step? (c :: rest) = some (reader.add (charExpr reader.flags c) 0, rest) := by
  unfold step?
  dsimp only
  split
  case h_1 heq => cases heq
  case h_14 heq =>
    obtain ⟨rfl, rfl⟩ := List.cons.inj heq
    rfl
  all_goals
    rename_i heq
    obtain ⟨rfl, -⟩ := List.cons.inj heq
    exact absurd (by decide) hc

theorem Reads.escapeChar {c : Char} (hspaced : reader.flags.spaced = false)
    (h : (reader.add (charExpr reader.flags c) 0).Reads rest final) :
    reader.Reads (escapeChar c ++ rest) final := by
  unfold Pattern.escapeChar
  split
  · rename_i hc
    refine Reads.step hspaced ?_ ?_ h
    · simp only [List.cons_append, List.nil_append, step?,
        Escape.read?_special _ hc, Option.map_some]
    · simp only [List.cons_append, List.nil_append, List.length_cons]
      omega
  · rename_i hc
    exact Reads.step hspaced (step?_of_not_special hc) (Nat.lt_succ_self _) h

end Reader

end RequestGuard.Pattern
