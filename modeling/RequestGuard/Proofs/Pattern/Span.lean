import Mathlib.Logic.Relation
import RequestGuard.Pattern.Marked

/-!
# What an expression matches

`Expr.Spans text expr i j` says that the expression matches the characters of a text from position
`i` up to position `j`: assertions match nothing in a place that they allow, and a repetition
matches a chain of copies. The marked expression that is searched for has its repetitions written
out, which keeps what it matches (`Marked.spans_ofExpr`).
-/

namespace RequestGuard.Pattern

def Place.of (text : List Char) (i : Nat) : Place where
  before := (text.take i).getLast?
  after := text[i]?

/-- Going through a relation some number of times. -/
def Chain (r : Nat → Nat → Prop) : Nat → Nat → Nat → Prop
  | 0, i, j => i = j
  | n + 1, i, j => ∃ k, r i k ∧ Chain r n k j

theorem drop_eq_cons_iff {text rest : List Char} {c : Char} {i : Nat} :
    text.drop i = c :: rest ↔ text[i]? = some c ∧ text.drop (i + 1) = rest := by
  constructor
  · intro h
    rw [← List.head?_drop, ← List.tail_drop, h]
    exact ⟨rfl, rfl⟩
  · intro h
    obtain ⟨hlt, rfl⟩ := List.getElem?_eq_some_iff.1 h.1
    rw [List.drop_eq_getElem_cons hlt, h.2]

namespace Expr

/-- An expression matches the characters between two positions of a text. -/
def Spans (text : List Char) : Expr → Nat → Nat → Prop
  | .empty, i, j => i = j
  | .assertion a word, i, j => i = j
    ∧ a.holds word (Place.of text i).before (Place.of text i).after = true
  | .chars cls, i, j => j = i + 1 ∧ ∃ c, text[i]? = some c ∧ cls.contains c = true
  | .concat a b, i, j => ∃ k, Spans text a i k ∧ Spans text b k j
  | .either a b, i, j => Spans text a i j ∨ Spans text b i j
  | .repeated a least most, i, j =>
    ∃ n, least ≤ n ∧ (∀ m, most = some m → n ≤ m) ∧ Chain (Spans text a) n i j

/-- Every repetition allows at least as many copies as it asks for. -/
def WellFormed : Expr → Prop
  | .empty | .assertion _ _ | .chars _ => True
  | .concat a b | .either a b => a.WellFormed ∧ b.WellFormed
  | .repeated a least most => a.WellFormed ∧ ∀ m, most = some m → least ≤ m

end Expr

namespace Marked

open Relation (ReflTransGen)

variable {text : List Char} {i j k : Nat}

/-- An expression matches the characters between two positions of a text, whatever its marks are. -/
def Spans (text : List Char) : Marked → Nat → Nat → Prop
  | .empty, i, j => i = j
  | .assertion a word, i, j => i = j
    ∧ a.holds word (Place.of text i).before (Place.of text i).after = true
  | .chars cls _, i, j => j = i + 1 ∧ ∃ c, text[i]? = some c ∧ cls.contains c = true
  | .concat a b, i, j => ∃ k, Spans text a i k ∧ Spans text b k j
  | .either a b, i, j => Spans text a i j ∨ Spans text b i j
  | .star a, i, j => ReflTransGen (Spans text a) i j

theorem le_of_reflTransGen {r : Nat → Nat → Prop} (hr : ∀ i j, r i j → i ≤ j)
    (h : ReflTransGen r i j) : i ≤ j := by
  induction h with
  | refl => exact Nat.le_refl i
  | tail _ hstep ih => exact Nat.le_trans ih (hr _ _ hstep)

theorem Spans.le {a : Marked} (h : a.Spans text i j) : i ≤ j := by
  induction a generalizing i j with
  | empty => exact Nat.le_of_eq h
  | assertion => exact Nat.le_of_eq h.1
  | chars => exact h.1 ▸ Nat.le_succ i
  | concat a b iha ihb =>
    obtain ⟨k, ha, hb⟩ := h
    exact Nat.le_trans (iha ha) (ihb hb)
  | either a b iha ihb =>
    obtain h | h := h
    · exact iha h
    · exact ihb h
  | star a ih => exact le_of_reflTransGen (fun _ _ => ih) h

theorem Spans.le_length {a : Marked} (h : a.Spans text i j) (hi : i ≤ text.length) :
    j ≤ text.length := by
  induction a generalizing i j with
  | empty => exact h ▸ hi
  | assertion => exact h.1 ▸ hi
  | chars =>
    obtain ⟨rfl, c, hc, -⟩ := h
    exact (List.getElem?_eq_some_iff.1 hc).1
  | concat a b iha ihb =>
    obtain ⟨k, ha, hb⟩ := h
    exact ihb hb (iha ha hi)
  | either a b iha ihb =>
    obtain h | h := h
    · exact iha h hi
    · exact ihb h hi
  | star a ih =>
    replace h : ReflTransGen (Spans text a) i j := h
    induction h with
    | refl => exact hi
    | tail _ hstep ihlength => exact ih hstep ihlength

end Marked

/-! ### Repetitions written out -/

namespace Chain

variable {r : Nat → Nat → Prop} {i j : Nat}

theorem add_iff {m n : Nat} : Chain r (m + n) i j ↔ ∃ k, Chain r m i k ∧ Chain r n k j := by
  induction m generalizing i with
  | zero => simp [Chain]
  | succ m ih =>
    rw [Nat.add_right_comm]
    simp only [Chain, ih]
    constructor
    · intro h
      obtain ⟨l, hstep, k, hm, hn⟩ := h
      exact ⟨k, ⟨l, hstep, hm⟩, hn⟩
    · intro h
      obtain ⟨k, ⟨l, hstep, hm⟩, hn⟩ := h
      exact ⟨l, hstep, k, hm, hn⟩

theorem one_iff : Chain r 1 i j ↔ r i j := by
  simp [Chain]

theorem reflTransGen_iff : Relation.ReflTransGen r i j ↔ ∃ n, Chain r n i j := by
  constructor
  · intro h
    induction h using Relation.ReflTransGen.head_induction_on with
    | refl => exact ⟨0, rfl⟩
    | head hstep _ ih =>
      obtain ⟨n, hn⟩ := ih
      exact ⟨n + 1, _, hstep, hn⟩
  · intro h
    obtain ⟨n, hn⟩ := h
    induction n generalizing i with
    | zero => exact hn ▸ .refl
    | succ n ih =>
      obtain ⟨k, hstep, hn⟩ := hn
      exact .head hstep (ih hn)

theorem optional_iff {m : Nat} :
    Chain (fun i j => i = j ∨ r i j) m i j ↔ ∃ n, n ≤ m ∧ Chain r n i j := by
  induction m generalizing i with
  | zero => simp [Chain]
  | succ m ih =>
    rw [Chain]
    simp only [ih]
    constructor
    · intro h
      obtain ⟨k, rfl | hstep, n, hle, hn⟩ := h
      · exact ⟨n, Nat.le_succ_of_le hle, hn⟩
      · exact ⟨n + 1, Nat.succ_le_succ hle, k, hstep, hn⟩
    · intro h
      obtain ⟨n, hle, hn⟩ := h
      cases n with
      | zero => exact ⟨i, .inl rfl, 0, Nat.zero_le m, hn⟩
      | succ n =>
        obtain ⟨k, hstep, hn⟩ := hn
        exact ⟨k, .inr hstep, n, Nat.le_of_succ_le_succ hle, hn⟩

theorem atLeast_iff {least : Nat} :
    (∃ k, Chain r least i k ∧ Relation.ReflTransGen r k j) ↔ ∃ n, least ≤ n ∧ Chain r n i j := by
  simp only [reflTransGen_iff]
  constructor
  · intro h
    obtain ⟨k, hleast, n, hmore⟩ := h
    exact ⟨least + n, Nat.le_add_right least n, add_iff.2 ⟨k, hleast, hmore⟩⟩
  · intro h
    obtain ⟨n, hleast, hchain⟩ := h
    rw [← Nat.add_sub_cancel' hleast, add_iff] at hchain
    obtain ⟨k, hleast, hmore⟩ := hchain
    exact ⟨k, hleast, n - least, hmore⟩

theorem between_iff {least most : Nat} (hle : least ≤ most) :
    (∃ k, Chain r least i k ∧ Chain (fun i j => i = j ∨ r i j) (most - least) k j) ↔
      ∃ n, least ≤ n ∧ n ≤ most ∧ Chain r n i j := by
  simp only [optional_iff]
  constructor
  · intro h
    obtain ⟨k, hleast, n, hmost, hmore⟩ := h
    exact ⟨least + n, Nat.le_add_right least n, by omega, add_iff.2 ⟨k, hleast, hmore⟩⟩
  · intro h
    obtain ⟨n, hleast, hmost, hchain⟩ := h
    rw [← Nat.add_sub_cancel' hleast, add_iff] at hchain
    obtain ⟨k, hfirst, hmore⟩ := hchain
    exact ⟨k, hfirst, n - least, by omega, hmore⟩

theorem eq_of_eq (hr : ∀ i j, r i j → i = j) {n : Nat} (h : Chain r n i j) : i = j := by
  induction n generalizing i with
  | zero => exact h
  | succ n ih =>
    obtain ⟨k, hstep, hn⟩ := h
    exact (hr i k hstep).trans (ih hn)

theorem iff_of_eq (hr : ∀ i j, r i j → i = j) {n : Nat} (hn : n ≠ 0) : Chain r n i j ↔ r i j := by
  induction n generalizing i with
  | zero => exact absurd rfl hn
  | succ n ih =>
    cases n with
    | zero => exact one_iff
    | succ n =>
      rw [Chain]
      simp only [ih (Nat.succ_ne_zero n)]
      constructor
      · intro h
        obtain ⟨k, hstep, hrest⟩ := h
        exact hr i k hstep ▸ hrest
      · intro h
        exact ⟨i, hr i j h ▸ h, h⟩

end Chain

theorem Expr.Spans.eq_of_isEmptyOnly {text : List Char} {expr : Expr} {i j : Nat}
    (hformed : expr.WellFormed) (hempty : expr.isEmptyOnly = true)
    (h : expr.Spans text i j) : i = j := by
  induction expr generalizing i j with
  | empty => exact h
  | assertion => exact h.1
  | chars => cases hempty
  | concat a b iha ihb =>
    rw [isEmptyOnly, Bool.and_eq_true] at hempty
    obtain ⟨k, ha, hb⟩ := h
    exact (iha hformed.1 hempty.1 ha).trans (ihb hformed.2 hempty.2 hb)
  | either a b iha ihb =>
    rw [isEmptyOnly, Bool.and_eq_true] at hempty
    obtain h | h := h
    · exact iha hformed.1 hempty.1 h
    · exact ihb hformed.2 hempty.2 h
  | repeated a least most ih =>
    rw [isEmptyOnly, Bool.or_eq_true, beq_iff_eq] at hempty
    obtain ⟨n, -, hmost, hchain⟩ := h
    obtain hempty | hzero := hempty
    · exact hchain.eq_of_eq fun _ _ => ih hformed.1 hempty
    · obtain rfl : n = 0 := Nat.le_zero.1 (hmost 0 hzero)
      exact hchain

namespace Marked

variable {text : List Char} {i j : Nat}

theorem spans_copies (a : Marked) (n : Nat) :
    (copies a n).Spans text i j ↔ Chain (a.Spans text) n i j := by
  induction n using Nat.strongRecOn generalizing i j with
  | ind n ih =>
    unfold copies
    split
    · rename_i hzero
      rw [hzero, Spans, Chain]
    · split
      · rename_i hone
        rw [hone, Chain.one_iff]
      · have hhalves : n = n / 2 + (n - n / 2) := by omega
        rw [Spans]
        simp only [ih (n / 2) (by omega), ih (n - n / 2) (by omega)]
        rw [← Chain.add_iff, ← hhalves]

/-- Writing out the repetitions keeps what an expression matches. -/
theorem spans_ofExpr {expr : Expr} (hformed : expr.WellFormed) :
    (ofExpr expr).Spans text i j ↔ expr.Spans text i j := by
  induction expr generalizing i j with
  | empty => exact Iff.rfl
  | assertion => exact Iff.rfl
  | chars => exact Iff.rfl
  | concat a b iha ihb => simp only [ofExpr, Spans, Expr.Spans, iha hformed.1, ihb hformed.2]
  | either a b iha ihb => simp only [ofExpr, Spans, Expr.Spans, iha hformed.1, ihb hformed.2]
  | repeated a least most ih =>
    have hpart : (ofExpr a).Spans text = a.Spans text := by
      funext i j
      exact propext (ih hformed.1)
    unfold ofExpr
    rw [Expr.Spans]
    dsimp only
    split
    · rename_i hempty
      have heq : ∀ i j, a.Spans text i j → i = j :=
        fun _ _ => Expr.Spans.eq_of_isEmptyOnly hformed.1 hempty
      split
      · rename_i hzero
        constructor
        · intro h
          exact ⟨0, Nat.le_of_eq hzero, fun m _ => Nat.zero_le m, h⟩
        · intro h
          obtain ⟨n, -, -, hchain⟩ := h
          exact hchain.eq_of_eq heq
      · rename_i hpositive
        rw [ih hformed.1]
        constructor
        · intro h
          exact ⟨least, Nat.le_refl least, hformed.2, (Chain.iff_of_eq heq hpositive).2 h⟩
        · intro h
          obtain ⟨n, hleast, -, hchain⟩ := h
          exact (Chain.iff_of_eq heq (by omega)).1 hchain
    · cases most with
      | none =>
        dsimp only
        simp only [Spans, spans_copies, hpart, Chain.atLeast_iff]
        simp
      | some most =>
        have hoptional : (Marked.either .empty (ofExpr a)).Spans text
            = fun i j => i = j ∨ a.Spans text i j := by
          funext i j
          rw [Spans, Spans, hpart]
        dsimp only
        rw [Spans]
        simp only [spans_copies, hpart, hoptional, Chain.between_iff (hformed.2 most rfl)]
        simp

end Marked

end RequestGuard.Pattern
