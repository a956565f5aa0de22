import RequestGuard.Proofs.Pattern.Span

/-!
# What a search finds

A search for an expression succeeds exactly if the expression matches somewhere in the text
(`Compiled.isMatch_iff`).

The search only keeps marks. A mark that was set at a position stands for all matches that have come
up to there: `Marked.Continues text marked i j` says that a match goes on from some mark at position
`i` up to position `j`. Reading a character takes the matches of length at least one to their marks
(`Marked.continues_read`), and this determines the result by induction on what is left of the text.
-/

namespace RequestGuard.Pattern

namespace Marked

open Relation (ReflTransGen)

variable {text : List Char} {i j k : Nat}

/-- A match that has come to one of the marks at a position of a text goes on up to another
position. -/
def Continues (text : List Char) : Marked → Nat → Nat → Prop
  | .empty, _, _ => False
  | .assertion _ _, _, _ => False
  | .chars _ marked, i, j => marked = true ∧ i = j
  | .concat a b, i, j => (∃ k, Continues text a i k ∧ Spans text b k j) ∨ Continues text b i j
  | .either a b, i, j => Continues text a i j ∨ Continues text b i j
  | .star a, i, j => ∃ k, Continues text a i k ∧ ReflTransGen (Spans text a) k j

theorem Continues.le {a : Marked} (h : a.Continues text i j) : i ≤ j := by
  induction a generalizing i j with
  | empty => exact h.elim
  | assertion => exact h.elim
  | chars => exact Nat.le_of_eq h.2
  | concat a b iha ihb =>
    obtain ⟨k, ha, hb⟩ | h := h
    · exact Nat.le_trans (iha ha) hb.le
    · exact ihb h
  | either a b iha ihb =>
    obtain h | h := h
    · exact iha h
    · exact ihb h
  | star a ih =>
    obtain ⟨k, hcontinues, hspans⟩ := h
    exact Nat.le_trans (ih hcontinues) (le_of_reflTransGen (fun _ _ => Spans.le) hspans)

theorem Continues.le_length {a : Marked} (h : a.Continues text i j) (hi : i ≤ text.length) :
    j ≤ text.length := by
  induction a generalizing i j with
  | empty => exact h.elim
  | assertion => exact h.elim
  | chars => exact h.2 ▸ hi
  | concat a b iha ihb =>
    obtain ⟨k, ha, hb⟩ | h := h
    · exact hb.le_length (iha ha hi)
    · exact ihb h hi
  | either a b iha ihb =>
    obtain h | h := h
    · exact iha h hi
    · exact ihb h hi
  | star a ih =>
    obtain ⟨k, hcontinues, hspans⟩ := h
    exact Spans.le_length (a := .star a) hspans (ih hcontinues hi)

theorem isNullable_iff {a : Marked} : a.isNullable (Place.of text i) = true ↔ a.Spans text i i := by
  induction a with
  | empty => simp [isNullable, Spans]
  | assertion => simp [isNullable, Spans]
  | chars => simp [isNullable, Spans]
  | concat a b iha ihb =>
    rw [isNullable, Bool.and_eq_true, iha, ihb, Spans]
    constructor
    · intro h
      exact ⟨i, h.1, h.2⟩
    · intro h
      obtain ⟨k, ha, hb⟩ := h
      obtain rfl := Nat.le_antisymm ha.le hb.le
      exact ⟨ha, hb⟩
  | either a b iha ihb => rw [isNullable, Bool.or_eq_true, iha, ihb, Spans]
  | star a => exact ⟨fun _ => .refl, fun _ => rfl⟩

theorem isFinal_iff {a : Marked} : a.isFinal (Place.of text i) = true ↔ a.Continues text i i := by
  induction a with
  | empty => simp [isFinal, Continues]
  | assertion => simp [isFinal, Continues]
  | chars => simp [isFinal, Continues]
  | concat a b iha ihb =>
    rw [isFinal, Bool.or_eq_true, Bool.and_eq_true, iha, ihb, isNullable_iff, Continues]
    constructor
    · intro h
      obtain h | ⟨ha, hb⟩ := h
      · exact .inr h
      · exact .inl ⟨i, ha, hb⟩
    · intro h
      obtain ⟨k, ha, hb⟩ | h := h
      · obtain rfl := Nat.le_antisymm ha.le hb.le
        exact .inr ⟨ha, hb⟩
      · exact .inl h
  | either a b iha ihb => rw [isFinal, Bool.or_eq_true, iha, ihb, Continues]
  | star a ih =>
    rw [isFinal, ih, Continues]
    constructor
    · intro h
      exact ⟨i, h, .refl⟩
    · intro h
      obtain ⟨k, hcontinues, hspans⟩ := h
      obtain rfl := Nat.le_antisymm hcontinues.le (le_of_reflTransGen (fun _ _ => Spans.le) hspans)
      exact hcontinues

/-! ### Reading a character -/

theorem spans_read (place : Place) (c : Char) (enter : Bool) (a : Marked) :
    (a.read place c enter).Spans text = a.Spans text := by
  induction a generalizing enter with
  | empty => rfl
  | assertion => rfl
  | chars => rfl
  | concat a b iha ihb => funext i j; rw [read, Spans, Spans, iha, ihb]
  | either a b iha ihb => funext i j; rw [read, Spans, Spans, iha, ihb]
  | star a ih => funext i j; rw [read, Spans, Spans, ih]

/-- A repetition that gets on has a first copy that gets on. -/
theorem exists_lt_of_reflTransGen {r : Nat → Nat → Prop} (hr : ∀ i j, r i j → i ≤ j)
    (h : ReflTransGen r i j) (hlt : i < j) :
    ∃ k, i < k ∧ r i k ∧ ReflTransGen r k j := by
  induction h using ReflTransGen.head_induction_on with
  | refl => exact absurd hlt (Nat.lt_irrefl j)
  | head hstep hrest ih =>
    rename_i i k
    obtain rfl | hik := Nat.eq_or_lt_of_le (hr i k hstep)
    · exact ih hlt
    · exact ⟨k, hik, hstep, hrest⟩

/-- After a character, exactly the matches go on that came up to before it and match it: those from
a mark and, if one may begin there, those of the whole expression. -/
theorem continues_read {c : Char} (hc : text[i]? = some c) (enter : Bool) (a : Marked) :
    (a.read (Place.of text i) c enter).Continues text (i + 1) j ↔
      i < j ∧ (a.Continues text i j ∨ enter = true ∧ a.Spans text i j) := by
  induction a generalizing enter j with
  | empty =>
    constructor
    · exact False.elim
    · intro h
      obtain ⟨hlt, h | ⟨-, rfl⟩⟩ := h
      · exact h.elim
      · exact absurd hlt (Nat.lt_irrefl i)
  | assertion a word =>
    constructor
    · exact False.elim
    · intro h
      obtain ⟨hlt, h | ⟨-, rfl, -⟩⟩ := h
      · exact h.elim
      · exact absurd hlt (Nat.lt_irrefl i)
  | chars cls marked =>
    rw [read, Continues, Continues, Spans, hc, Bool.and_eq_true]
    constructor
    · intro h
      obtain ⟨⟨henter, hcontains⟩, rfl⟩ := h
      exact ⟨Nat.lt_succ_self i, .inr ⟨henter, rfl, c, rfl, hcontains⟩⟩
    · intro h
      obtain ⟨hlt, ⟨-, rfl⟩ | ⟨henter, rfl, d, hd, hcontains⟩⟩ := h
      · exact absurd hlt (Nat.lt_irrefl i)
      · obtain rfl := Option.some.inj hd
        exact ⟨⟨henter, hcontains⟩, rfl⟩
  | concat a b iha ihb =>
    rw [read, Continues, Continues, Spans, spans_read]
    simp only [iha, ihb, Bool.or_eq_true, Bool.and_eq_true, isFinal_iff, isNullable_iff]
    -- The character is read in the second part exactly if the first part has come to its end before
    -- it.
    constructor
    · intro h
      obtain ⟨k, ⟨hlt, ha⟩, hb⟩ | ⟨hlt, hb | ⟨ha, hb⟩⟩ := h
      · refine ⟨Nat.lt_of_lt_of_le hlt hb.le, ?_⟩
        obtain ha | ⟨henter, ha⟩ := ha
        · exact .inl (.inl ⟨k, ha, hb⟩)
        · exact .inr ⟨henter, k, ha, hb⟩
      · exact ⟨hlt, .inl (.inr hb)⟩
      · refine ⟨hlt, ?_⟩
        obtain ha | ⟨henter, ha⟩ := ha
        · exact .inl (.inl ⟨i, ha, hb⟩)
        · exact .inr ⟨henter, i, ha, hb⟩
    · intro h
      obtain ⟨hlt, (⟨k, ha, hb⟩ | hb) | ⟨henter, k, ha, hb⟩⟩ := h
      · obtain rfl | hik := Nat.eq_or_lt_of_le ha.le
        · exact .inr ⟨hlt, .inr ⟨.inl ha, hb⟩⟩
        · exact .inl ⟨k, ⟨hik, .inl ha⟩, hb⟩
      · exact .inr ⟨hlt, .inl hb⟩
      · obtain rfl | hik := Nat.eq_or_lt_of_le ha.le
        · exact .inr ⟨hlt, .inr ⟨.inr ⟨henter, ha⟩, hb⟩⟩
        · exact .inl ⟨k, ⟨hik, .inr ⟨henter, ha⟩⟩, hb⟩
  | either a b iha ihb =>
    rw [read, Continues, Continues, Spans, iha, ihb, ← and_or_left, or_or_or_comm, ← and_or_left]
  | star a ih =>
    rw [read, Continues, Continues, Spans, spans_read]
    simp only [ih, Bool.or_eq_true, isFinal_iff]
    -- Copies that match nothing are passed over: the character is read in the first copy that gets
    -- on.
    have hle : ∀ i j, a.Spans text i j → i ≤ j := fun _ _ => Spans.le
    constructor
    · intro h
      obtain ⟨k, ⟨hlt, ha⟩, hstar⟩ := h
      refine ⟨Nat.lt_of_lt_of_le hlt (le_of_reflTransGen hle hstar), ?_⟩
      obtain ha | ⟨henter | hfinal, ha⟩ := ha
      · exact .inl ⟨k, ha, hstar⟩
      · exact .inr ⟨henter, .head ha hstar⟩
      · exact .inl ⟨i, hfinal, .head ha hstar⟩
    · intro h
      obtain ⟨hlt, ⟨k, ha, hstar⟩ | ⟨henter, hstar⟩⟩ := h
      · obtain rfl | hik := Nat.eq_or_lt_of_le ha.le
        · obtain ⟨k, hik, hstep, hrest⟩ := exists_lt_of_reflTransGen hle hstar hlt
          exact ⟨k, ⟨hik, .inr ⟨.inr ha, hstep⟩⟩, hrest⟩
        · exact ⟨k, ⟨hik, .inl ha⟩, hstar⟩
      · obtain ⟨k, hik, hstep, hrest⟩ := exists_lt_of_reflTransGen hle hstar hlt
        exact ⟨k, ⟨hik, .inr ⟨.inl henter, hstep⟩⟩, hrest⟩

/-! ### The search -/

/-- What a search still finds from a position on, in a step at which it does not succeed yet. -/
theorem found_succ_iff {c : Char} (hc : text[i]? = some c) {a : Marked}
    (hfinal : ¬ a.Continues text i i) (hnullable : ¬ a.Spans text i i) :
    ((∃ j, a.Continues text i j)
      ∨ ∃ start j, i ≤ start ∧ start ≤ text.length ∧ a.Spans text start j) ↔
      (∃ j, (a.read (Place.of text i) c true).Continues text (i + 1) j)
        ∨ ∃ start j, i + 1 ≤ start ∧ start ≤ text.length
          ∧ (a.read (Place.of text i) c true).Spans text start j := by
  simp only [continues_read hc, spans_read, true_and]
  constructor
  · intro h
    obtain ⟨j, hcontinues⟩ | ⟨start, j, hstart, hlength, hspans⟩ := h
    · refine .inl ⟨j, Nat.lt_of_le_of_ne hcontinues.le ?_, .inl hcontinues⟩
      exact fun hij => hfinal (hij ▸ hcontinues)
    · obtain rfl | hlater := Nat.eq_or_lt_of_le hstart
      · refine .inl ⟨j, Nat.lt_of_le_of_ne hspans.le ?_, .inr hspans⟩
        exact fun hij => hnullable (hij ▸ hspans)
      · exact .inr ⟨start, j, hlater, hlength, hspans⟩
  · intro h
    obtain ⟨j, hlt, hcontinues | hspans⟩ | ⟨start, j, hstart, hlength, hspans⟩ := h
    · exact .inl ⟨j, hcontinues⟩
    · have hi : i < text.length := (List.getElem?_eq_some_iff.1 hc).1
      exact .inr ⟨i, j, Nat.le_refl i, Nat.le_of_lt hi, hspans⟩
    · exact .inr ⟨start, j, Nat.le_of_succ_le hstart, hlength, hspans⟩

/-- From a position on, a search succeeds if a match goes on from a mark or begins there or
later. -/
theorem searchFrom_iff {a : Marked} (hi : i ≤ text.length) :
    a.searchFrom (text.take i).getLast? (text.drop i) = true ↔
      (∃ j, a.Continues text i j)
        ∨ ∃ start j, i ≤ start ∧ start ≤ text.length ∧ a.Spans text start j := by
  obtain ⟨rest, hrest⟩ : ∃ rest, rest = text.drop i := ⟨_, rfl⟩
  rw [← hrest]
  induction rest generalizing i a with
  | nil =>
    have hlength : text.length ≤ i := List.drop_eq_nil_iff.1 hrest.symm
    have hplace : Place.mk (text.take i).getLast? ([] : List Char).head? = Place.of text i := by
      rw [Place.of, List.getElem?_eq_none hlength, List.head?_nil]
    rw [searchFrom, hplace]
    simp only [Bool.if_true_left, Bool.decide_eq_true, Bool.or_false, Bool.or_eq_true, isFinal_iff,
      isNullable_iff]
    constructor
    · intro h
      obtain hcontinues | hspans := h
      · exact .inl ⟨i, hcontinues⟩
      · exact .inr ⟨i, i, Nat.le_refl i, hi, hspans⟩
    · intro h
      obtain ⟨j, hcontinues⟩ | ⟨start, j, hstart, hend, hspans⟩ := h
      · have hj : j ≤ text.length := hcontinues.le_length hi
        obtain rfl : i = j := Nat.le_antisymm hcontinues.le (Nat.le_trans hj hlength)
        exact .inl hcontinues
      · have hj : j ≤ text.length := hspans.le_length hend
        obtain rfl : i = start := Nat.le_antisymm hstart (Nat.le_trans hend hlength)
        obtain rfl : i = j := Nat.le_antisymm hspans.le (Nat.le_trans hj hlength)
        exact .inr hspans
  | cons c rest ih =>
    obtain ⟨hc, hdrop⟩ := drop_eq_cons_iff.1 hrest.symm
    have hlt : i < text.length := (List.getElem?_eq_some_iff.1 hc).1
    have hplace : Place.mk (text.take i).getLast? (c :: rest).head? = Place.of text i := by
      rw [Place.of, hc, List.head?_cons]
    have hlast : (text.take (i + 1)).getLast? = some c := by
      rw [List.take_add_one, hc, Option.toList_some, List.getLast?_concat]
    rw [searchFrom, hplace]
    by_cases hdone : a.isFinal (Place.of text i) || a.isNullable (Place.of text i)
    · rw [if_pos hdone]
      rw [Bool.or_eq_true, isFinal_iff, isNullable_iff] at hdone
      obtain hcontinues | hspans := hdone
      · exact iff_of_true rfl (.inl ⟨i, hcontinues⟩)
      · exact iff_of_true rfl (.inr ⟨i, i, Nat.le_refl i, hi, hspans⟩)
    · rw [if_neg hdone]
      rw [Bool.or_eq_true, isFinal_iff, isNullable_iff, not_or] at hdone
      rw [found_succ_iff hc hdone.1 hdone.2, ← ih hlt hdrop.symm, hlast]

theorem not_continues_copies {a : Marked} (h : ∀ i j, ¬ a.Continues text i j) (n : Nat) :
    ¬ (copies a n).Continues text i j := by
  induction n using Nat.strongRecOn generalizing i j with
  | ind n ih =>
    unfold copies
    split
    · exact id
    · split
      · exact h i j
      · intro hcontinues
        obtain ⟨k, hfirst, -⟩ | hsecond := hcontinues
        · exact ih (n / 2) (by omega) hfirst
        · exact ih (n - n / 2) (by omega) hsecond

theorem not_continues_ofExpr (expr : Expr) : ¬ (ofExpr expr).Continues text i j := by
  induction expr generalizing i j with
  | empty => exact id
  | assertion => exact id
  | chars => exact fun h => Bool.false_ne_true h.1
  | concat a b iha ihb =>
    intro h
    obtain ⟨k, ha, -⟩ | hb := h
    · exact iha ha
    · exact ihb hb
  | either a b iha ihb =>
    intro h
    obtain ha | hb := h
    · exact iha ha
    · exact ihb hb
  | repeated a least most ih =>
    unfold ofExpr
    dsimp only
    split
    · split
      · exact id
      · exact ih
    · cases most with
      | none =>
        intro h
        obtain ⟨k, hleast, -⟩ | ⟨k, hmore, -⟩ := h
        · exact not_continues_copies (fun _ _ => ih) least hleast
        · exact ih hmore
      | some most =>
        intro h
        obtain ⟨k, hleast, -⟩ | hmore := h
        · exact not_continues_copies (fun _ _ => ih) least hleast
        · refine not_continues_copies (fun _ _ hpart => ?_) (most - least) hmore
          obtain hempty | hpart := hpart
          · exact hempty
          · exact ih hpart

end Marked

/-- A pattern matches a text if its expression matches somewhere in the text. -/
theorem Compiled.isMatch_iff {expr : Expr} (hformed : expr.WellFormed) {text : String} :
    Compiled.isMatch { marked := .ofExpr expr } text = true ↔
      ∃ start j, start ≤ text.toList.length ∧ expr.Spans text.toList start j := by
  have hsearch := Marked.searchFrom_iff (a := .ofExpr expr) (Nat.zero_le text.toList.length)
  rw [List.take_zero, List.drop_zero, List.getLast?_nil] at hsearch
  rw [isMatch, hsearch]
  simp only [Marked.not_continues_ofExpr, exists_false, false_or, Nat.zero_le, true_and,
    Marked.spans_ofExpr hformed]

end RequestGuard.Pattern
