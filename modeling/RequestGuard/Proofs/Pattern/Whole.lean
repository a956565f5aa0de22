import RequestGuard.Proofs.Pattern.Literal
import RequestGuard.Proofs.Pattern.Search

/-!
# Patterns of whole texts

An expression takes the pieces that satisfy a predicate if it matches these, wherever they stand,
and no others (`Expr.Takes`). What a sequence takes is put together from what its parts take, so the
predicate of an expression follows its form. A sequence between the start and the end of a text is
found in the texts that it takes (`Expr.found_whole_iff`).
-/

namespace RequestGuard.Pattern

namespace Expr

variable {text : List Char} {a b : Expr} {P Q : List Char → Prop}

/-- The expression matches somewhere in a text. -/
def Found (text : List Char) (expr : Expr) :
    Prop := ∃ start j, start ≤ text.length ∧ expr.Spans text start j

/-- The expression matches the pieces of a text that satisfy a predicate, and no others. -/
def Takes (expr : Expr) (P : List Char → Prop) : Prop :=
  ∀ text i j, expr.Spans text i j
    ↔ ∃ piece, text.drop i = piece ++ text.drop j ∧ j = i + piece.length ∧ P piece

theorem Takes.of_iff (h : a.Takes P) (hiff : ∀ s, P s ↔ Q s) : a.Takes Q := by
  obtain rfl : P = Q := funext fun s => propext (hiff s)
  exact h

theorem takes_chars (cls : CharClass) :
    (chars cls).Takes fun s => ∃ c, s = [c] ∧ cls.contains c = true := by
  intro text i j
  rw [Spans]
  constructor
  · intro h
    obtain ⟨rfl, c, hc, hcontains⟩ := h
    exact ⟨[c], drop_eq_cons_iff.2 ⟨hc, rfl⟩, rfl, c, rfl, hcontains⟩
  · intro h
    obtain ⟨_, hdrop, rfl, c, rfl, hcontains⟩ := h
    exact ⟨rfl, c, (drop_eq_cons_iff.1 hdrop).1, hcontains⟩

theorem takes_repeated_chars (cls : CharClass) (least : Nat) (most : Option Nat) :
    (repeated (.chars cls) least most).Takes fun s =>
      least ≤ s.length ∧ (∀ m, most = some m → s.length ≤ m) ∧ ∀ c ∈ s, cls.contains c = true := by
  intro text i j
  exact spans_repeated_chars_iff

theorem Takes.either (ha : a.Takes P) (hb : b.Takes Q) : (either a b).Takes fun s => P s ∨ Q s := by
  intro text i j
  rw [Spans, ha, hb, ← exists_or]
  simp only [and_or_left]

theorem takes_sequence_nil : (sequence []).Takes fun s => s = [] := by
  intro text i j
  rw [sequence, Spans]
  constructor
  · intro h
    exact ⟨[], by rw [h, List.nil_append], h.symm, rfl⟩
  · intro h
    obtain ⟨_, -, rfl, rfl⟩ := h
    rfl

theorem Takes.sequence_cons {rest : List Expr} (ha : a.Takes P) (hrest : (sequence rest).Takes Q) :
    (sequence (a :: rest)).Takes fun s => ∃ front back, s = front ++ back ∧ P front ∧ Q back := by
  intro text i j
  rw [spans_sequence_cons]
  constructor
  · intro h
    obtain ⟨k, hfirst, hsecond⟩ := h
    obtain ⟨front, hfront, rfl, hP⟩ := (ha _ _ _).1 hfirst
    obtain ⟨back, hback, rfl, hQ⟩ := (hrest _ _ _).1 hsecond
    refine ⟨front ++ back, ?_, ?_, front, back, rfl, hP, hQ⟩
    · rw [hfront, hback, List.append_assoc]
    · rw [List.length_append, Nat.add_assoc]
  · intro h
    obtain ⟨_, hdrop, rfl, front, back, rfl, hP, hQ⟩ := h
    have hback : text.drop (i + front.length) = back ++ text.drop (i + (front ++ back).length) := by
      rw [← List.drop_drop, hdrop, List.append_assoc, List.drop_left]
    refine ⟨i + front.length, (ha _ _ _).2 ⟨front, ?_, rfl, hP⟩,
      (hrest _ _ _).2 ⟨back, hback, ?_, hQ⟩⟩
    · rw [hback, hdrop, List.append_assoc]
    · rw [List.length_append, Nat.add_assoc]

def wholeParts (parts : List Expr) : List Expr :=
  .assertion .textStart word :: (parts ++ [.assertion .textEnd word])

theorem spans_sequence_concat (parts : List Expr) (last : Expr) {i j : Nat} :
    (sequence (parts ++ [last])).Spans text i j
      ↔ ∃ k, (sequence parts).Spans text i k ∧ last.Spans text k j := by
  induction parts generalizing i with
  | nil => simp [sequence, Spans]
  | cons a parts ih =>
    rw [List.cons_append, spans_sequence_cons]
    simp only [ih, spans_sequence_cons]
    constructor
    · intro h
      obtain ⟨l, ha, k, hparts, hlast⟩ := h
      exact ⟨k, ⟨l, ha, hparts⟩, hlast⟩
    · intro h
      obtain ⟨k, ⟨l, ha, hparts⟩, hlast⟩ := h
      exact ⟨l, ha, k, hparts, hlast⟩

theorem wellFormed_whole {parts : List Expr} (h : ∀ part ∈ parts, part.WellFormed) :
    ∀ part ∈ wholeParts parts, part.WellFormed := by
  intro part hpart
  rw [wholeParts, List.mem_cons, List.mem_append, List.mem_singleton] at hpart
  obtain rfl | hpart | rfl := hpart
  · trivial
  · exact h part hpart
  · trivial

/-- A sequence from the start of a text to its end is found in the texts that the sequence takes. -/
theorem found_whole_iff {parts : List Expr} (h : (sequence parts).Takes P) :
    (sequence (wholeParts parts)).Found text ↔ P text := by
  unfold Found wholeParts
  simp only [spans_sequence_cons, spans_sequence_concat, h text, spans_textEnd_iff]
  constructor
  · intro hfound
    obtain ⟨start, _, hstart, _, hbegin, k, ⟨piece, hdrop, -, hP⟩, -, hend⟩ := hfound
    obtain ⟨-, rfl⟩ := (spans_textStart_iff hstart).1 hbegin
    rw [hend, List.drop_zero, List.append_nil] at hdrop
    rwa [hdrop]
  · intro hP
    have hend : text.drop text.length = [] := List.drop_length
    refine ⟨0, text.length, Nat.zero_le _, 0, (spans_textStart_iff (Nat.zero_le _)).2 ⟨rfl, rfl⟩,
      text.length, ?_, rfl, hend⟩
    exact ⟨text, by rw [hend, List.drop_zero, List.append_nil], (Nat.zero_add _).symm, hP⟩

theorem found_sequence_empty_iff (parts : List Expr) :
    (sequence (.empty :: parts)).Found text ↔ (sequence parts).Found text := by
  unfold Found
  simp only [spans_sequence_cons, Spans, exists_eq_left']

theorem found_either_iff : (either a b).Found text ↔ a.Found text ∨ b.Found text := by
  unfold Found
  simp only [Spans, and_or_left, exists_or]

end Expr

/-- A pattern, which ignores case only where it says so, is read as an expression that is found in
the texts which pass a test. -/
structure Recognizes (pattern : String) (test : List Char → Bool) (expr : Expr) : Prop where
  parse : Expr.parse? ("(?-i)" ++ pattern).toList = some expr
  formed : expr.WellFormed
  found : ∀ text, expr.Found text ↔ test text = true

theorem Recognizes.isMatch_eq {pattern : String} {test : List Char → Bool} {expr : Expr}
    (h : Recognizes pattern test expr) (text : String) :
    (Compiled.ofText? ("(?-i)" ++ pattern)).any (fun compiled => compiled.isMatch text)
      = test text.toList := by
  rw [Compiled.ofText?, h.parse, Option.map_some, Option.any_some, Bool.eq_iff_iff,
    Compiled.isMatch_iff h.formed]
  exact h.found text.toList

end RequestGuard.Pattern
