import Mathlib.Data.List.Forall2
import RequestGuard.Policy.Endpoint
import RequestGuard.Text.Split

/-!
# What wildcard routes stand for

A route with stars is cut into literal pieces. It stands for every text that has these pieces in
their order, up to case, and any text of one line in the place of each star, perhaps with a slash
after it (`Fills`).
-/

namespace RequestGuard.Policy

open Unicode (eqUpToCase)

/-- Two texts are equal up to the case of their characters. -/
def SameUpToCase (first second : List Char) :
    Prop := List.Forall₂ (fun a b => Unicode.fold a = Unicode.fold b) first second

/-- A text is filled in between literal pieces: each piece stands there up to case, after each piece
but the last a text of one line, and perhaps a slash at the end. -/
def Fills (first : List Char) (rest : List (List Char)) (text : List Char) : Prop :=
  ∃ first' rest' gaps slash,
    SameUpToCase first first' ∧ List.Forall₂ SameUpToCase rest rest' ∧ gaps.length = rest.length
      ∧ (∀ gap ∈ gaps, '\n' ∉ gap) ∧ (slash = [] ∨ slash = ['/'])
      ∧ text = first' ++ (List.zipWith (· ++ ·) gaps rest').flatten ++ slash

theorem eqUpToCase_iff {a b : Char} : eqUpToCase a b = true ↔ Unicode.fold a = Unicode.fold b := by
  unfold eqUpToCase
  rw [Bool.or_eq_true, beq_iff_eq, beq_iff_eq]
  constructor
  · intro h
    obtain rfl | h := h
    · rfl
    · exact h
  · exact .inr

/-- Pieces can be filled in, if the first one stands at the beginning and the others can be filled
in after some text of one line. -/
theorem fills_cons_iff {first second : List Char} {rest : List (List Char)} {text : List Char} :
    Fills first (second :: rest) text ↔
      ∃ first' gap after, text = first' ++ gap ++ after ∧ SameUpToCase first first' ∧ '\n' ∉ gap
        ∧ Fills second rest after := by
  constructor
  · intro h
    obtain ⟨first', others, gaps, slash, hfirst, hothers, hlength, hgaps, hslash, rfl⟩ := h
    cases hothers with
    | @cons _ second' _ rest' hsecond hrest =>
      cases gaps with
      | nil => cases hlength
      | cons gap gaps =>
        obtain ⟨hgap, hgaps⟩ := List.forall_mem_cons.1 hgaps
        refine ⟨first', gap, second' ++ (List.zipWith (· ++ ·) gaps rest').flatten ++ slash,
          ?_, hfirst, hgap,
          second', rest', gaps, slash, hsecond, hrest, Nat.succ.inj hlength, hgaps, hslash, rfl⟩
        simp
  · intro h
    obtain ⟨first', gap, after, rfl, hfirst, hgap, second', rest', gaps, slash, hsecond, hrest,
      hlength, hgaps, hslash, rfl⟩ := h
    refine ⟨first', second' :: rest', gap :: gaps, slash, hfirst, .cons hsecond hrest,
      congrArg Nat.succ hlength, List.forall_mem_cons.2 ⟨hgap, hgaps⟩, hslash, ?_⟩
    simp

theorem fills_nil_iff {first text : List Char} :
    Fills first [] text ↔ ∃ first' slash, text = first' ++ slash ∧ SameUpToCase first first'
      ∧ (slash = [] ∨ slash = ['/']) := by
  constructor
  · intro h
    obtain ⟨first', others, gaps, slash, hfirst, hothers, hlength, -, hslash, rfl⟩ := h
    cases hothers
    exact ⟨first', slash, by simp, hfirst, hslash⟩
  · intro h
    obtain ⟨first', slash, rfl, hfirst, hslash⟩ := h
    exact ⟨first', [], [], slash, hfirst, .nil, rfl, by simp, hslash, by simp⟩

namespace Glob

theorem isEnd_iff {text : List Char} : isEnd text = true ↔ text = [] ∨ text = ['/'] := by
  simp [isEnd]

/-- Characters that stand for themselves match a beginning of the text, up to case. -/
theorem accepts_chars_append_iff {literal : List Char} {glob : Glob} {text : List Char} :
    accepts (literal.map .char ++ glob) text = true ↔
      ∃ literal' after, text = literal' ++ after ∧ SameUpToCase literal literal'
        ∧ accepts glob after = true := by
  induction literal generalizing text with
  | nil =>
    constructor
    · intro h
      exact ⟨[], text, rfl, .nil, h⟩
    · intro h
      obtain ⟨_, after, rfl, hsame, haccepts⟩ := h
      cases hsame
      exact haccepts
  | cons c literal ih =>
    cases text with
    | nil =>
      constructor
      · intro h
        simp [accepts] at h
      · intro h
        obtain ⟨literal', after, htext, hsame, -⟩ := h
        cases hsame
        cases htext
    | cons d text =>
      rw [List.map_cons, List.cons_append, accepts, Bool.and_eq_true, eqUpToCase_iff, ih]
      constructor
      · intro h
        obtain ⟨hfold, literal', after, rfl, hsame, haccepts⟩ := h
        exact ⟨d :: literal', after, rfl, .cons hfold hsame, haccepts⟩
      · intro h
        obtain ⟨_, after, htext, hsame, haccepts⟩ := h
        cases hsame with
        | @cons _ d' _ literal' hfold hsame =>
          obtain ⟨rfl, rfl⟩ := List.cons.inj htext
          exact ⟨hfold, literal', after, rfl, hsame, haccepts⟩

theorem accepts_star_cons_iff {glob : Glob} {text : List Char} :
    accepts (.star :: glob) text = true
      ↔ ∃ gap after, text = gap ++ after ∧ '\n' ∉ gap ∧ accepts glob after = true := by
  induction text with
  | nil =>
    rw [accepts]
    constructor
    · intro h
      exact ⟨[], [], rfl, List.not_mem_nil, h⟩
    · intro h
      obtain ⟨gap, after, htext, -, haccepts⟩ := h
      obtain ⟨rfl, rfl⟩ := List.append_eq_nil_iff.1 htext.symm
      exact haccepts
  | cons d text ih =>
    rw [accepts, Bool.or_eq_true, Bool.and_eq_true, bne_iff_ne, ih]
    constructor
    · intro h
      obtain h | ⟨hline, gap, after, rfl, hgap, haccepts⟩ := h
      · exact ⟨[], d :: text, rfl, List.not_mem_nil, h⟩
      · exact ⟨d :: gap, after, rfl,
          List.not_mem_cons_of_ne_of_not_mem (Ne.symm hline) hgap, haccepts⟩
    · intro h
      obtain ⟨gap, after, htext, hgap, haccepts⟩ := h
      cases gap with
      | nil =>
        rw [List.nil_append] at htext
        exact .inl (htext ▸ haccepts)
      | cons e gap =>
        obtain ⟨rfl, rfl⟩ := List.cons.inj htext
        refine .inr ⟨?_, gap, after, rfl, List.not_mem_of_not_mem_cons hgap, haccepts⟩
        exact (List.ne_of_not_mem_cons hgap).symm

/-- The wildcard route with some literal pieces and a star between any two of them. -/
def ofPieces (first : List Char) (rest : List (List Char)) : Glob :=
  first.map .char ++ rest.flatMap fun piece => .star :: piece.map .char

theorem accepts_ofPieces_iff {first : List Char} {rest : List (List Char)} {text : List Char} :
    accepts (ofPieces first rest) text = true ↔ Fills first rest text := by
  induction rest generalizing first text with
  | nil =>
    rw [ofPieces, List.flatMap_nil, accepts_chars_append_iff, fills_nil_iff]
    simp only [accepts, isEnd_iff]
  | cons second rest ih =>
    rw [ofPieces, List.flatMap_cons, List.cons_append, accepts_chars_append_iff, fills_cons_iff]
    simp only [accepts_star_cons_iff]
    constructor
    · intro h
      obtain ⟨first', _, rfl, hfirst, gap, after, rfl, hgap, haccepts⟩ := h
      exact ⟨first', gap, after, (List.append_assoc ..).symm, hfirst, hgap, ih.1 haccepts⟩
    · intro h
      obtain ⟨first', gap, after, rfl, hfirst, hgap, hfills⟩ := h
      exact ⟨first', gap ++ after, List.append_assoc .., hfirst, gap, after, rfl, hgap, ih.2 hfills⟩

theorem map_ofRoute_of_not_mem {piece : List Char} (h : '*' ∉ piece) :
    (piece.map fun c => if c = '*' then GlobItem.star else .char c) = piece.map .char := by
  apply List.map_congr_left
  intro c hc
  apply if_neg
  intro hstar
  exact h (hstar ▸ hc)

theorem ofRoute_eq_ofPieces {route : String} {first : List Char} {rest : List (List Char)}
    (hroute : route.toList = Text.joinWith '*' (first :: rest))
    (hpieces : ∀ piece ∈ first :: rest, '*' ∉ piece) :
    ofRoute route = ofPieces first rest := by
  rw [ofRoute, hroute, ofPieces]
  clear hroute
  induction rest generalizing first with
  | nil =>
    rw [Text.joinWith, List.flatMap_nil, List.append_nil]
    exact map_ofRoute_of_not_mem (hpieces first List.mem_cons_self)
  | cons second rest ih =>
    obtain ⟨hfirst, hrest⟩ := List.forall_mem_cons.1 hpieces
    rw [Text.joinWith_cons first (List.cons_ne_nil second rest), List.map_append, List.map_cons,
      if_pos rfl, ih hrest, map_ofRoute_of_not_mem hfirst, List.flatMap_cons]
    rfl

end Glob

end RequestGuard.Policy
