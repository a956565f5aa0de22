import RequestGuard.Proofs.Pattern.Literal
import RequestGuard.Proofs.Pattern.Search
import RequestGuard.Proofs.Policy.Wildcard

/-!
# Patterns of wildcard routes

A route with stars is also written as a pattern: the pieces are escaped, each star is any text of
one line, and the pattern holds for a whole text with perhaps a slash at the end. The pattern
matches what the glob accepts.
-/

namespace RequestGuard.Policy

open Pattern (CharClass Compiled Expr Nested Reader escape escapeChar)

namespace GlobItem

/-- What a piece of a wildcard route is in a pattern. -/
def pattern : GlobItem → List Char
  | .star => "(.*)".toList
  | .char c => escapeChar c

def part : GlobItem → Nested
  | .star => ⟨.repeated (.chars (.compl (.single '\n'))) 0 none, 2⟩
  | .char c => ⟨.chars (.folded (.single c)), 0⟩

end GlobItem

namespace Glob

theorem intercalate_escape (s : List Char) :
    List.intercalate "(.*)".toList ((Text.splitOn '*' s).map escape)
      = (s.map fun c => if c = '*' then GlobItem.star else .char c).flatMap GlobItem.pattern := by
  induction s with
  | nil => rfl
  | cons c s ih =>
    rw [Text.splitOn, List.map_cons, List.flatMap_cons, ← ih]
    split
    · rename_i hstar
      cases hpieces : Text.splitOn '*' s with
      | nil => exact absurd hpieces (Text.splitOn_ne_nil '*' s)
      | cons piece pieces => rfl
    · cases hpieces : Text.splitOn '*' s with
      | nil => exact absurd hpieces (Text.splitOn_ne_nil '*' s)
      | cons piece pieces =>
        cases pieces with
        | nil => simp [escape, GlobItem.pattern]
        | cons next pieces => simp [escape, GlobItem.pattern, List.intercalate]

theorem reads_pattern {reader final : Reader} {rest : List Char}
    (hflags : reader.flags = { ignoreCase := true }) (item : GlobItem)
    (h : (reader.add item.part.expr item.part.depth).Reads rest final) :
    reader.Reads (item.pattern ++ rest) final := by
  obtain ⟨flags, alternatives, items, outer, names⟩ := reader
  obtain rfl : flags = { ignoreCase := true } := hflags
  cases item with
  | char c => exact .escapeChar rfl h
  | star =>
    -- The group is opened, the dot is added in it and repeated, and closing it puts it after what
    -- stood before.
    refine .step (s := '(' :: '.' :: '*' :: ')' :: rest) rfl rfl (Nat.lt_succ_self _) ?_
    refine .step rfl rfl (Nat.lt_succ_self _) ?_
    refine .step rfl rfl (Nat.lt_succ_self _) ?_
    exact .step rfl rfl (Nat.lt_succ_self _) h

theorem reads_patterns {reader final : Reader} {rest : List Char}
    (hflags : reader.flags = { ignoreCase := true }) (glob : Glob)
    (h : (reader.addParts (glob.map GlobItem.part)).Reads rest final) :
    reader.Reads (glob.flatMap GlobItem.pattern ++ rest) final := by
  induction glob generalizing reader with
  | nil => exact h
  | cons item glob ih =>
    rw [List.map_cons, ← Reader.addParts_cons] at h
    rw [List.flatMap_cons, List.append_assoc]
    apply reads_pattern hflags
    exact ih hflags h

end Glob

/-- What the end of the pattern is read as: perhaps a slash, and the end of the text. -/
def endParts : List Nested :=
  [⟨.repeated (.chars (.folded (.single '/'))) 0 (some 1), 1⟩,
    ⟨.assertion .textEnd Pattern.word, 0⟩]

/-- What the pattern of a wildcard route is read as. -/
def wildcardParts (glob : Glob) : List Nested :=
  ⟨.assertion .textStart Pattern.word, 0⟩ :: (glob.map GlobItem.part ++ endParts)

abbrev startReader : Reader := { flags := { ignoreCase := true } }

theorem reads_wildcardPattern (route : String) :
    startReader.Reads (wildcardPattern route)
      (startReader.addParts (wildcardParts (Glob.ofRoute route))) := by
  rw [wildcardPattern, Glob.intercalate_escape, ← Glob.ofRoute, wildcardParts, List.cons_append,
    ← Reader.addParts_cons, ← Reader.addParts_append]
  refine .step rfl rfl (Nat.lt_succ_self _) ?_
  apply Glob.reads_patterns rfl
  refine .step rfl rfl (Nat.lt_succ_self _) ?_
  refine .step rfl rfl (Nat.lt_succ_self _) ?_
  refine .step rfl rfl (Nat.lt_succ_self _) ?_
  exact .nil rfl

def wildcardExpr (route : String) :
    Expr := .sequence ((wildcardParts (Glob.ofRoute route)).map Nested.expr)

theorem wellFormed_of_mem_wildcardParts {glob : Glob} {part : Nested}
    (h : part ∈ wildcardParts glob) :
    part.expr.WellFormed ∧ part.depth ≤ 2 := by
  rw [wildcardParts, List.mem_cons, List.mem_append, List.mem_map, endParts, List.mem_pair] at h
  obtain rfl | ⟨item, -, rfl⟩ | rfl | rfl := h
  · exact ⟨trivial, by decide⟩
  · cases item with
    | star => exact ⟨⟨trivial, fun m _ => Nat.zero_le m⟩, Nat.le_refl 2⟩
    | char c => exact ⟨trivial, Nat.zero_le 2⟩
  · exact ⟨⟨trivial, fun m _ => Nat.zero_le m⟩, by decide⟩
  · exact ⟨trivial, by decide⟩

/-- The pattern of a route is no more nested with more stars in it, so only its size can be too
large. -/
theorem ofText?_wildcardPattern (route : String) :
    Compiled.ofText? (String.ofList (wildcardPattern route))
      = if (wildcardExpr route).size ≤ Pattern.maxSize
        then some { marked := .ofExpr (wildcardExpr route) } else none := by
  have hreads := reads_wildcardPattern route _ (Nat.lt_succ_self (wildcardPattern route).length)
  have hdepth : (startReader.addParts (wildcardParts (Glob.ofRoute route))).inside.depth
      ≤ Pattern.maxNesting := by
    apply Nat.le_trans (Reader.depth_inside_addParts_le _
      fun _ hpart => (wellFormed_of_mem_wildcardParts hpart).2)
    decide
  have hclosed :
      (startReader.addParts (wildcardParts (Glob.ofRoute route))).outer.isEmpty = true := rfl
  rw [Compiled.ofText?, String.toList_ofList, Expr.parse?, hreads, Option.bind_some]
  simp only [hclosed, hdepth, Reader.expr_inside_addParts, decide_true, Bool.true_and,
    decide_eq_true_iff]
  rw [← wildcardExpr]
  split <;> rfl

/-! ### What the pattern matches -/

variable {text : List Char} {i j : Nat}

theorem contains_line_iff {gap : List Char} :
    (∀ c ∈ gap, (CharClass.compl (.single '\n')).contains c = true) ↔ '\n' ∉ gap := by
  simp only [CharClass.contains, Bool.not_eq_true', Bool.eq_false_iff, Ne,
    CharClass.contains_single_iff]
  constructor
  · intro h hmem
    exact h '\n' hmem rfl
  · intro h c hc hline
    exact h (hline ▸ hc)

theorem contains_slash_iff {c : Char} :
    (CharClass.folded (.single '/')).contains c = true ↔ c = '/' := by
  have hcaseless : Unicode.isCaseless '/' = true := by decide +kernel
  rw [CharClass.contains_folded_single hcaseless, beq_iff_eq]

theorem spans_endParts_iff (hi : i ≤ text.length) :
    (Expr.sequence (endParts.map Nested.expr)).Spans text i j
      ↔ j = text.length ∧ Glob.isEnd (text.drop i) = true := by
  rw [Glob.isEnd_iff, endParts, List.map_cons, Expr.spans_sequence_cons]
  simp only [Expr.spans_repeated_chars_iff, contains_slash_iff]
  constructor
  · intro h
    obtain ⟨_, ⟨gap, hdrop, rfl, -, hmost, hgap⟩, hend⟩ := h
    obtain ⟨rfl, hnil⟩ := Expr.spans_textEnd_iff.1 hend
    rw [hnil, List.append_nil] at hdrop
    have hlength : text.length - i = gap.length := by rw [← hdrop, List.length_drop]
    refine ⟨by omega, ?_⟩
    rw [hdrop]
    have hshort : gap.length ≤ 1 := hmost 1 rfl
    match gap, hshort, hgap with
    | [], _, _ => exact .inl rfl
    | [c], _, hgap => exact .inr (congrArg (fun c => [c]) (hgap c List.mem_cons_self))
  · intro h
    obtain ⟨rfl, hend⟩ := h
    have hlength : text.length - i = (text.drop i).length := List.length_drop.symm
    refine ⟨text.length, ⟨text.drop i, by simp, by omega, Nat.zero_le _, ?_, ?_⟩,
      Expr.spans_textEnd_iff.2 ⟨rfl, by simp⟩⟩
    · intro m hm
      obtain rfl := Option.some.inj hm
      obtain hnil | hslash := hend
      · rw [hnil]
        exact Nat.zero_le 1
      · rw [hslash]
        exact Nat.le_refl 1
    · intro c hc
      obtain hnil | hslash := hend
      · rw [hnil] at hc
        cases hc
      · rw [hslash] at hc
        exact List.mem_singleton.1 hc

/-- The sequence of the parts matches the rest of a text if the glob accepts it. -/
theorem spans_parts_iff {glob : Glob} (hi : i ≤ text.length) :
    (Expr.sequence ((glob.map GlobItem.part ++ endParts).map Nested.expr)).Spans text i j ↔
      j = text.length ∧ glob.accepts (text.drop i) = true := by
  induction glob generalizing i with
  | nil => rw [List.map_nil, List.nil_append, spans_endParts_iff hi, Glob.accepts]
  | cons item glob ih =>
    rw [List.map_cons, List.cons_append, List.map_cons, Expr.spans_sequence_cons]
    cases item with
    | char c =>
      constructor
      · intro h
        obtain ⟨_, ⟨rfl, d, hd, hcontains⟩, hrest⟩ := h
        have hlt : i < text.length := (List.getElem?_eq_some_iff.1 hd).1
        obtain ⟨rfl, haccepts⟩ := (ih hlt).1 hrest
        refine ⟨rfl, ?_⟩
        rw [Pattern.drop_eq_cons_iff.2 ⟨hd, rfl⟩, Glob.accepts, Bool.and_eq_true, eqUpToCase_iff]
        exact ⟨Pattern.CharClass.contains_folded_single_iff.1 hcontains, haccepts⟩
      · intro h
        obtain ⟨rfl, haccepts⟩ := h
        cases hdrop : text.drop i with
        | nil =>
          rw [hdrop, Glob.accepts] at haccepts
          cases haccepts
        | cons d rest =>
          rw [hdrop, Glob.accepts, Bool.and_eq_true, eqUpToCase_iff] at haccepts
          obtain ⟨hd, rfl⟩ := Pattern.drop_eq_cons_iff.1 hdrop
          have hlt : i < text.length := (List.getElem?_eq_some_iff.1 hd).1
          refine ⟨i + 1, ⟨rfl, d, hd, ?_⟩, (ih hlt).2 ⟨rfl, haccepts.2⟩⟩
          exact Pattern.CharClass.contains_folded_single_iff.2 haccepts.1
    | star =>
      rw [Glob.accepts_star_cons_iff]
      simp only [GlobItem.part, Expr.spans_repeated_chars_iff, contains_line_iff]
      constructor
      · intro h
        obtain ⟨_, ⟨gap, hdrop, rfl, -, -, hgap⟩, hrest⟩ := h
        have hlength : (text.drop i).length = text.length - i := List.length_drop
        rw [hdrop, List.length_append] at hlength
        obtain ⟨rfl, haccepts⟩ := (ih (by omega)).1 hrest
        exact ⟨rfl, gap, _, hdrop, hgap, haccepts⟩
      · intro h
        obtain ⟨rfl, gap, after, hdrop, hgap, haccepts⟩ := h
        have hlength : (text.drop i).length = text.length - i := List.length_drop
        rw [hdrop, List.length_append] at hlength
        have hafter : text.drop (i + gap.length) = after := by
          rw [← List.drop_drop, hdrop, List.drop_left]
        refine ⟨i + gap.length, ⟨gap, hafter.symm ▸ hdrop, rfl, Nat.zero_le _, by simp, hgap⟩, ?_⟩
        exact (ih (by omega)).2 ⟨rfl, hafter.symm ▸ haccepts⟩

theorem wellFormed_wildcardExpr (route : String) : (wildcardExpr route).WellFormed := by
  apply Expr.wellFormed_sequence
  intro expr hexpr
  obtain ⟨part, hpart, rfl⟩ := List.mem_map.1 hexpr
  exact (wellFormed_of_mem_wildcardParts hpart).1

/-- The pattern of a wildcard route matches what the glob accepts. -/
theorem isMatch_wildcardPattern_iff {route : String} {compiled : Compiled}
    (h : Compiled.ofText? (String.ofList (wildcardPattern route)) = some compiled) (text : String) :
    compiled.isMatch text = true ↔ (Glob.ofRoute route).accepts text.toList = true := by
  rw [ofText?_wildcardPattern, Option.ite_none_right_eq_some] at h
  obtain rfl := Option.some.inj h.2
  rw [Compiled.isMatch_iff (wellFormed_wildcardExpr route), wildcardExpr,
    wildcardParts, List.map_cons]
  simp only [Expr.spans_sequence_cons]
  constructor
  · intro hspans
    obtain ⟨start, j, hstart, k, hbegin, hrest⟩ := hspans
    obtain ⟨-, rfl⟩ := (Expr.spans_textStart_iff hstart).1 hbegin
    exact ((spans_parts_iff (Nat.zero_le _)).1 hrest).2
  · intro haccepts
    refine ⟨0, text.toList.length, Nat.zero_le _, 0,
      (Expr.spans_textStart_iff (Nat.zero_le _)).2 ⟨rfl, rfl⟩, ?_⟩
    exact (spans_parts_iff (Nat.zero_le _)).2 ⟨rfl, haccepts⟩

/-- A wildcard route matches the other routes in which its pieces are filled in: so says the glob,
and so does the pattern of the route if it is not too large. Characters that have a meaning of their
own in a pattern only match themselves. -/
theorem wildcard_matches_iff_fills {endpoint : Endpoint} {first : List Char}
    {rest : List (List Char)} {route : String}
    (hroute : endpoint.route.toList = Text.joinWith '*' (first :: rest))
    (hpieces : ∀ piece ∈ first :: rest, '*' ∉ piece) (hstars : rest ≠ [])
    (hne : endpoint.route ≠ route) :
    (endpoint.isWildcardFor route = true ↔ Fills first rest route.toList)
      ∧ (∀ compiled, Compiled.ofText? (String.ofList (wildcardPattern endpoint.route))
        = some compiled →
          (compiled.isMatch route = true ↔ Fills first rest route.toList))
      ∧ ∀ c ∈ Pattern.specialChars, ∀ d, SameUpToCase [c] [d] ↔ d = c := by
  have hglob : (Glob.ofRoute endpoint.route).accepts route.toList = true
      ↔ Fills first rest route.toList := by
    rw [Glob.ofRoute_eq_ofPieces hroute hpieces]
    exact Glob.accepts_ofPieces_iff
  refine ⟨?_, ?_, ?_⟩
  · have hcount : endpoint.starCount ≠ 0 := by
      rw [Endpoint.starCount, hroute, Text.joinWith_cons first hstars, Ne, List.count_eq_zero]
      simp
    rw [Endpoint.isWildcardFor, Glob.isMatch_eq, Bool.and_eq_true, Bool.and_eq_true,
      bne_iff_ne, bne_iff_ne]
    constructor
    · intro h
      exact hglob.1 h.2
    · intro h
      exact ⟨⟨hne, hcount⟩, hglob.2 h⟩
  · intro compiled hcompiled
    exact (isMatch_wildcardPattern_iff hcompiled route).trans hglob
  · intro c hc d
    rw [SameUpToCase, List.forall₂_cons]
    constructor
    · intro h
      exact Pattern.eq_of_fold_eq_special hc h.1
    · intro h
      exact ⟨congrArg Unicode.fold h.symm, .nil⟩

theorem wildcard_matches_iff_fills_plus :
    Fills "/c++/".toList [".h".toList] "/C++/a/b.H/".toList
      ∧ ∃ compiled, Compiled.ofText? (String.ofList (wildcardPattern "/c++/*.h")) = some compiled
          ∧ compiled.isMatch "/C++/a/b.H/" = true := by
  let endpoint : Endpoint := { method := "GET", route := "/c++/*.h" }
  have hall :=
    @wildcard_matches_iff_fills endpoint "/c++/".toList [".h".toList] "/C++/a/b.H/"
      (by decide +kernel)
    (by decide +kernel) (by decide +kernel) (by decide +kernel)
  have hfills := hall.1.1 (by decide +kernel)
  have hsome : (Compiled.ofText? (String.ofList (wildcardPattern "/c++/*.h"))).isSome
      = true := by decide +kernel
  obtain ⟨compiled, hcompiled⟩ := Option.isSome_iff_exists.1 hsome
  exact ⟨hfills, compiled, hcompiled, (hall.2.1 compiled hcompiled).2 hfills⟩

end RequestGuard.Policy
