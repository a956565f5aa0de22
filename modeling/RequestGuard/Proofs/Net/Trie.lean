import Mathlib
import RequestGuard.Net.PrefixTrie

/-!
# What a prefix trie holds

The array of nodes is read as a tree: `follow` goes down from a node along bits, and a word of bits
is covered when some beginning of it leads from the root to a terminal node. `WellFormed` is what
every insertion keeps: children lie behind their parents, no node is reached in two ways, and a
terminal node has no children. From it come the two facts that the rest uses: a walk looks up
exactly `Covers`, and an insertion adds exactly the words that begin with its bits.

An index is stored as a word of 32 bits, so both hold as long as the array has at most `2 ^ 32`
nodes.
-/

namespace RequestGuard.Net.PrefixTrie

/-- The node to which bits lead from a node. -/
def follow (nodes : Array TrieNode) (index : Nat) : List Bool → Option Nat
  | [] => some index
  | bit :: rest => (nodes[index]!.child bit).bind fun child => follow nodes child.toNat rest

/-- Some beginning of the bits leads from the root to a terminal node. -/
def Covers (nodes : Array TrieNode) (bits : List Bool) : Prop :=
  ∃ start, start <+: bits ∧ ∃ index, follow nodes 0 start = some index
    ∧ nodes[index]!.terminal = true

/-- The nodes form a tree below the first one, and nothing lies below a terminal node. -/
structure WellFormed (nodes : Array TrieNode) : Prop where
  size_pos : 0 < nodes.size
  child_bounds {index : Nat} {bit : Bool} {child : UInt32}
    (h : nodes[index]!.child bit = some child) :
    index < child.toNat ∧ child.toNat < nodes.size
  child_unique {left right : Nat} {leftBit rightBit : Bool} {child : UInt32}
    (hleft : nodes[left]!.child leftBit = some child)
    (hright : nodes[right]!.child rightBit = some child) : left = right ∧ leftBit = rightBit
  childless {index : Nat} (h : nodes[index]!.terminal = true) (bit : Bool) :
    nodes[index]!.child bit = none

/-! ### Following bits -/

theorem follow_append (nodes : Array TrieNode) (index : Nat) (first second : List Bool) :
    follow nodes index (first ++ second)
      = (follow nodes index first).bind fun middle => follow nodes middle second := by
  induction first generalizing index with
  | nil => rfl
  | cons bit rest ih =>
    simp only [List.cons_append, follow]
    cases nodes[index]!.child bit with
    | none => rfl
    | some child => exact ih child.toNat

theorem follow_snoc {nodes : Array TrieNode} {index last : Nat} {bits : List Bool} {bit : Bool}
    (h : follow nodes index (bits ++ [bit]) = some last) :
    ∃ middle child, follow nodes index bits = some middle ∧ nodes[middle]!.child bit = some child
      ∧ child.toNat = last := by
  rw [follow_append] at h
  obtain ⟨middle, hmiddle, hlast⟩ := Option.bind_eq_some_iff.1 h
  obtain ⟨child, hchild, heq⟩ := Option.bind_eq_some_iff.1 hlast
  exact ⟨middle, child, hmiddle, hchild, Option.some.inj heq⟩

theorem WellFormed.follow_lt {nodes : Array TrieNode} (h : WellFormed nodes) {start last : Nat}
    {bits : List Bool} (hstart : start < nodes.size)
    (hfollow : follow nodes start bits = some last) :
    last < nodes.size := by
  induction bits generalizing start with
  | nil => exact Option.some.inj hfollow ▸ hstart
  | cons bit rest ih =>
    obtain ⟨child, hchild, hrest⟩ := Option.bind_eq_some_iff.1 hfollow
    exact ih (h.child_bounds hchild).2 hrest

/-- No node is reached from the root in two ways. -/
theorem WellFormed.follow_injective {nodes : Array TrieNode} (h : WellFormed nodes)
    {left right : List Bool} {index : Nat} (hleft : follow nodes 0 left = some index)
    (hright : follow nodes 0 right = some index) :
    left = right := by
  induction left using List.reverseRecOn generalizing right index with
  | nil =>
    rcases List.eq_nil_or_concat right with rfl | ⟨init, bit, rfl⟩
    · rfl
    · obtain ⟨middle, child, _, hchild, hlast⟩ := follow_snoc (List.concat_eq_append ▸ hright)
      have hzero : 0 = index := Option.some.inj hleft
      have hlt := (h.child_bounds hchild).1
      omega
  | append_singleton init bit ih =>
    obtain ⟨middle, child, hmiddle, hchild, hlast⟩ := follow_snoc hleft
    rcases List.eq_nil_or_concat right with rfl | ⟨init', bit', rfl⟩
    · have hzero : 0 = index := Option.some.inj hright
      have hlt := (h.child_bounds hchild).1
      omega
    · rw [List.concat_eq_append] at hright ⊢
      obtain ⟨middle', child', hmiddle', hchild', hlast'⟩ := follow_snoc hright
      have hsame : child' = child := UInt32.toNat_inj.1 (hlast'.trans hlast.symm)
      subst hsame
      obtain ⟨rfl, rfl⟩ := h.child_unique hchild hchild'
      rw [ih hmiddle hmiddle']

/-- A walk down the trie finds out whether its bits are covered. -/
theorem containsBits_iff (nodes : Array TrieNode) (index : Nat) (bits : List Bool) :
    containsBits nodes index bits = true ↔
      ∃ start, start <+: bits ∧
        ∃ last, follow nodes index start = some last ∧ nodes[last]!.terminal = true := by
  induction bits generalizing index with
  | nil => simp [containsBits, follow]
  | cons bit rest ih =>
    simp only [containsBits]
    by_cases hterminal : nodes[index]!.terminal = true
    · rw [if_pos hterminal]
      exact ⟨fun _ => ⟨[], List.nil_prefix, index, rfl, hterminal⟩, fun _ => rfl⟩
    rw [if_neg hterminal]
    constructor
    · intro h
      cases hchild : nodes[index]!.child bit with
      | none => simp [hchild] at h
      | some child =>
        rw [hchild] at h
        obtain ⟨start, hstart, last, hlast, hmark⟩ := (ih child.toNat).1 h
        exact ⟨bit :: start, List.cons_prefix_cons.2 ⟨rfl, hstart⟩, last,
          by simp [follow, hchild, hlast], hmark⟩
    · rintro ⟨start, hstart, last, hlast, hmark⟩
      cases start with
      | nil => exact absurd (Option.some.inj hlast ▸ hmark) hterminal
      | cons first start =>
        obtain ⟨rfl, hbegins⟩ := List.cons_prefix_cons.1 hstart
        obtain ⟨child, hchild, hrest⟩ := Option.bind_eq_some_iff.1 hlast
        rw [hchild]
        exact (ih child.toNat).2 ⟨start, hbegins, last, hrest, hmark⟩

/-! ### Growing and marking

An insertion adds a child that is missing, any number of times, and marks one node at the end. -/

def grow (nodes : Array TrieNode) (index : Nat) (bit : Bool) : Array TrieNode :=
  (nodes.set! index (nodes[index]!.withChild bit (UInt32.ofNat nodes.size))).push {}

def mark (nodes : Array TrieNode) (index : Nat) : Array TrieNode := nodes.set! index TrieNode.leaf

theorem size_grow (nodes : Array TrieNode) (index : Nat) (bit : Bool) :
    (grow nodes index bit).size = nodes.size + 1 := by
  simp [grow]

theorem size_mark (nodes : Array TrieNode) (index : Nat) :
    (mark nodes index).size = nodes.size := by
  simp [mark]

theorem child_withChild (node : TrieNode) (bit other : Bool) (index : UInt32) :
    (node.withChild bit index).child other
      = if other = bit then some index else node.child other := by
  cases bit <;> cases other <;> rfl

theorem terminal_withChild (node : TrieNode) (bit : Bool) (index : UInt32) :
    (node.withChild bit index).terminal = node.terminal := by
  cases bit <;> rfl

theorem child_of_size_le {nodes : Array TrieNode} {index : Nat} (h : nodes.size ≤ index)
    (bit : Bool) :
    nodes[index]!.child bit = none := by
  rw [getElem!_neg nodes index (Nat.not_lt.2 h)]
  cases bit <;> rfl

theorem child_grow {nodes : Array TrieNode} {index : Nat} (hindex : index < nodes.size) (bit : Bool)
    (other : Nat) (otherBit : Bool) :
    (grow nodes index bit)[other]!.child otherBit
      = if other = index ∧ otherBit = bit then some (UInt32.ofNat nodes.size)
        else nodes[other]!.child otherBit := by
  by_cases hsame : other = index
  · subst hsame
    have hnode :
        (grow nodes other bit)[other]! = nodes[other]!.withChild bit (UInt32.ofNat nodes.size) := by
      grind [grow]
    simp [hnode, child_withChild]
  · rw [if_neg fun h => hsame h.1]
    rcases Nat.lt_trichotomy other nodes.size with hlt | rfl | hgt
    · have hnode : (grow nodes index bit)[other]! = nodes[other]! := by grind [grow]
      rw [hnode]
    · have hnode : (grow nodes index bit)[nodes.size]! = {} := by grind [grow]
      rw [hnode, child_of_size_le (Nat.le_refl _)]
      cases otherBit <;> rfl
    · rw [child_of_size_le (by rw [size_grow]; omega), child_of_size_le (by omega)]

theorem terminal_grow {nodes : Array TrieNode} {index : Nat} (hindex : index < nodes.size)
    (bit : Bool) (other : Nat) :
    (grow nodes index bit)[other]!.terminal = nodes[other]!.terminal := by
  have hdefault : (default : TrieNode).terminal = false := rfl
  by_cases hsame : other = index
  · subst hsame
    have hnode :
        (grow nodes other bit)[other]! = nodes[other]!.withChild bit (UInt32.ofNat nodes.size) := by
      grind [grow]
    rw [hnode, terminal_withChild]
  · grind [grow]

theorem child_mark {nodes : Array TrieNode} {index : Nat} (hindex : index < nodes.size)
    (other : Nat) (bit : Bool) :
    (mark nodes index)[other]!.child bit
      = if other = index then none else nodes[other]!.child bit := by
  by_cases hsame : other = index
  · subst hsame
    have hnode : (mark nodes other)[other]! = TrieNode.leaf := by grind [mark]
    rw [hnode, if_pos rfl]
    cases bit <;> rfl
  · have hnode : (mark nodes index)[other]! = nodes[other]! := by grind [mark]
    rw [hnode, if_neg hsame]

theorem terminal_mark {nodes : Array TrieNode} {index : Nat} (hindex : index < nodes.size)
    (other : Nat) :
    (mark nodes index)[other]!.terminal
      = if other = index then true else nodes[other]!.terminal := by
  by_cases hsame : other = index
  · subst hsame
    have hnode : (mark nodes other)[other]! = TrieNode.leaf := by grind [mark]
    rw [hnode, if_pos rfl]
    rfl
  · have hnode : (mark nodes index)[other]! = nodes[other]! := by grind [mark]
    rw [hnode, if_neg hsame]

theorem WellFormed.grow {nodes : Array TrieNode} (h : WellFormed nodes) {index : Nat}
    (hindex : index < nodes.size) {bit : Bool} (hterminal : nodes[index]!.terminal = false)
    (hfits : nodes.size < 2 ^ 32) : WellFormed (grow nodes index bit) := by
  have hvalue : (UInt32.ofNat nodes.size).toNat = nodes.size := UInt32.toNat_ofNat_of_lt' hfits
  have hfresh : ∀ {other : Nat} {otherBit : Bool} {child : UInt32},
      nodes[other]!.child otherBit = some child → child ≠ UInt32.ofNat nodes.size := by
    intro other otherBit child hchild heq
    have hlt := (h.child_bounds hchild).2
    rw [heq, hvalue] at hlt
    omega
  constructor
  · rw [size_grow]
    omega
  · intro other otherBit child hchild
    rw [child_grow hindex] at hchild
    rw [size_grow]
    split at hchild
    · rename_i hsame
      obtain rfl := Option.some.inj hchild
      omega
    · have := h.child_bounds hchild
      omega
  · intro left right leftBit rightBit child hleft hright
    rw [child_grow hindex] at hleft hright
    split at hleft <;> split at hright
    · rename_i hl hr
      exact ⟨hl.1.trans hr.1.symm, hl.2.trans hr.2.symm⟩
    · exact absurd (Option.some.inj hleft).symm (hfresh hright)
    · exact absurd (Option.some.inj hright).symm (hfresh hleft)
    · exact h.child_unique hleft hright
  · intro other hother otherBit
    rw [terminal_grow hindex] at hother
    have hne : other ≠ index := by
      rintro rfl
      simp [hother] at hterminal
    rw [child_grow hindex, if_neg fun hsame => hne hsame.1]
    exact h.childless hother otherBit

theorem WellFormed.mark {nodes : Array TrieNode} (h : WellFormed nodes) {index : Nat}
    (hindex : index < nodes.size) : WellFormed (mark nodes index) := by
  have hold : ∀ {other : Nat} {bit : Bool} {child : UInt32},
      (PrefixTrie.mark nodes index)[other]!.child bit = some child →
        nodes[other]!.child bit = some child := by
    intro other bit child hchild
    rw [child_mark hindex] at hchild
    split at hchild
    · cases hchild
    · exact hchild
  constructor
  · rw [size_mark]
    exact h.size_pos
  · intro other bit child hchild
    rw [size_mark]
    exact h.child_bounds (hold hchild)
  · intro left right leftBit rightBit child hleft hright
    exact h.child_unique (hold hleft) (hold hright)
  · intro other hother bit
    rw [child_mark hindex]
    split
    · rfl
    · rename_i hne
      rw [terminal_mark hindex, if_neg hne] at hother
      exact h.childless hother bit

/-- A path in the grown tree ends at the new node or was there before. -/
theorem follow_of_grow {nodes : Array TrieNode} {index : Nat} (hindex : index < nodes.size)
    {bit : Bool} (hfits : nodes.size < 2 ^ 32) {start last : Nat} {path : List Bool}
    (hlast : follow (grow nodes index bit) start path = some last) :
    last = nodes.size ∨ follow nodes start path = some last := by
  have hvalue : (UInt32.ofNat nodes.size).toNat = nodes.size := UInt32.toNat_ofNat_of_lt' hfits
  induction path generalizing start with
  | nil => exact .inr hlast
  | cons first rest ih =>
    obtain ⟨child, hchild, hrest⟩ := Option.bind_eq_some_iff.1 hlast
    rw [child_grow hindex] at hchild
    split at hchild
    · obtain rfl := Option.some.inj hchild
      rw [hvalue] at hrest
      cases rest with
      | nil => exact .inl (Option.some.inj hrest).symm
      | cons second rest =>
        obtain ⟨grandchild, hgrandchild, _⟩ := Option.bind_eq_some_iff.1 hrest
        rw [child_grow hindex, if_neg fun hsame => by omega, child_of_size_le (Nat.le_refl _)]
          at hgrandchild
        cases hgrandchild
    · rcases ih hrest with hsize | hpath
      · exact .inl hsize
      · exact .inr (by simp [follow, hchild, hpath])

theorem follow_grow {nodes : Array TrieNode} {index : Nat} (hindex : index < nodes.size)
    {bit : Bool} (hmissing : nodes[index]!.child bit = none) {start last : Nat} {path : List Bool}
    (hlast : follow nodes start path = some last) :
    follow (grow nodes index bit) start path = some last := by
  induction path generalizing start with
  | nil => exact hlast
  | cons first rest ih =>
    obtain ⟨child, hchild, hrest⟩ := Option.bind_eq_some_iff.1 hlast
    have hkept : (grow nodes index bit)[start]!.child first = some child := by
      rw [child_grow hindex, if_neg, hchild]
      rintro ⟨rfl, rfl⟩
      rw [hmissing] at hchild
      cases hchild
    simp [follow, hkept, ih hrest]

theorem follow_grow_snoc {nodes : Array TrieNode} {index : Nat} (hindex : index < nodes.size)
    {bit : Bool} (hmissing : nodes[index]!.child bit = none) (hfits : nodes.size < 2 ^ 32)
    {path : List Bool} (hpath : follow nodes 0 path = some index) :
    follow (grow nodes index bit) 0 (path ++ [bit]) = some nodes.size := by
  rw [follow_append, follow_grow hindex hmissing hpath]
  simp [follow, child_grow hindex, UInt32.toNat_ofNat_of_lt' hfits]

/-- Growing covers nothing new: the new node is not terminal. -/
theorem covers_grow {nodes : Array TrieNode} {index : Nat} (hindex : index < nodes.size)
    {bit : Bool} (hmissing : nodes[index]!.child bit = none) (hfits : nodes.size < 2 ^ 32)
    (bits : List Bool) :
    Covers (grow nodes index bit) bits ↔ Covers nodes bits := by
  constructor
  · rintro ⟨path, hprefix, last, hlast, hmark⟩
    rw [terminal_grow hindex] at hmark
    rcases follow_of_grow hindex hfits hlast with rfl | hpath
    · have hdefault : (default : TrieNode).terminal = false := rfl
      rw [getElem!_neg nodes nodes.size (Nat.lt_irrefl _), hdefault] at hmark
      cases hmark
    · exact ⟨path, hprefix, last, hpath, hmark⟩
  · rintro ⟨path, hprefix, last, hlast, hmark⟩
    exact ⟨path, hprefix, last, follow_grow hindex hmissing hlast,
      by rw [terminal_grow hindex]; exact hmark⟩

/-- Below a marked node all paths end. -/
theorem follow_of_mark {nodes : Array TrieNode} {index : Nat} (hindex : index < nodes.size)
    {start last : Nat} {path : List Bool}
    (hlast : follow (mark nodes index) start path = some last) :
    follow nodes start path = some last := by
  induction path generalizing start with
  | nil => exact hlast
  | cons first rest ih =>
    obtain ⟨child, hchild, hrest⟩ := Option.bind_eq_some_iff.1 hlast
    rw [child_mark hindex] at hchild
    split at hchild
    · cases hchild
    · simp [follow, hchild, ih hrest]

/-- A path is cut off at the marked node if it leads there, and kept if it does not. -/
theorem follow_mark {nodes : Array TrieNode} {index : Nat} (hindex : index < nodes.size)
    {start last : Nat} {path : List Bool} (hlast : follow nodes start path = some last) :
    follow (mark nodes index) start path = some last
      ∨ ∃ shorter, shorter <+: path ∧ follow (mark nodes index) start shorter = some index := by
  induction path generalizing start with
  | nil => exact .inl hlast
  | cons first rest ih =>
    by_cases hstart : start = index
    · exact .inr ⟨[], List.nil_prefix, by rw [hstart]; rfl⟩
    · obtain ⟨child, hchild, hrest⟩ := Option.bind_eq_some_iff.1 hlast
      have hkept : (mark nodes index)[start]!.child first = some child := by
        rw [child_mark hindex, if_neg hstart, hchild]
      rcases ih hrest with hpath | ⟨shorter, hshorter, hpath⟩
      · exact .inl (by simp [follow, hkept, hpath])
      · exact .inr ⟨first :: shorter, List.cons_prefix_cons.2 ⟨rfl, hshorter⟩,
          by simp [follow, hkept, hpath]⟩

/-- Marking a node covers what begins with the path to it. -/
theorem WellFormed.covers_mark {nodes : Array TrieNode} (h : WellFormed nodes) {index : Nat}
    {path : List Bool} (hpath : follow nodes 0 path = some index) (bits : List Bool) :
    Covers (PrefixTrie.mark nodes index) bits ↔ Covers nodes bits ∨ path <+: bits := by
  have hindex : index < nodes.size := h.follow_lt h.size_pos hpath
  have hmarked : (PrefixTrie.mark nodes index)[index]!.terminal = true := by
    rw [terminal_mark hindex, if_pos rfl]
  constructor
  · rintro ⟨start, hprefix, last, hlast, hmark⟩
    have hold := follow_of_mark hindex hlast
    by_cases hsame : last = index
    · subst hsame
      exact .inr (h.follow_injective hold hpath ▸ hprefix)
    · rw [terminal_mark hindex, if_neg hsame] at hmark
      exact .inl ⟨start, hprefix, last, hold, hmark⟩
  · rintro (⟨start, hprefix, last, hlast, hmark⟩ | hprefix)
    · rcases follow_mark hindex hlast with hkept | ⟨shorter, hshorter, hcut⟩
      · refine ⟨start, hprefix, last, hkept, ?_⟩
        rw [terminal_mark hindex, hmark, ite_self]
      · exact ⟨shorter, hshorter.trans hprefix, index, hcut, hmarked⟩
    · rcases follow_mark hindex hpath with hkept | ⟨shorter, hshorter, hcut⟩
      · exact ⟨path, hprefix, index, hkept, hmarked⟩
      · exact ⟨shorter, hshorter.trans hprefix, index, hcut, hmarked⟩

/-! ### Inserting -/

theorem insertBits_nil (nodes : Array TrieNode) (index : Nat) :
    insertBits nodes index [] = mark nodes index :=
  rfl

theorem insertBits_terminal {nodes : Array TrieNode} {index : Nat}
    (h : nodes[index]!.terminal = true) (bit : Bool) (rest : List Bool) :
    insertBits nodes index (bit :: rest) = nodes := by
  rw [insertBits, if_pos h]

theorem insertBits_child {nodes : Array TrieNode} {index : Nat}
    (h : nodes[index]!.terminal = false) {bit : Bool} {child : UInt32}
    (hchild : nodes[index]!.child bit = some child) (rest : List Bool) :
    insertBits nodes index (bit :: rest) = insertBits nodes child.toNat rest := by
  simp [insertBits, h, hchild]

theorem insertBits_grow {nodes : Array TrieNode} {index : Nat} (h : nodes[index]!.terminal = false)
    {bit : Bool} (hchild : nodes[index]!.child bit = none) (rest : List Bool) :
    insertBits nodes index (bit :: rest) = insertBits (grow nodes index bit) nodes.size rest := by
  simp [insertBits, grow, h, hchild]

theorem size_le_insertBits (nodes : Array TrieNode) (index : Nat) (bits : List Bool) :
    nodes.size ≤ (insertBits nodes index bits).size := by
  induction bits generalizing nodes index with
  | nil => exact Nat.le_of_eq (size_mark nodes index).symm
  | cons bit rest ih =>
    cases hterminal : nodes[index]!.terminal with
    | true =>
      exact Nat.le_of_eq (congrArg Array.size (insertBits_terminal hterminal bit rest).symm)
    | false =>
      cases hchild : nodes[index]!.child bit with
      | some child =>
        rw [insertBits_child hterminal hchild]
        exact ih nodes child.toNat
      | none =>
        rw [insertBits_grow hterminal hchild]
        have hgrown := ih (grow nodes index bit) nodes.size
        rw [size_grow] at hgrown
        omega

/-- An insertion makes at most one node for each bit. -/
theorem size_insertBits_le (nodes : Array TrieNode) (index : Nat) (bits : List Bool) :
    (insertBits nodes index bits).size ≤ nodes.size + bits.length := by
  induction bits generalizing nodes index with
  | nil => exact Nat.le_of_eq (size_mark nodes index)
  | cons bit rest ih =>
    rw [List.length_cons]
    cases hterminal : nodes[index]!.terminal with
    | true =>
      rw [insertBits_terminal hterminal]
      omega
    | false =>
      cases hchild : nodes[index]!.child bit with
      | some child =>
        rw [insertBits_child hterminal hchild]
        have hle := ih nodes child.toNat
        omega
      | none =>
        rw [insertBits_grow hterminal hchild]
        have hle := ih (grow nodes index bit) nodes.size
        rw [size_grow] at hle
        omega

/-- An insertion from the end of a path keeps the tree and covers what begins with the path and the
bits inserted below it. -/
theorem WellFormed.insertBits {nodes : Array TrieNode} (h : WellFormed nodes) {index : Nat}
    {path rest : List Bool} (hpath : follow nodes 0 path = some index)
    (hfits : (insertBits nodes index rest).size ≤ 2 ^ 32) :
    WellFormed (insertBits nodes index rest)
      ∧ ∀ bits, Covers (PrefixTrie.insertBits nodes index rest) bits
        ↔ Covers nodes bits ∨ path ++ rest <+: bits := by
  induction rest generalizing nodes index path with
  | nil =>
    rw [insertBits_nil, List.append_nil]
    exact ⟨h.mark (h.follow_lt h.size_pos hpath), h.covers_mark hpath⟩
  | cons bit rest ih =>
    have hindex : index < nodes.size := h.follow_lt h.size_pos hpath
    cases hterminal : nodes[index]!.terminal with
    | true =>
      rw [insertBits_terminal hterminal]
      refine ⟨h, fun bits => ⟨.inl, fun hcovered => ?_⟩⟩
      rcases hcovered with hcovered | hprefix
      · exact hcovered
      · exact ⟨path, (List.prefix_append path _).trans hprefix, index, hpath, hterminal⟩
    | false =>
      cases hchild : nodes[index]!.child bit with
      | some child =>
        rw [insertBits_child hterminal hchild] at hfits ⊢
        have hlonger : follow nodes 0 (path ++ [bit]) = some child.toNat := by
          rw [follow_append, hpath]
          simp [follow, hchild]
        rw [List.append_cons]
        exact ih h hlonger hfits
      | none =>
        rw [insertBits_grow hterminal hchild] at hfits ⊢
        have hsmall : nodes.size < 2 ^ 32 := by
          have hle := size_le_insertBits (PrefixTrie.grow nodes index bit) nodes.size rest
          rw [size_grow] at hle
          omega
        obtain ⟨hwell, hcovers⟩ := ih (h.grow hindex hterminal hsmall)
          (follow_grow_snoc hindex hchild hsmall hpath) hfits
        refine ⟨hwell, fun bits => ?_⟩
        rw [hcovers bits, covers_grow hindex hchild hsmall, List.append_cons path bit rest]

end RequestGuard.Net.PrefixTrie
