import RequestGuard.Proofs.Net.MatchList

/-!
# The accesses of a prefix trie are safe

The walks down a trie once more, with a check before everything that could go wrong: a node is only
read or replaced at an index inside the array, an index is only stored if it fits the word of 32
bits, and the distance by which an address is shifted is only taken if it does not go below zero.
Where a check fails there is no result.

As long as the array has at most `2 ^ 32` nodes no check ever fails, and the checked walks give what
the walks of the trie give: `WellFormed` says that every child that is followed is there.
-/

namespace RequestGuard.Net.PrefixTrie

variable {w : Nat}

def minus? (a b : Nat) : Option Nat := if b ≤ a then some (a - b) else none

/-- The bit of a word at a place counted from its front: the last one after a shift by `w - 1 -
place`. -/
def bitAt? (word : BitVec w) (place : Nat) : Option Bool := do
  let last ← minus? w 1
  let distance ← minus? last place
  return (word >>> distance).getLsbD 0

def storedIndex? (index : Nat) :
    Option UInt32 := if index < 2 ^ 32 then some (UInt32.ofNat index) else none

def setNode? (nodes : Array TrieNode) (index : Nat) (node : TrieNode) : Option (Array TrieNode) :=
  if index < nodes.size then some (nodes.set! index node) else none

theorem minus?_eq_some {a b : Nat} (h : b ≤ a) : minus? a b = some (a - b) := if_pos h

theorem storedIndex?_eq_some {index : Nat} (h : index < 2 ^ 32) :
    storedIndex? index = some (UInt32.ofNat index) :=
  if_pos h

theorem setNode?_eq_some {nodes : Array TrieNode} {index : Nat} (h : index < nodes.size)
    (node : TrieNode) :
    setNode? nodes index node = some (nodes.set! index node) :=
  if_pos h

theorem bitAt?_eq_some (word : BitVec w) {place : Nat} (h : place < w) :
    bitAt? word place = some (word.getMsbD place) := by
  have hlast : minus? w 1 = some (w - 1) := minus?_eq_some (by omega)
  have hdistance : minus? (w - 1) place = some (w - 1 - place) := minus?_eq_some (by omega)
  simp [bitAt?, hlast, hdistance, BitVec.getMsbD, h]

/-! ### Checked walks

The places of the bits are walked instead of the bits: a bit is looked up when it is needed. -/

/-- Follows the bits at some places, as `insertBits` does. -/
def insertAt? (word : BitVec w) (nodes : Array TrieNode) (index : Nat) :
    List Nat → Option (Array TrieNode)
  | [] => setNode? nodes index TrieNode.leaf
  | place :: rest => do
    let node ← nodes[index]?
    if node.terminal then return nodes
    let bit ← bitAt? word place
    match node.child bit with
    | some child => insertAt? word nodes child.toNat rest
    | none =>
      let child ← storedIndex? nodes.size
      let linked ← setNode? nodes index (node.withChild bit child)
      insertAt? word (linked.push {}) nodes.size rest

def insert? (trie : PrefixTrie w) (block : Block w) : Option (PrefixTrie w) :=
  (insertAt? block.address trie.nodes 0 (List.range (min block.length w))).map PrefixTrie.mk

/-- Follows the bits at some places, as `containsBits` does. -/
def containsAt? (word : BitVec w) (nodes : Array TrieNode) (index : Nat) : List Nat → Option Bool
  | [] => nodes[index]?.map TrieNode.terminal
  | place :: rest => do
    let node ← nodes[index]?
    if node.terminal then return true
    let bit ← bitAt? word place
    match node.child bit with
    | some child => containsAt? word nodes child.toNat rest
    | none => return false

def contains? (trie : PrefixTrie w) (word : BitVec w) : Option Bool :=
  containsAt? word trie.nodes 0 (List.range w)

theorem getElem?_eq_some_getElem! {nodes : Array TrieNode} {index : Nat} (h : index < nodes.size) :
    nodes[index]? = some nodes[index]! := by
  rw [Array.getElem?_eq_getElem h, getElem!_pos nodes index h]

/-- From a node that is there, the checked insertion succeeds and does what the other one does. -/
theorem insertAt?_eq_some {nodes : Array TrieNode} (h : WellFormed nodes) (word : BitVec w)
    {index : Nat} (hindex : index < nodes.size) {places : List Nat}
    (hplaces : ∀ place ∈ places, place < w)
    (hfits : (insertBits nodes index (places.map word.getMsbD)).size ≤ 2 ^ 32) :
    insertAt? word nodes index places
      = some (insertBits nodes index (places.map word.getMsbD)) := by
  induction places generalizing nodes index with
  | nil => exact setNode?_eq_some hindex TrieNode.leaf
  | cons place rest ih =>
    rw [List.forall_mem_cons] at hplaces
    have hnode := getElem?_eq_some_getElem! hindex
    have hbit := bitAt?_eq_some word hplaces.1
    rw [List.map_cons] at hfits ⊢
    cases hterminal : nodes[index]!.terminal with
    | true =>
      rw [insertBits_terminal hterminal]
      simp [insertAt?, hnode, hterminal]
    | false =>
      cases hchild : nodes[index]!.child (word.getMsbD place) with
      | some child =>
        rw [insertBits_child hterminal hchild] at hfits ⊢
        rw [← ih h (h.child_bounds hchild).2 hplaces.2 hfits]
        simp [insertAt?, hnode, hterminal, hbit, hchild]
      | none =>
        rw [insertBits_grow hterminal hchild] at hfits ⊢
        have hgrown := size_grow nodes index (word.getMsbD place)
        have hsmall : nodes.size < 2 ^ 32 := by
          have hle :=
            size_le_insertBits (grow nodes index (word.getMsbD place)) nodes.size
              (rest.map word.getMsbD)
          omega
        -- The walk goes on from the node that is added, which is the last one of the longer array.
        have hlinked := setNode?_eq_some hindex
          (nodes[index]!.withChild (word.getMsbD place) (UInt32.ofNat nodes.size))
        rw [← ih (h.grow hindex hterminal hsmall) (by omega) hplaces.2 hfits]
        simp [insertAt?, hnode, hterminal, hbit, hchild, storedIndex?_eq_some hsmall, hlinked, grow]

theorem containsAt?_eq_some {nodes : Array TrieNode} (h : WellFormed nodes) (word : BitVec w)
    {index : Nat} (hindex : index < nodes.size) {places : List Nat}
    (hplaces : ∀ place ∈ places, place < w) :
    containsAt? word nodes index places
      = some (containsBits nodes index (places.map word.getMsbD)) := by
  induction places generalizing index with
  | nil => simp [containsAt?, containsBits, getElem?_eq_some_getElem! hindex]
  | cons place rest ih =>
    rw [List.forall_mem_cons] at hplaces
    have hnode := getElem?_eq_some_getElem! hindex
    have hbit := bitAt?_eq_some word hplaces.1
    cases hterminal : nodes[index]!.terminal with
    | true => simp [containsAt?, containsBits, hnode, hterminal]
    | false =>
      cases hchild : nodes[index]!.child (word.getMsbD place) with
      | some child =>
        have hrest := ih (h.child_bounds hchild).2 hplaces.2
        simp [containsAt?, containsBits, hnode, hterminal, hbit, hchild, hrest]
      | none => simp [containsAt?, containsBits, hnode, hterminal, hbit, hchild]

def ofBlocks (blocks : List (Block w)) : PrefixTrie w := blocks.foldl insert empty

/-- The trie of some blocks by checked insertions. -/
def ofBlocks? (blocks : List (Block w)) : Option (PrefixTrie w) := blocks.foldlM insert? empty

theorem ofBlocks_concat (blocks : List (Block w)) (block : Block w) :
    ofBlocks (blocks ++ [block]) = (ofBlocks blocks).insert block := by
  simp [ofBlocks]

theorem ofBlocks?_concat (blocks : List (Block w)) (block : Block w) :
    ofBlocks? (blocks ++ [block]) = (ofBlocks? blocks).bind fun trie => trie.insert? block := by
  simp [ofBlocks?]

theorem size_le_insert (trie : PrefixTrie w) (block : Block w) :
    trie.nodes.size ≤ (trie.insert block).nodes.size :=
  size_le_insertBits trie.nodes 0 (leadingBits block.address block.length)

theorem size_ofBlocks_mono {earlier blocks : List (Block w)} (h : earlier <+: blocks) :
    (ofBlocks earlier).nodes.size ≤ (ofBlocks blocks).nodes.size := by
  obtain ⟨later, rfl⟩ := h
  induction later using List.reverseRecOn with
  | nil => rw [List.append_nil]
  | append_singleton later block ih =>
    rw [← List.append_assoc, ofBlocks_concat]
    exact ih.trans (size_le_insert _ block)

theorem insert?_eq_some {trie : PrefixTrie w} (h : WellFormed trie.nodes) {block : Block w}
    (hfits : (trie.insert block).nodes.size ≤ 2 ^ 32) :
    trie.insert? block = some (trie.insert block) := by
  have hplaces : ∀ place ∈ List.range (min block.length w), place < w := by
    intro place hplace
    rw [List.mem_range] at hplace
    omega
  rw [insert?, insertAt?_eq_some h block.address h.size_pos hplaces hfits]
  rfl

theorem contains?_eq_some {trie : PrefixTrie w} (h : WellFormed trie.nodes) (word : BitVec w) :
    trie.contains? word = some (trie.contains word) := by
  have hbits :
      leadingBits word w = (List.range w).map word.getMsbD := by rw [leadingBits, Nat.min_self]
  rw [contains?, containsAt?_eq_some h word h.size_pos
    fun place => List.mem_range.1, contains, hbits]

theorem wellFormed_ofBlocks {blocks : List (Block w)}
    (hfits : (ofBlocks blocks).nodes.size ≤ 2 ^ 32) :
    WellFormed (ofBlocks blocks).nodes := by
  induction blocks using List.reverseRecOn with
  | nil => exact wellFormed_empty
  | append_singleton blocks block ih =>
    have hearlier := (size_ofBlocks_mono (List.prefix_append blocks [block])).trans hfits
    rw [ofBlocks_concat] at hfits ⊢
    exact (contains_insert (ih hearlier) hfits).1

theorem ofBlocks?_eq_some {blocks : List (Block w)}
    (hfits : (ofBlocks blocks).nodes.size ≤ 2 ^ 32) :
    ofBlocks? blocks = some (ofBlocks blocks) := by
  induction blocks using List.reverseRecOn with
  | nil => rfl
  | append_singleton blocks block ih =>
    have hearlier := (size_ofBlocks_mono (List.prefix_append blocks [block])).trans hfits
    rw [ofBlocks_concat] at hfits
    rw [ofBlocks?_concat, ih hearlier, Option.bind_some,
      insert?_eq_some (wellFormed_ofBlocks hearlier) hfits, ofBlocks_concat]

/-- As long as at most `2 ^ 32` nodes are there, the root among them, the nodes form a tree in which
children lie behind their parents and nothing lies below a terminal node, the array never shrinks,
and no check fails in an insertion or in a look-up: every index is inside the array, every stored
index fits, and no shift goes below zero. -/
theorem wellFormed_and_checked (blocks : List (Block w))
    (hfits : (ofBlocks blocks).nodes.size ≤ 2 ^ 32) :
    WellFormed (ofBlocks blocks).nodes
      ∧ (∀ earlier, earlier <+: blocks →
        (ofBlocks earlier).nodes.size ≤ (ofBlocks blocks).nodes.size)
      ∧ ofBlocks? blocks = some (ofBlocks blocks)
      ∧ ∀ word, (ofBlocks blocks).contains? word = some ((ofBlocks blocks).contains word) := by
  have hwell := wellFormed_ofBlocks hfits
  refine ⟨hwell, ?_, ofBlocks?_eq_some hfits, ?_⟩
  · exact fun _ hearlier => size_ofBlocks_mono hearlier
  · exact fun word => contains?_eq_some hwell word

/-- The second block cuts off two nodes below the one that it marks, the third one all that is below
the root, and the last one is covered already. -/
theorem wellFormed_and_checked_cut_root :
    let blocks : List (Block 3) := [⟨5, 3⟩, ⟨4, 1⟩, ⟨0, 0⟩, ⟨6, 9⟩]
    (ofBlocks blocks).nodes.size ≤ 2 ^ 32
      ∧ ofBlocks? blocks = some ⟨#[.leaf, .leaf, { one := some 3 }, .leaf]⟩
      ∧ (ofBlocks blocks).contains? 2 = some true := by
  intro blocks
  have hsize : (ofBlocks blocks).nodes.size ≤ 2 ^ 32 := by decide +kernel
  obtain ⟨-, -, hchecked, hcontains⟩ := wellFormed_and_checked blocks hsize
  refine ⟨hsize, ?_, ?_⟩
  · rw [hchecked]
    decide +kernel
  · rw [hcontains]
    decide +kernel

end RequestGuard.Net.PrefixTrie
