import RequestGuard.Net.Network

/-!
# A trie of leading bits

A set of blocks of words of `w` bits, held as a binary trie whose nodes are the entries of one
array that only grows. A child is named by its index, a word of 32 bits. A terminal node stands for
every word that leads to it; it has no children, so blocks inside a block already present are not
stored, and a block that arrives later cuts off the blocks inside it.
-/

namespace RequestGuard.Net

/-- A node: the indices of its children, and whether every word that leads here is in the set. -/
structure TrieNode where
  zero : Option UInt32 := none
  one : Option UInt32 := none
  terminal : Bool := false
deriving DecidableEq, Repr, Inhabited

namespace TrieNode

def child (node : TrieNode) (bit : Bool) : Option UInt32 := if bit then node.one else node.zero

def withChild (node : TrieNode) (bit : Bool) (index : UInt32) : TrieNode :=
  if bit then { node with one := some index } else { node with zero := some index }

/-- The node that stands for every word that leads to it. -/
def leaf : TrieNode := { terminal := true }

end TrieNode

/-- A trie over words of `w` bits. The root is the first node. -/
structure PrefixTrie (w : Nat) where
  nodes : Array TrieNode
deriving DecidableEq, Repr

namespace PrefixTrie

variable {w : Nat}

def empty : PrefixTrie w := ⟨Array.singleton {}⟩

def leadingBits (word : BitVec w) (length : Nat) : List Bool :=
  (List.range (min length w)).map word.getMsbD

/-- Follows bits down from a node, makes the nodes that are missing, and marks the last one. -/
def insertBits (nodes : Array TrieNode) (index : Nat) : List Bool → Array TrieNode
  | [] => nodes.set! index TrieNode.leaf
  | bit :: rest =>
    let node := nodes[index]!
    if node.terminal then nodes
    else
      match node.child bit with
      | some child => insertBits nodes child.toNat rest
      | none =>
        let child := nodes.size
        let grown := (nodes.set! index (node.withChild bit (UInt32.ofNat child))).push {}
        insertBits grown child rest

def insert (trie : PrefixTrie w) (block : Block w) : PrefixTrie w :=
  ⟨insertBits trie.nodes 0 (leadingBits block.address block.length)⟩

def containsBits (nodes : Array TrieNode) (index : Nat) : List Bool → Bool
  | [] => nodes[index]!.terminal
  | bit :: rest =>
    let node := nodes[index]!
    if node.terminal then true
    else
      match node.child bit with
      | some child => containsBits nodes child.toNat rest
      | none => false

def contains (trie : PrefixTrie w) (word : BitVec w) : Bool :=
  containsBits trie.nodes 0 (leadingBits word w)

end PrefixTrie

end RequestGuard.Net
