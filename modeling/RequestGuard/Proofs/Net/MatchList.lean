import RequestGuard.Net.MatchList
import RequestGuard.Proofs.Net.Grammar
import RequestGuard.Proofs.Net.Trie

/-!
# A match list is the union of its networks

What the tries of a list hold, read back to the texts of its entries: an address is covered exactly
when some entry writes a network in which it lies. The order of the entries, repetitions and
overlaps leave no trace, although a trie stores a network inside another one only if it comes first,
and cuts it off again later.
-/

namespace RequestGuard.Net

namespace Block

variable {w : Nat}

theorem covers_iff (block : Block w) (word : BitVec w) :
    block.covers word = true ↔ ∀ i < block.length, word.getMsbD i = block.address.getMsbD i := by
  rw [covers, beq_iff_eq]
  constructor
  · intro h i hi
    by_cases hw : i < w
    · have hbit := congrArg (fun bits : BitVec w => bits.getMsbD (i + (w - block.length))) h
      have hshifted : ¬ i + (w - block.length) < w - block.length := by omega
      simp only [BitVec.getMsbD_ushiftRight, Nat.add_sub_cancel] at hbit
      rcases Nat.lt_or_ge w block.length with hlong | hshort
      · have hzero : w - block.length = 0 := by omega
        simpa [hzero, hw] using hbit
      · simpa [hshifted, show i + (w - block.length) < w by omega] using hbit
    · rw [BitVec.getMsbD_of_ge word i (by omega), BitVec.getMsbD_of_ge block.address i (by omega)]
  · intro h
    apply BitVec.eq_of_getMsbD_eq
    intro i hi
    rw [BitVec.getMsbD_ushiftRight, BitVec.getMsbD_ushiftRight]
    by_cases hout : i < w - block.length
    · simp [hout]
    · rw [h (i - (w - block.length)) (by omega)]

theorem getMsbD_truncate {block : Block w} {i : Nat} (h : i < block.length) :
    block.truncate.address.getMsbD i = block.address.getMsbD i := by
  rw [truncate, BitVec.getMsbD_shiftLeft, BitVec.getMsbD_ushiftRight, Nat.add_sub_cancel]
  by_cases hw : i < w
  · have hin : ¬ i + (w - block.length) < w - block.length := by omega
    by_cases hshort : block.length ≤ w
    · simp [hin, show i + (w - block.length) < w by omega]
    · simp [show w - block.length = 0 by omega, hw]
  · rw [BitVec.getMsbD_of_ge block.address i (by omega)]
    simp

theorem covers_truncate (block : Block w) (word : BitVec w) :
    block.truncate.covers word = block.covers word := by
  rw [Bool.eq_iff_iff, covers_iff, covers_iff]
  refine forall_congr' fun i => forall_congr' fun hi => ?_
  rw [show block.truncate.address.getMsbD i = block.address.getMsbD i from getMsbD_truncate hi]

end Block

namespace PrefixTrie

variable {w : Nat}

/-- The bits under which a block is inserted begin the bits of exactly the words in it. -/
theorem leadingBits_prefix_iff (block : Block w) (word : BitVec w) :
    leadingBits block.address block.length <+: leadingBits word w ↔ block.covers word = true := by
  rw [Block.covers_iff, List.prefix_iff_eq_take]
  simp only [leadingBits, List.length_map, List.length_range, ← List.map_take, List.take_range,
    Nat.min_assoc, Nat.min_self, List.map_inj_left, List.mem_range]
  constructor
  · intro h i hi
    by_cases hw : i < w
    · exact (h i (by omega)).symm
    · rw [BitVec.getMsbD_of_ge word i (by omega), BitVec.getMsbD_of_ge block.address i (by omega)]
  · intro h i hi
    exact (h i (by omega)).symm

theorem wellFormed_empty : WellFormed (empty : PrefixTrie w).nodes := by
  have hnone :
      ∀ (index : Nat) (bit : Bool), (empty : PrefixTrie w).nodes[index]!.child bit = none := by
    intro index bit
    rcases Nat.eq_zero_or_pos index with rfl | hpos
    · cases bit <;> rfl
    · exact child_of_size_le hpos bit
  constructor
  · exact Nat.one_pos
  · intro index bit child h
    rw [hnone] at h
    cases h
  · intro left right leftBit rightBit child h
    rw [hnone] at h
    cases h
  · exact fun _ bit => hnone _ bit

theorem contains_iff (trie : PrefixTrie w) (word : BitVec w) :
    trie.contains word = true ↔ Covers trie.nodes (leadingBits word w) :=
  containsBits_iff trie.nodes 0 (leadingBits word w)

theorem contains_empty (word : BitVec w) : (empty : PrefixTrie w).contains word = false := by
  have hterminal : (empty : PrefixTrie w).nodes[0]!.terminal = false := rfl
  have hchild : ∀ bit, (empty : PrefixTrie w).nodes[0]!.child bit = none := by
    intro bit
    cases bit <;> rfl
  unfold contains
  cases leadingBits word w with
  | nil => exact hterminal
  | cons bit rest => simp [containsBits, hterminal, hchild]

theorem contains_insert {trie : PrefixTrie w} (h : WellFormed trie.nodes) {block : Block w}
    (hfits : (trie.insert block).nodes.size ≤ 2 ^ 32) :
    WellFormed (trie.insert block).nodes
      ∧ ∀ word, (trie.insert block).contains word = (trie.contains word || block.covers word) := by
  obtain ⟨hwell, hcovers⟩ := h.insertBits (show follow trie.nodes 0 [] = some 0 from rfl) hfits
  refine ⟨hwell, fun word => ?_⟩
  rw [Bool.eq_iff_iff, Bool.or_eq_true, contains_iff, contains_iff, ← leadingBits_prefix_iff]
  exact hcovers _

theorem size_insert_le (trie : PrefixTrie w) (block : Block w) :
    (trie.insert block).nodes.size ≤ trie.nodes.size + w := by
  have hle := size_insertBits_le trie.nodes 0 (leadingBits block.address block.length)
  have hbits : (leadingBits block.address block.length).length ≤ w := by
    simp only [leadingBits, List.length_map, List.length_range]
    omega
  exact Nat.le_trans hle (Nat.add_le_add_left hbits _)

end PrefixTrie

/-! ### Lists of networks -/

namespace MatchList

/-- Both tries have at most `2 ^ 32` nodes, so that every index fits the word in which it is
stored. -/
def Fits (list : MatchList) : Prop := list.v4.nodes.size ≤ 2 ^ 32 ∧ list.v6.nodes.size ≤ 2 ^ 32

/-- The tries of the list are trees. -/
def WellFormed (list : MatchList) : Prop :=
  PrefixTrie.WellFormed list.v4.nodes ∧ PrefixTrie.WellFormed list.v6.nodes

theorem wellFormed_empty : WellFormed empty :=
  ⟨PrefixTrie.wellFormed_empty, PrefixTrie.wellFormed_empty⟩

theorem covers_empty (address : IpAddress) : empty.covers address = false := by
  cases address with
  | v4 bits => exact PrefixTrie.contains_empty bits
  | v6 bits =>
    simp only [covers, empty, PrefixTrie.contains_empty, Bool.false_or]
    split <;> rfl

theorem covers_insert {list : MatchList} (h : WellFormed list) {network : Network}
    (hfits : (list.insert network).Fits) :
    WellFormed (list.insert network)
      ∧ ∀ address, (list.insert network).covers address
        = (list.covers address || network.covers address) := by
  cases network with
  | v4 block =>
    obtain ⟨hwell, hcontains⟩ := PrefixTrie.contains_insert h.1 hfits.1
    refine ⟨⟨hwell, h.2⟩, fun address => ?_⟩
    cases address with
    | v4 bits => exact hcontains bits
    | v6 bits =>
      simp only [covers, insert, Network.covers]
      cases mapped? bits with
      | none => simp
      | some inner => simp [hcontains, Bool.or_assoc]
  | v6 block =>
    obtain ⟨hwell, hcontains⟩ := PrefixTrie.contains_insert h.2 hfits.2
    refine ⟨⟨h.1, hwell⟩, fun address => ?_⟩
    cases address with
    | v4 bits => simp [covers, insert, Network.covers]
    | v6 bits => simp only [covers, insert, Network.covers, hcontains, Bool.or_right_comm]

theorem Fits.of_insert {list : MatchList} {network : Network} (h : (list.insert network).Fits) :
    list.Fits := by
  cases network with
  | v4 block => exact ⟨Nat.le_trans (PrefixTrie.size_le_insertBits _ _ _) h.1, h.2⟩
  | v6 block => exact ⟨h.1, Nat.le_trans (PrefixTrie.size_le_insertBits _ _ _) h.2⟩

theorem Fits.of_foldl {networks : List Network} {list : MatchList}
    (h : (networks.foldl insert list).Fits) :
    list.Fits := by
  induction networks generalizing list with
  | nil => exact h
  | cons network networks ih => exact (ih h).of_insert

/-- Networks add their addresses to the list, in whatever order they come. -/
theorem covers_foldl_insert {networks : List Network} {list : MatchList} (h : WellFormed list)
    (hfits : (networks.foldl insert list).Fits) (address : IpAddress) :
    (networks.foldl insert list).covers address
      = (list.covers address || networks.any fun network => network.covers address) := by
  induction networks generalizing list with
  | nil => simp
  | cons network networks ih =>
    obtain ⟨hwell, hcovers⟩ := covers_insert h (Fits.of_foldl hfits)
    rw [List.foldl_cons, ih hwell hfits, hcovers, List.any_cons, Bool.or_assoc]

theorem size_nodes_foldl_insert_le (networks : List Network) (list : MatchList) :
    (networks.foldl insert list).v4.nodes.size ≤ list.v4.nodes.size + 128 * networks.length
      ∧ (networks.foldl insert list).v6.nodes.size
        ≤ list.v6.nodes.size + 128 * networks.length := by
  induction networks generalizing list with
  | nil => exact ⟨Nat.le_refl _, Nat.le_refl _⟩
  | cons network networks ih =>
    obtain ⟨hv4, hv6⟩ := ih (list.insert network)
    rw [List.foldl_cons, List.length_cons]
    cases network with
    | v4 block =>
      have hblock := PrefixTrie.size_insert_le list.v4 block
      simp only [insert] at hv4 hv6 ⊢
      omega
    | v6 block =>
      have hblock := PrefixTrie.size_insert_le list.v6 block
      simp only [insert] at hv4 hv6 ⊢
      omega

theorem size_foldl_insert (networks : List Network) (list : MatchList) :
    (networks.foldl insert list).size = list.size + networks.length := by
  induction networks generalizing list with
  | nil => rfl
  | cons network networks ih =>
    rw [List.foldl_cons, ih, List.length_cons]
    cases network <;> simp only [insert] <;> omega

/-- A list of entries is the list of the networks that they write. -/
theorem ofEntries_eq (entries : List String) :
    ofEntries entries = (entries.filterMap Network.parse?).foldl insert empty := by
  unfold ofEntries
  generalize empty = list
  induction entries generalizing list with
  | nil => rfl
  | cons entry entries ih =>
    rw [List.foldl_cons, ih, List.filterMap_cons, add]
    cases Network.parse? entry <;> rfl

end MatchList

/-! ### Entries -/

def IpAddress.width : IpAddress → Nat
  | .v4 _ => 32
  | .v6 _ => 128

/-- Two addresses of one family agree in their leading `n` bits. -/
def IpAddress.AgreesIn (n : Nat) : IpAddress → IpAddress → Prop
  | .v4 a, .v4 b => ∀ i < n, a.getMsbD i = b.getMsbD i
  | .v6 a, .v6 b => ∀ i < n, a.getMsbD i = b.getMsbD i
  | _, _ => False

/-- An address lies among those that agree with `base` in the leading `n` bits: itself, or the IPv4
address that it maps. -/
def IpAddress.LiesIn (address base : IpAddress) (n : Nat) : Prop :=
  address.AgreesIn n base
    ∨ ∃ bits inner, address = .v6 bits ∧ mapped? bits = some inner
      ∧ (IpAddress.v4 inner).AgreesIn n base

/-- A text writes an address, with blanks and brackets around it allowed. -/
def WritesAddress (text : String) (address : IpAddress) : Prop :=
  IsAddress (IpAddress.unbracket (Text.trimChars text.toList)) address

/-- An entry writes a network: an address with a number of leading bits, or one address alone. -/
inductive WritesNetwork (entry : String) : IpAddress → Nat → Prop where
  | subnet {base : IpAddress} {n : Nat} : IsSubnet (Text.trimChars entry.toList) base n →
      WritesNetwork entry base n
  | host {base : IpAddress} : WritesAddress entry base → WritesNetwork entry base base.width

theorem IpAddress.parse?_eq_some_iff {text : String} {address : IpAddress} :
    IpAddress.parse? text = some address ↔ WritesAddress text address :=
  IpAddress.ofChars?_eq_some_iff

namespace Network

theorem ofAddress_eq (address : IpAddress) :
    ofAddress address = ofLength address address.width := by
  cases address <;> simp [ofAddress, ofLength, IpAddress.width, Block.truncate]

theorem slash_not_mem_of_unbracket {s : List Char} (h : '/' ∉ IpAddress.unbracket s) : '/' ∉ s := by
  unfold IpAddress.unbracket at h
  split at h
  · rename_i rest
    split at h
    · rename_i inner hreverse
      have hrest : rest = (']' :: inner).reverse := by rw [← hreverse, List.reverse_reverse]
      simpa [hrest] using h
    · exact h
  · exact h

/-- The reader of entries accepts what the grammar writes. -/
theorem parse?_eq_some_iff {entry : String} {network : Network} :
    parse? entry = some network
      ↔ ∃ base n, WritesNetwork entry base n ∧ network = ofLength base n := by
  have hhost : IpAddress.parse? (Text.trim entry) = IpAddress.parse? entry := by
    simp [IpAddress.parse?, Text.trim, Text.trimChars_trimChars]
  have htext : (Text.trim entry).toList = Text.trimChars entry.toList := by simp [Text.trim]
  simp only [parse?, htext, hhost]
  constructor
  · intro h
    split at h
    · rename_i read hread
      obtain rfl := Option.some.inj h
      obtain ⟨base, n, hsubnet, heq⟩ := ofChars?_eq_some_iff.1 hread
      exact ⟨base, n, .subnet hsubnet, heq⟩
    · obtain ⟨address, haddress, rfl⟩ := Option.map_eq_some_iff.1 h
      exact ⟨address, address.width, .host (IpAddress.parse?_eq_some_iff.1 haddress),
        ofAddress_eq address⟩
  · rintro ⟨base, n, hwrites, rfl⟩
    cases hwrites with
    | subnet hsubnet => rw [ofChars?_eq_some_iff.2 ⟨base, n, hsubnet, rfl⟩]
    | host haddress =>
      rw [ofChars?_eq_none (slash_not_mem_of_unbracket
        (haddress.not_mem (by decide) (by decide) (by decide))),
        IpAddress.parse?_eq_some_iff.2 haddress, ← ofAddress_eq]
      rfl

theorem covers_ofLength (base address : IpAddress) (n : Nat) :
    (ofLength base n).covers address = true ↔ address.LiesIn base n := by
  cases base with
  | v4 base =>
    cases address with
    | v4 bits =>
      simp [ofLength, covers, Block.covers_truncate, Block.covers_iff, IpAddress.LiesIn,
        IpAddress.AgreesIn]
    | v6 bits =>
      cases hmapped : mapped? bits with
      | none => simp [ofLength, covers, hmapped, IpAddress.LiesIn, IpAddress.AgreesIn]
      | some inner =>
        simp [ofLength, covers, hmapped, Block.covers_truncate, Block.covers_iff, IpAddress.LiesIn,
          IpAddress.AgreesIn]
  | v6 base =>
    cases address with
    | v4 bits => simp [ofLength, covers, IpAddress.LiesIn, IpAddress.AgreesIn]
    | v6 bits =>
      simp [ofLength, covers, Block.covers_truncate, Block.covers_iff, IpAddress.LiesIn,
        IpAddress.AgreesIn]

end Network

/-- Some network is written by the entry. -/
def IsEntry (entry : String) : Prop := ∃ base n, WritesNetwork entry base n

theorem isEntry_iff {entry : String} : IsEntry entry ↔ (Network.parse? entry).isSome = true := by
  rw [Option.isSome_iff_exists]
  constructor
  · rintro ⟨base, n, hwrites⟩
    exact ⟨_, Network.parse?_eq_some_iff.2 ⟨base, n, hwrites, rfl⟩⟩
  · rintro ⟨network, hread⟩
    obtain ⟨base, n, hwrites, _⟩ := Network.parse?_eq_some_iff.1 hread
    exact ⟨base, n, hwrites⟩

instance (entry : String) : Decidable (IsEntry entry) := decidable_of_iff _ isEntry_iff.symm

namespace MatchList

/-- Lists of fewer than `2 ^ 25` entries fit. -/
theorem fits_ofEntries {entries : List String} (h : entries.length < 2 ^ 25) :
    (ofEntries entries).Fits := by
  have hle := size_nodes_foldl_insert_le (entries.filterMap Network.parse?) empty
  have hparsed := List.length_filterMap_le Network.parse? entries
  have hroot4 : empty.v4.nodes.size = 1 := rfl
  have hroot6 : empty.v6.nodes.size = 1 := rfl
  rw [ofEntries_eq]
  constructor <;> omega

/-- An entry that writes no network is refused. -/
theorem add_of_not_isEntry {entry : String} (h : ¬ IsEntry entry) (list : MatchList) :
    list.add entry = .error (.invalidEntry (Text.trim entry)) := by
  have hnone : Network.parse? entry = none := by
    rw [← Option.not_isSome_iff_eq_none, ← isEntry_iff]
    exact h
  simp [add, hnone]

theorem size_ofEntries (entries : List String) :
    (ofEntries entries).size = entries.countP fun entry => decide (IsEntry entry) := by
  rw [ofEntries_eq, size_foldl_insert, List.length_filterMap_eq_countP]
  simp only [isEntry_iff, Bool.decide_eq_true]
  exact Nat.zero_add _

/-- A text matches a list exactly when it writes an address in a network that some entry writes, as
long as no index outgrows its word, for which it takes more than 33 million entries. The list counts
the entries that write a network, and the other ones leave no trace. -/
theorem coversText_ofEntries_iff (entries : List String) :
    ((ofEntries entries).Fits → ∀ probe, (ofEntries entries).coversText probe = true ↔
      ∃ address, WritesAddress probe address ∧
        ∃ entry ∈ entries, ∃ base n, WritesNetwork entry base n ∧ address.LiesIn base n)
    ∧ (entries.length < 2 ^ 25 → (ofEntries entries).Fits)
    ∧ (ofEntries entries).size = entries.countP (fun entry => decide (IsEntry entry))
    ∧ (∀ (list : MatchList) (entry : String), ¬ IsEntry entry →
      list.add entry = .error (.invalidEntry (Text.trim entry)))
    ∧ ∀ before entry after, entries = before ++ entry :: after → ¬ IsEntry entry →
        ofEntries entries = ofEntries (before ++ after) := by
  refine ⟨fun hfits probe => ?_, fits_ofEntries, size_ofEntries entries,
    fun list entry h => add_of_not_isEntry h list, ?_⟩
  · have hcovers : ∀ address, (ofEntries entries).covers address = true ↔
        ∃ entry ∈ entries, ∃ base n, WritesNetwork entry base n ∧ address.LiesIn base n := by
      intro address
      rw [ofEntries_eq] at hfits ⊢
      rw [covers_foldl_insert wellFormed_empty hfits, covers_empty, Bool.false_or, List.any_eq_true]
      simp only [List.mem_filterMap, Network.parse?_eq_some_iff]
      constructor
      · rintro ⟨_, ⟨entry, hmem, base, n, hwrites, rfl⟩, hlies⟩
        exact ⟨entry, hmem, base, n, hwrites, (Network.covers_ofLength base address n).1 hlies⟩
      · rintro ⟨entry, hmem, base, n, hwrites, hlies⟩
        exact ⟨_, ⟨entry, hmem, base, n, hwrites, rfl⟩,
          (Network.covers_ofLength base address n).2 hlies⟩
    unfold coversText
    cases hread : IpAddress.parse? probe with
    | none =>
      simp only [Bool.false_eq_true, false_iff]
      rintro ⟨address, hwrites, _⟩
      rw [IpAddress.parse?_eq_some_iff.2 hwrites] at hread
      cases hread
    | some address =>
      rw [hcovers]
      constructor
      · intro h
        exact ⟨address, IpAddress.parse?_eq_some_iff.1 hread, h⟩
      · rintro ⟨other, hwrites, h⟩
        rw [IpAddress.parse?_eq_some_iff.2 hwrites] at hread
        exact Option.some.inj hread ▸ h
  · rintro before entry after rfl hentry
    have hadd : ∀ list : MatchList, (list.add entry).toOption.getD list = list := by
      intro list
      rw [add_of_not_isEntry hentry]
      rfl
    simp only [ofEntries, List.foldl_append, List.foldl_cons, hadd]

/-- The entries overlap, one of them is no network, and the probe maps an IPv4 address. -/
theorem coversText_ofEntries_overlapping :
    (ofEntries ["10.0.0.5", "10.1.2.3/8", "bogus", "2001:db8::/32"]).Fits
      ∧ (ofEntries ["10.0.0.5", "10.1.2.3/8", "bogus", "2001:db8::/32"]).coversText
        " [::ffff:10.9.9.9]" = true := by
  have hfits : (ofEntries ["10.0.0.5", "10.1.2.3/8", "bogus", "2001:db8::/32"]).Fits :=
    fits_ofEntries (by decide)
  refine ⟨hfits, ((coversText_ofEntries_iff _).1 hfits _).2 ?_⟩
  have hprobe :
      IpAddress.parse? " [::ffff:10.9.9.9]" = some (.v6 0xffff0a090909) := by decide +kernel
  have hentry : Network.parse? "10.1.2.3/8" = some (.v4 ⟨0x0a000000, 8⟩) := by decide +kernel
  obtain ⟨base, n, hwrites, heq⟩ := Network.parse?_eq_some_iff.1 hentry
  refine ⟨_, IpAddress.parse?_eq_some_iff.1 hprobe, "10.1.2.3/8", by simp, base, n, hwrites, ?_⟩
  rw [← Network.covers_ofLength, ← heq]
  decide

end MatchList

end RequestGuard.Net
