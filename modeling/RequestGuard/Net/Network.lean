import RequestGuard.Net.Address

/-!
# Networks

A network is the set of addresses that agree with a given one in a number of leading bits. It is
written as an address, a slash and that number; a plain address is the network of itself.

The address before a slash has a grammar of its own: octets may have leading zeros, and a double
colon may stand for no group at all.
-/

namespace RequestGuard.Net

/-- The words of `w` bits that agree with `address` in the leading `length` bits. -/
structure Block (w : Nat) where
  address : BitVec w
  length : Nat
deriving DecidableEq, Repr

namespace Block

/-- Whether a word lies in the block: whether it differs from the address only in bits after the
leading ones. -/
def covers {w : Nat} (block : Block w) (word : BitVec w) : Bool :=
  word >>> (w - block.length) == block.address >>> (w - block.length)

/-- The block with its host bits cleared. -/
def truncate {w : Nat} (block : Block w) : Block w :=
  ⟨(block.address >>> (w - block.length)) <<< (w - block.length), block.length⟩

end Block

inductive Network where
  | v4 (block : Block 32)
  | v6 (block : Block 128)
deriving DecidableEq, Repr

namespace Network

/-- Whether an address lies in the network. An address that maps IPv4 also lies in the networks of
the address that it maps. -/
def covers : Network → IpAddress → Bool
  | .v4 block, .v4 bits => block.covers bits
  | .v4 block, .v6 bits =>
    match mapped? bits with
    | some inner => block.covers inner
    | none => false
  | .v6 block, .v6 bits => block.covers bits
  | .v6 _, .v4 _ => false

def ofAddress : IpAddress → Network
  | .v4 bits => .v4 ⟨bits, 32⟩
  | .v6 bits => .v6 ⟨bits, 128⟩

/-- Reads the number of leading bits: at most `width` digits and at most `limit`. -/
def readLength? (width limit : Nat) (s : List Char) : Option Nat :=
  if s.length ≤ width then
    match Text.readDigits? s with
    | some n => if n ≤ limit then some n else none
    | none => none
  else none

/-- The network that a text with a slash writes, its host bits cleared. -/
def ofChars? (s : List Char) : Option Network :=
  match Text.splitOnce? '/' s with
  | none => none
  | some (address, length) =>
    match readQuad? true address with
    | some parts =>
      (readLength? 2 32 length).map fun n =>
        .v4 (Block.truncate ⟨BitVec.ofNat 32 (joinParts 8 parts), n⟩)
    | none =>
      (readGroups? true 0 address).bind fun parts =>
        (readLength? 3 128 length).map fun n =>
          .v6 (Block.truncate ⟨BitVec.ofNat 128 (joinParts 16 parts), n⟩)

def parse? (entry : String) : Option Network :=
  let trimmed := Text.trim entry
  match ofChars? trimmed.toList with
  | some network => some network
  | none => (IpAddress.parse? trimmed).map ofAddress

end Network

end RequestGuard.Net
