import RequestGuard.Text.Blank
import RequestGuard.Text.Digits
import RequestGuard.Text.Split

/-!
# IP addresses

An address is a word of 32 or 128 bits. Its written form is the dotted quad, or the groups of
RFC 4291 without a zone; `render` writes the canonical form of RFC 5952, with a dotted tail for
addresses that map IPv4.
-/

namespace RequestGuard.Net

inductive IpAddress where
  | v4 (bits : BitVec 32)
  | v6 (bits : BitVec 128)
deriving DecidableEq, Repr

/-- The word of a list of parts of `size` bits, the highest part first. -/
def joinParts (size : Nat) (parts : List Nat) : Nat :=
  parts.foldl (fun word part => (word <<< size) + part) 0

def octets (bits : BitVec 32) : List Nat :=
  [24, 16, 8, 0].map fun start => (bits.extractLsb' start 8).toNat

def groups (bits : BitVec 128) : List Nat :=
  [112, 96, 80, 64, 48, 32, 16, 0].map fun start => (bits.extractLsb' start 16).toNat

/-- The IPv4 address that an IPv6 address `::ffff:a.b.c.d` maps. -/
def mapped? (bits : BitVec 128) : Option (BitVec 32) :=
  if bits.extractLsb' 32 96 = 0xFFFF then some (bits.extractLsb' 0 32) else none

/-- Reads an octet: one to three digits, at most 255, and no leading zero unless `padded`. -/
def readOctet? (padded : Bool) (s : List Char) : Option Nat :=
  if s.length ≤ 3 ∧ (padded ∨ s.head? ≠ some '0' ∨ s.length = 1) then
    match Text.readDigits? s with
    | some n => if n ≤ 255 then some n else none
    | none => none
  else none

def readQuad? (padded : Bool) (s : List Char) : Option (List Nat) :=
  match (Text.splitOn '.' s).mapM (readOctet? padded) with
  | some parts => if parts.length = 4 then some parts else none
  | none => none

/-- Reads a group: one to four hexadecimal digits. -/
def readGroup? (s : List Char) : Option Nat :=
  if s ≠ [] ∧ s.length ≤ 4 ∧ s.all Text.isHexDigit then some (Text.ofHexDigits s) else none

def quadGroups : List Nat → List Nat
  | [a, b, c, d] => [a * 256 + b, c * 256 + d]
  | _ => []

/-- Reads groups from the pieces between colons. If `tail` holds, the last piece may be a dotted
quad, which counts as two groups. -/
def readPieces? (padded tail : Bool) : List (List Char) → Option (List Nat)
  | [] => some []
  | [piece] =>
    match readGroup? piece with
    | some group => some [group]
    | none => if tail then (readQuad? padded piece).map quadGroups else none
  | piece :: pieces =>
    (readGroup? piece).bind fun group => (readPieces? padded tail pieces).map (group :: ·)

/-- Reads the groups on one side of a double colon, of which there may be none. -/
def readSide? (padded tail : Bool) (s : List Char) : Option (List Nat) :=
  if s = [] then some [] else readPieces? padded tail (Text.splitOn ':' s)

/-- What stands before and after the first double colon. -/
def splitGap? : List Char → Option (List Char × List Char)
  | ':' :: ':' :: rest => some ([], rest)
  | c :: rest => (splitGap? rest).map fun (before, after) => (c :: before, after)
  | [] => none

/-- Reads the eight groups of an IPv6 address, in which a double colon stands for at least `gap`
zero groups. -/
def readGroups? (padded : Bool) (gap : Nat) (s : List Char) : Option (List Nat) :=
  match splitGap? s with
  | some (before, after) =>
    match readSide? padded false before, readSide? padded true after with
    | some head, some tail =>
      if head.length ≤ 7 ∧ head.length + gap + tail.length ≤ 8 then
        some (head ++ List.replicate (8 - head.length - tail.length) 0 ++ tail)
      else none
    | _, _ => none
  | none =>
    match readPieces? padded true (Text.splitOn ':' s) with
    | some parts => if parts.length = 8 then some parts else none
    | none => none

namespace IpAddress

def ofOctets (parts : List Nat) : IpAddress := .v4 (BitVec.ofNat 32 (joinParts 8 parts))

def ofGroups (parts : List Nat) : IpAddress := .v6 (BitVec.ofNat 128 (joinParts 16 parts))

/-- The address that a text writes, without blanks or brackets around it. -/
def ofChars? (s : List Char) : Option IpAddress :=
  match readQuad? false s with
  | some parts => some (ofOctets parts)
  | none => (readGroups? false 1 s).map ofGroups

/-- Takes away the brackets around a text, if it has both. -/
def unbracket (s : List Char) : List Char :=
  match s with
  | '[' :: rest =>
    match rest.reverse with
    | ']' :: inner => inner.reverse
    | _ => s
  | _ => s

/-- The address that a text writes, with blanks and a pair of brackets allowed around it. -/
def parse? (s : String) : Option IpAddress := ofChars? (unbracket (Text.trimChars s.toList))

def zeroRun (parts : List Nat) : Nat := (parts.takeWhile (· = 0)).length

/-- The place and the length of the longest run of zeros; of several, the first. -/
def longestZeroRun : List Nat → Nat × Nat
  | [] => (0, 0)
  | part :: rest =>
    let here := zeroRun (part :: rest)
    let (place, length) := longestZeroRun rest
    if length ≤ here then (0, here) else (place + 1, length)

def renderGroups (parts : List Nat) : List Char :=
  Text.joinWith ':' (parts.map Text.hexDigits)

def renderQuad (parts : List Nat) : List Char :=
  Text.joinWith '.' (parts.map Text.digits)

/-- The canonical text of an IPv6 address: the first of the longest runs of at least two zero
groups is left out. -/
def renderV6 (bits : BitVec 128) : List Char :=
  match mapped? bits with
  | some inner => [':', ':', 'f', 'f', 'f', 'f', ':'] ++ renderQuad (octets inner)
  | none =>
    let parts := groups bits
    let (place, length) := longestZeroRun parts
    if length ≥ 2 then
      renderGroups (parts.take place) ++ ':' :: ':' :: renderGroups (parts.drop (place + length))
    else renderGroups parts

def render : IpAddress → String
  | .v4 bits => String.ofList (renderQuad (octets bits))
  | .v6 bits => String.ofList (renderV6 bits)

theorem renderV6_ne_nil (bits : BitVec 128) : renderV6 bits ≠ [] := by
  unfold renderV6
  split
  · simp
  · dsimp only
    split
    · simp
    · exact Text.joinWith_ne_nil (by simp [groups])

theorem render_ne_empty (address : IpAddress) : address.render ≠ "" := by
  rw [Ne, ← String.toList_inj]
  cases address with
  | v4 bits =>
    rw [render, String.toList_ofList]
    exact Text.joinWith_ne_nil (by simp [octets])
  | v6 bits =>
    rw [render, String.toList_ofList]
    exact renderV6_ne_nil bits

end IpAddress

end RequestGuard.Net
