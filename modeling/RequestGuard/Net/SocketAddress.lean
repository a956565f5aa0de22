import RequestGuard.Net.Address

/-!
# Socket addresses

An address with a port: `1.2.3.4:80`, or `[::1]:80` with an optional numeric zone before the closing
bracket.
-/

namespace RequestGuard.Net

/-- Reads a decimal number below a limit. Leading zeros are allowed. -/
def readBelow? (limit : Nat) (s : List Char) : Option Nat :=
  match Text.readDigits? s with
  | some n => if n < limit then some n else none
  | none => none

structure SocketAddress where
  ip : IpAddress
  port : Nat
deriving DecidableEq, Repr

namespace SocketAddress

/-- Reads the address between the brackets, with a zone of 32 bits that is not kept. -/
def readZoned? (s : List Char) : Option IpAddress :=
  match Text.splitOnce? '%' s with
  | some (address, zone) =>
    (readBelow? 0x100000000 zone).bind fun _ =>
      (readGroups? false 1 address).map IpAddress.ofGroups
  | none => (readGroups? false 1 s).map IpAddress.ofGroups

def ofChars? : List Char → Option SocketAddress
  | '[' :: rest =>
    match Text.splitOnce? ']' rest with
    | some (inner, ':' :: port) =>
      (readZoned? inner).bind fun ip => (readBelow? 0x10000 port).map fun port => ⟨ip, port⟩
    | _ => none
  | s =>
    match Text.splitOnce? ':' s with
    | some (quad, port) =>
      (readQuad? false quad).bind fun parts =>
        (readBelow? 0x10000 port).map fun port => ⟨IpAddress.ofOctets parts, port⟩
    | none => none

end SocketAddress

end RequestGuard.Net
