import RequestGuard.Net.Address
import RequestGuard.Url.Basic
import RequestGuard.Url.Domain

/-!
# Hosts

The host of a URL with a special scheme is an address in brackets, a domain name, or an IPv4 address
whose parts may be written in several bases. A host of any other scheme is an address in brackets or
an opaque text without certain characters.
-/

namespace RequestGuard.Url

/-- Reads the text between brackets as an IPv6 address. -/
def readBracketed? (s : List Char) : Option Net.IpAddress :=
  match s with
  | '[' :: rest =>
    match rest.reverse with
    | ']' :: inner => (Net.readGroups? false 1 inner.reverse).map Net.IpAddress.ofGroups
    | _ => none
  | _ => none

def partBase : List Char → Nat × List Char
  | '0' :: 'x' :: digits => (16, digits)
  | '0' :: 'X' :: digits => (16, digits)
  | '0' :: d :: digits => (8, d :: digits)
  | digits => (10, digits)

def isDigitIn (base : Nat) (c : Char) : Bool :=
  match Text.hexValue? c with
  | some n => n < base
  | none => false

/-- Reads one part of an address; after the mark of its base it may be empty and is then zero. -/
def readPart? (s : List Char) : Option Nat :=
  let (base, digits) := partBase s
  if s ≠ [] ∧ digits.all (isDigitIn base) then
    some (digits.foldl (fun n c => n * base + (Text.hexValue? c).getD 0) 0)
  else none

/-- The pieces between the dots of a name, without an empty one at the end. -/
def nameParts (name : List Char) : List (List Char) :=
  let parts := Text.splitOn '.' name
  match parts.reverse with
  | [] :: rest => rest.reverse
  | _ => parts

/-- Whether the last piece of a name is a number, so that the name is read as an address. -/
def endsInNumber (name : List Char) : Bool :=
  match (nameParts name).getLast? with
  | none => false
  | some last => (!last.isEmpty && last.all Char.isDigit) || (readPart? last).isSome

/-- Whether the parts of an address fit: one octet each, and the last all octets that remain. -/
def fitsIpv4 (parts : List Nat) : Bool :=
  match parts.reverse with
  | [] => false
  | last :: front =>
    parts.length ≤ 4 && front.all (· ≤ 255) && last < Nat.pow 256 (5 - parts.length)

/-- Whether a name whose last piece is a number is an IPv4 address. -/
def isIpv4 (name : List Char) : Bool :=
  match (nameParts name).mapM readPart? with
  | some parts => fitsIpv4 parts
  | none => false

/-- Reads the host of a URL with a special scheme. -/
def checkHost (s : List Char) : Except UrlError Unit :=
  if s.head? = some '[' then
    if (readBracketed? s).isSome then .ok () else .error .invalidIpv6
  else
    match (Utf8.decode? (Percent.decode (Utf8.encode s))).bind normalizeDomain? with
    | none => .error .invalidDomain
    | some [] => .error .emptyHost
    | some name =>
      if endsInNumber name then if isIpv4 name then .ok () else .error .invalidIpv4
      else .ok ()

def checkOpaqueHost (s : List Char) : Except UrlError Unit :=
  if s.head? = some '[' then
    if (readBracketed? s).isSome then .ok () else .error .invalidIpv6
  else if s.any isForbiddenInHost then .error .invalidDomainCharacter
  else .ok ()

end RequestGuard.Url
