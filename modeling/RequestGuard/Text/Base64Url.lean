/-!
# Base 64 for URLs

The alphabet with `-` and `_`, without padding. Every byte sequence has exactly one written form:
`decode?` refuses a text whose unused last bits are not zero.
-/

namespace RequestGuard.Base64Url

def digit (n : Nat) : Char :=
  if n < 26 then Char.ofNat (65 + n)
  else if n < 52 then Char.ofNat (71 + n)
  else if n < 62 then Char.ofNat (n - 4)
  else if n = 62 then '-'
  else '_'

def value? (c : Char) : Option Nat :=
  if c.isUpper then some (c.toNat - 65)
  else if c.isLower then some (c.toNat - 71)
  else if c.isDigit then some (c.toNat + 4)
  else if c = '-' then some 62
  else if c = '_' then some 63
  else none

/-- The written form of bytes: four digits for three bytes, two or three for the rest. -/
def encode : List UInt8 → List Char
  | a :: b :: c :: rest =>
    let n := a.toNat * 65536 + b.toNat * 256 + c.toNat
    digit (n / 262144) :: digit (n / 4096 % 64) :: digit (n / 64 % 64) :: digit (n % 64) ::
      encode rest
  | [a, b] =>
    let n := a.toNat * 1024 + b.toNat * 4
    [digit (n / 4096), digit (n / 64 % 64), digit (n % 64)]
  | [a] =>
    let n := a.toNat * 16
    [digit (n / 64), digit (n % 64)]
  | [] => []

def decode? : List Char → Option (List UInt8)
  | a :: b :: c :: d :: rest =>
    match value? a, value? b, value? c, value? d with
    | some a, some b, some c, some d =>
      let n := a * 262144 + b * 4096 + c * 64 + d
      (decode? rest).map fun bytes =>
        UInt8.ofNat (n / 65536) :: UInt8.ofNat (n / 256 % 256) :: UInt8.ofNat (n % 256) :: bytes
    | _, _, _, _ => none
  | [a, b, c] =>
    match value? a, value? b, value? c with
    | some a, some b, some c =>
      if c % 4 = 0 then
        let n := a * 1024 + b * 16 + c / 4
        some [UInt8.ofNat (n / 256), UInt8.ofNat (n % 256)]
      else none
    | _, _, _ => none
  | [a, b] =>
    match value? a, value? b with
    | some a, some b => if b % 16 = 0 then some [UInt8.ofNat (a * 4 + b / 16)] else none
    | _, _ => none
  | [_] => none
  | [] => some []

end RequestGuard.Base64Url
