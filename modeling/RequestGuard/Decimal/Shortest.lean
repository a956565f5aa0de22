/-!
# The shortest decimal of a double

A finite double is a natural number times a power of two, and the reals that round to it form an
interval around it. `Span.shortest` is the decimal `c · 10 ^ k` in that interval with the largest
`k`, hence with the fewest digits; of several on that grid it is the one nearest to the value, and
of two equally near ones the even one. All arithmetic is exact.
-/

namespace RequestGuard.Decimal

/-- A positive value with the interval of the reals that round to it, as numerators over one
common denominator. The ends belong to the interval if `closed`. -/
structure Span where
  lower : Nat
  value : Nat
  upper : Nat
  den : Nat
  closed : Bool
deriving DecidableEq, Repr

namespace Span

/-- The least significand of a double whose exponent is not the least one. -/
def leastNormal : Nat := 0x10000000000000

/-- The span of the double `m · 2 ^ q`. Below a power of two the neighbour is half as far, unless
`q` is already the least exponent. -/
def ofScaled (m : Nat) (q : Int) : Span :=
  let lower := if m = leastNormal ∧ q > -1074 then 4 * m - 1 else 4 * m - 2
  let up := (q - 2).toNat
  let down := (2 - q).toNat
  { lower := lower <<< up
    value := (4 * m) <<< up
    upper := (4 * m + 2) <<< up
    den := 1 <<< down
    closed := m % 2 = 0 }

/-- The span of the finite non-zero double with the given bits, its sign left out. -/
def ofBits (bits : UInt64) : Span :=
  let exponent := bits.toNat / leastNormal % 0x800
  let fraction := bits.toNat % leastNormal
  if exponent = 0 then ofScaled fraction (-1074)
  else ofScaled (leastNormal + fraction) (Int.ofNat exponent - 1075)

/-- Whether `c · 10 ^ k` lies in the interval, for `num / den = c · 10 ^ k`. -/
def holds (s : Span) (num den : Nat) : Bool :=
  if s.closed then s.lower * den ≤ num * s.den && num * s.den ≤ s.upper * den
  else s.lower * den < num * s.den && num * s.den < s.upper * den

/-- The point of the grid of multiples of `10 ^ k` that lies in the interval and is nearest to the
value. -/
def onGrid? (s : Span) (k : Int) : Option Nat :=
  let num := Nat.pow 10 k.toNat
  let den := Nat.pow 10 (-k).toNat
  let below := s.value * den / (s.den * num)
  let above := below + 1
  match s.holds (below * num) den, s.holds (above * num) den with
  | true, true =>
    let toBelow := s.value * den - below * num * s.den
    let toAbove := above * num * s.den - s.value * den
    if toBelow < toAbove then some below
    else if toAbove < toBelow then some above
    else if below % 2 = 0 then some below
    else some above
  | true, false => some below
  | false, true => some above
  | false, false => none

/-- The decimal `c · 10 ^ k` with the fewest digits, as `(c, k)`. -/
def shortest (s : Span) : Nat × Int :=
  ((List.range 640).findSome? fun i =>
    let k : Int := 309 - Int.ofNat i
    (s.onGrid? k).map (·, k)).getD (0, 0)

end Span

end RequestGuard.Decimal
