import RequestGuard.Decimal.Shortest
import RequestGuard.Text.Digits

/-!
# Writing a double

The shortest digits of a double are laid out with a point, or with an exponent if the value is very
small or very large. Where the change comes is a `Layout`.
-/

namespace RequestGuard.Decimal

/-- Decimal exponents from `least` up to but not including `limit` are written with a point. -/
structure Layout where
  least : Int
  limit : Int
deriving DecidableEq, Repr

namespace Layout

/-- Digits `d₁d₂…` with the exponent of `d₁`, with a point and at least one digit on either side
of it. -/
def positional (digits : List Char) (exponent : Int) : List Char :=
  if exponent < 0 then
    '0' :: '.' :: (List.replicate (-exponent - 1).toNat '0' ++ digits)
  else
    let whole := exponent.toNat + 1
    if digits.length ≤ whole then
      digits ++ List.replicate (whole - digits.length) '0' ++ ['.', '0']
    else digits.take whole ++ '.' :: digits.drop whole

/-- Digits `d₁d₂…` as `d₁.d₂…e±x`, without the point if there is one digit. -/
def scientific (digits : List Char) (exponent : Int) : List Char :=
  let mantissa :=
    match digits with
    | first :: second :: rest => first :: '.' :: second :: rest
    | few => few
  let sign := if exponent < 0 then '-' else '+'
  mantissa ++ 'e' :: sign :: Text.digits exponent.natAbs

def render (layout : Layout) (x : Float) : String :=
  let bits := x.toBits
  let signBit := 0x8000000000000000
  let magnitude :=
    if bits.toNat % signBit = 0 then ['0', '.', '0']
    else
      let (c, k) := (Span.ofBits bits).shortest
      let digits := Text.digits c
      let exponent := k + Int.ofNat digits.length - 1
      if layout.least ≤ exponent ∧ exponent < layout.limit then positional digits exponent
      else scientific digits exponent
  String.ofList (if bits.toNat / signBit = 1 then '-' :: magnitude else magnitude)

end Layout

end RequestGuard.Decimal
