import RequestGuard.Decimal.Layout
import RequestGuard.Json.Value

/-!
# Number literals

A literal has a sign, whole digits, and possibly a fraction and an exponent. `Literal.value?` says
which number it stands for: an integer if it is written as one and fits 64 bits, otherwise a
double, and none if it is too large for a double.

A double is computed from a significand below `2 ^ 64` and a power of ten with one rounding for
each: the significand takes digits as long as it fits, and digits after that only count as powers
of ten before the point and not at all after it.
-/

namespace RequestGuard.Json

structure Literal where
  negative : Bool
  whole : List Char
  fraction : Option (List Char)
  exponent : Option (Bool × List Char)
deriving DecidableEq, Repr

namespace Literal

/-- The least number that 64 bits do not hold. -/
def wordLimit : Nat := 0x10000000000000000

/-- The significand and the power of ten of a run of digits that continues a significand: `step`
is added for each digit taken in, and `skip` for each one left over. -/
def takeDigits (step skip : Int) : Nat → Int → List Char → Nat × Int
  | significand, power, [] => (significand, power)
  | significand, power, c :: rest =>
    let next := significand * 10 + (c.toNat - 48)
    if next < wordLimit then takeDigits step skip next (power + step) rest
    else (significand, power + skip * Int.ofNat (rest.length + 1))

def tenTo (n : Nat) : Float := Float.ofScientific 1 false n

/-- A double divided by a power of ten, in steps of at most `10 ^ 308`. -/
def shrink (x : Float) (power : Nat) : Float :=
  if power ≤ 308 then x / tenTo power
  else if x == 0.0 then x
  else shrink (x / tenTo 308) (power - 308)
termination_by power

/-- A significand times a power of ten as a double; none if that overflows. -/
def scale? (significand : Nat) (power : Int) : Option Float :=
  let x := (UInt64.ofNat significand).toFloat
  if power < 0 then some (shrink x power.natAbs)
  else if power ≤ 308 then
    let y := x * tenTo power.natAbs
    if y.isInf then none else some y
  else if significand = 0 then some x
  else none

def magnitude? (literal : Literal) : Option Float :=
  let (significand, power) := takeDigits 0 1 0 0 literal.whole
  let (significand, power) := takeDigits (-1) 0 significand power (literal.fraction.getD [])
  match literal.exponent with
  | none => scale? significand power
  | some (negative, digits) =>
    let n := Text.ofDigits digits
    if n ≥ 0x80000000 then if significand = 0 ∨ negative then some 0.0 else none
    else scale? significand (if negative then power - Int.ofNat n else power + Int.ofNat n)

/-- The whole number that a literal writes, if it is written without fraction and exponent and
fits 64 bits. Minus zero is no whole number. -/
def int? (literal : Literal) : Option Int :=
  if literal.fraction.isSome || literal.exponent.isSome then none
  else
    let n := Text.ofDigits literal.whole
    if literal.negative then if 0 < n ∧ n ≤ 0x8000000000000000 then some (-Int.ofNat n) else none
    else if n < wordLimit then some (Int.ofNat n) else none

def value? (literal : Literal) : Option Number :=
  match literal.int? with
  | some n => some (.int n)
  | none => literal.magnitude?.map fun x => .double (if literal.negative then -x else x)

end Literal

/-- Doubles from `0.00001` up to but not including `1e+16` are written with a point. -/
def Number.layout : Decimal.Layout := ⟨-5, 16⟩

def Number.render : Number → String
  | .int n => Text.decimalInt n
  | .double x => Number.layout.render x

end RequestGuard.Json
