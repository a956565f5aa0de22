/-!
# Punycode

The form in which a label of a domain name hides characters that are not ASCII: the ASCII characters
come first, and after the last hyphen digits say which characters are to be put in, and where. The
digits are numbers to the base 36 of varying length, with a threshold at each place that ends a
number. `decode?` reads the digits one by one.
-/

namespace RequestGuard.Url.Punycode

def digitValue? (c : Char) : Option Nat :=
  if c.isLower then some (c.toNat - 97)
  else if c.isUpper then some (c.toNat - 65)
  else if c.isDigit then some (c.toNat - 22)
  else none

/-- The threshold at a place; smaller digits end a number. -/
def threshold (place bias : Nat) : Nat := max 1 (min 26 (place - bias))

/-- How many times a difference is divided by 35 until it is at most 455, and what is left. -/
def shrink (steps difference : Nat) : Nat × Nat :=
  if difference ≤ 455 then (steps, difference) else shrink (steps + 1) (difference / 35)
termination_by difference

/-- The bias after a number. -/
def adapt (difference size : Nat) (isFirst : Bool) : Nat :=
  let damped := if isFirst then difference / 700 else difference / 2
  let (steps, left) := shrink 0 (damped + damped / size)
  36 * steps + 36 * left / (left + 38)

/-- What has been read: the label so far, the character and the place where the last number left
off, the bias, whether a number came before, and the number that is being read. -/
structure State where
  label : List Char
  point : Nat := 128
  index : Nat := 0
  bias : Nat := 72
  isFirst : Bool := true
  number : Nat := 0
  weight : Nat := 1
  place : Nat := 36
deriving DecidableEq, Repr

namespace State

/-- Puts in the character that a complete number names. -/
def putIn? (state : State) (number : Nat) : Option State :=
  let size := state.label.length + 1
  let reached := state.index + number
  let point := state.point + reached / size
  let index := reached % size
  if point.isValidChar then
    some
      { label := state.label.take index ++ Char.ofNat point :: state.label.drop index
        point
        index := index + 1
        bias := adapt number size state.isFirst
        isFirst := false }
  else none

def digit? (state : State) (c : Char) : Option State :=
  (digitValue? c).bind fun digit =>
    let number := state.number + digit * state.weight
    let limit := threshold state.place state.bias
    if digit < limit then state.putIn? number
    else
      some
        { state with
          number, weight := state.weight * (36 - limit), place := state.place + 36 }

end State

/-- The ASCII characters of a label and the digits after them. -/
def parts (s : List Char) : List Char × List Char :=
  let digits := (s.reverse.takeWhile (· != '-')).reverse
  ((s.take (s.length - digits.length)).dropLast, digits)

/-- The label that a text hides; none if the last number is not complete. -/
def decode? (s : List Char) : Option (List Char) :=
  let (basic, digits) := parts s
  match digits.foldlM State.digit? { label := basic } with
  | some state => if state.place = 36 then some state.label else none
  | none => none

end RequestGuard.Url.Punycode
