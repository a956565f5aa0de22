import RequestGuard.Keyed

/-!
# JSON values

A value keeps the members of an object in the order of their names, each name once. A number is an
integer between `-2 ^ 63` and `2 ^ 64 - 1` or a double.
-/

namespace RequestGuard.Json

/-- A number as it is held: whole numbers of 64 bits exactly, all others as doubles. -/
inductive Number where
  | int (value : Int)
  | double (value : Float)
deriving DecidableEq, Repr

inductive Value where
  | null
  | bool (b : Bool)
  | number (n : Number)
  | string (s : String)
  | array (items : List Value)
  | object (members : List (String × Value))
deriving Repr, Inhabited, BEq

namespace Value

def ofInt (n : Int) : Value := .number (.int n)

def ofNat (n : Nat) : Value := .number (.int (Int.ofNat n))

/-- An object with the given members; of two with one name the later one counts. -/
def ofMembers (members : List (String × Value)) : Value := .object (Keyed.ofList members)

def ofOption {α : Type} (f : α → Value) : Option α → Value
  | none => .null
  | some a => f a

def member? (name : String) : Value → Option Value
  | .object members => Keyed.find? name members
  | _ => none

end Value

end RequestGuard.Json
