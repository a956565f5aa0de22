import RequestGuard.Json.Tree

/-!
# TOML values

What a TOML document holds. A value is read into a record through the tree `Value.toTree`, like a
JSON text; a date is a record of its own, with no field that another record has.
-/

namespace RequestGuard.Toml

inductive Value where
  | string (s : String)
  | integer (n : Int)
  | float (x : Float)
  | boolean (b : Bool)
  | date (text : String)
  | array (items : List Value)
  | table (members : List (String × Value))
deriving Repr, Inhabited

namespace Value

mutual

def toTree : Value → Json.Tree
  | .string s => .string (some s)
  | .integer n => .number (some (.int n))
  | .float x => .number (some (.double x))
  | .boolean b => .bool b
  | .date text => .object [(some "date", .string (some text))]
  | .array items => .array (itemTrees items)
  | .table members => .object (memberTrees members)

def itemTrees : List Value → List Json.Tree
  | [] => []
  | item :: rest => toTree item :: itemTrees rest

def memberTrees : List (String × Value) → List (Option String × Json.Tree)
  | [] => []
  | (key, value) :: rest => (some key, toTree value) :: memberTrees rest

end

end Value

end RequestGuard.Toml
