import RequestGuard.Json.Token

/-!
# From tokens to values

A text is first read as a `Tree`, which follows the text: it keeps members in written order with
their repetitions, and it has places without a value where a string or a number has none. A reader
that skips part of a text looks only at the tree of that part. `Tree.toValue?` asks every place for
its value and limits how deep containers may be nested.

The reader is a machine that goes through the tokens once and keeps a stack of the open containers.
-/

namespace RequestGuard.Json

/-- A JSON text as it is written. -/
inductive Tree where
  | null
  | bool (b : Bool)
  | number (n : Option Number)
  | string (s : Option String)
  | array (items : List Tree)
  | object (members : List (Option String × Tree))
deriving Repr, Inhabited

namespace Tree

/-- An open container: what it holds so far, the last part first. -/
inductive Frame where
  | array (items : List Tree)
  | object (members : List (Option String × Tree)) (name : Option String)

/-- What may come next, given the open containers from the innermost outwards. -/
inductive State where
  | value (stack : List Frame)
  | firstItem (stack : List Frame)
  | afterItem (items : List Tree) (stack : List Frame)
  | firstName (stack : List Frame)
  | name (members : List (Option String × Tree)) (stack : List Frame)
  | colon (members : List (Option String × Tree)) (name : Option String) (stack : List Frame)
  | afterMember (members : List (Option String × Tree)) (stack : List Frame)
  | finished (tree : Tree)

/-- Puts a finished tree into the innermost open container. -/
def deliver (tree : Tree) : List Frame → State
  | [] => .finished tree
  | .array items :: stack => .afterItem (tree :: items) stack
  | .object members name :: stack => .afterMember ((name, tree) :: members) stack

def begin? (stack : List Frame) : Token → Option State
  | .null => some (deliver .null stack)
  | .bool b => some (deliver (.bool b) stack)
  | .number n => some (deliver (.number n) stack)
  | .string s => some (deliver (.string s) stack)
  | .openBracket => some (.firstItem stack)
  | .openBrace => some (.firstName stack)
  | _ => none

def step? : State → Token → Option State
  | .value stack, token => begin? stack token
  | .firstItem stack, .closeBracket => some (deliver (.array []) stack)
  | .firstItem stack, token => begin? (.array [] :: stack) token
  | .afterItem items stack, .comma => some (.value (.array items :: stack))
  | .afterItem items stack, .closeBracket => some (deliver (.array items.reverse) stack)
  | .firstName stack, .closeBrace => some (deliver (.object []) stack)
  | .firstName stack, .string name => some (.colon [] name stack)
  | .name members stack, .string name => some (.colon members name stack)
  | .colon members name stack, .colon => some (.value (.object members name :: stack))
  | .afterMember members stack, .comma => some (.name members stack)
  | .afterMember members stack, .closeBrace => some (deliver (.object members.reverse) stack)
  | _, _ => none

def run? : State → List Token → Option State
  | state, [] => some state
  | state, token :: rest => (step? state token).bind fun next => run? next rest

/-- The tree of a text that holds one value and nothing else. -/
def parse? (s : String) : Option Tree :=
  match (tokens? s.toList).bind (run? (.value [])) with
  | some (.finished tree) => some tree
  | _ => none

mutual

/-- The value of a tree with at most `depth` containers inside each other. -/
def toValue? (depth : Nat) : Tree → Option Value
  | .null => some .null
  | .bool b => some (.bool b)
  | .number n => n.map .number
  | .string s => s.map .string
  | .array items => if depth = 0 then none else (itemValues? (depth - 1) items).map .array
  | .object members =>
    if depth = 0 then none else (memberValues? (depth - 1) members).map Value.ofMembers

def itemValues? (depth : Nat) : List Tree → Option (List Value)
  | [] => some []
  | item :: rest =>
    (toValue? depth item).bind fun value => (itemValues? depth rest).map (value :: ·)

def memberValues? (depth : Nat) : List (Option String × Tree) → Option (List (String × Value))
  | [] => some []
  | (name, tree) :: rest =>
    name.bind fun name =>
      (toValue? depth tree).bind fun value =>
        (memberValues? depth rest).map ((name, value) :: ·)

end

mutual

def ofValue : Value → Tree
  | .null => .null
  | .bool b => .bool b
  | .number n => .number (some n)
  | .string s => .string (some s)
  | .array items => .array (ofItems items)
  | .object members => .object (ofMembers members)

def ofItems : List Value → List Tree
  | [] => []
  | item :: rest => ofValue item :: ofItems rest

def ofMembers : List (String × Value) → List (Option String × Tree)
  | [] => []
  | (name, value) :: rest => (some name, ofValue value) :: ofMembers rest

end

theorem ofItems_eq_map (items : List Value) : ofItems items = items.map ofValue := by
  induction items with
  | nil => rfl
  | cons item items ih => rw [ofItems, ih, List.map_cons]

theorem ofMembers_eq_map (members : List (String × Value)) :
    ofMembers members = members.map fun member => (some member.1, ofValue member.2) := by
  induction members with
  | nil => rfl
  | cons member members ih => rw [ofMembers, ih, List.map_cons]

end Tree

/-- How deep containers may be nested in a text that is read as a value. -/
def maxDepth : Nat := 127

def Value.parse? (s : String) : Option Value := (Tree.parse? s).bind (Tree.toValue? maxDepth)

end RequestGuard.Json
