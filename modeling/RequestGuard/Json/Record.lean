import RequestGuard.Json.Tree

/-!
# Records

A record is read from an object whose members are its fields, or from an array that lists its
fields in order and may stop early. Fields that are not given have their defaults, and members with
other names do not count; but a field that is given twice makes the text unreadable, and so does a
value of another type. Nothing is converted: a number is a whole number only if it is written as
one.
-/

namespace RequestGuard.Json

/-- The fields that a text gives to a record. -/
abbrev Fields := List (String × Tree)

namespace Fields

def get? {α : Type} (fields : Fields) (name : String) (read : Tree → Option α) (fallback : α) :
    Option α :=
  match fields.lookup name with
  | none => some fallback
  | some tree => read tree

end Fields

namespace Tree

def fieldsOfMembers? (names : List String) : List (Option String × Tree) → Option Fields
  | [] => some []
  | (none, _) :: _ => none
  | (some name, tree) :: rest =>
    (fieldsOfMembers? names rest).bind fun fields =>
      if !names.contains name then some fields
      else if (fields.lookup name).isSome then none
      else some ((name, tree) :: fields)

def fields? (names : List String) : Tree → Option Fields
  | .object members => fieldsOfMembers? names members
  | .array items => if items.length ≤ names.length then some (names.zip items) else none
  | _ => none

def bool? : Tree → Option Bool
  | .bool b => some b
  | _ => none

def string? : Tree → Option String
  | .string s => s
  | _ => none

def uint64? : Tree → Option UInt64
  | .number (some (.int n)) =>
    if 0 ≤ n ∧ n < 0x10000000000000000 then some (UInt64.ofNat n.toNat) else none
  | _ => none

def int64? : Tree → Option Int64
  | .number (some (.int n)) =>
    if -0x8000000000000000 ≤ n ∧ n < 0x8000000000000000 then some (Int64.ofInt n) else none
  | _ => none

def optional? {α : Type} (read : Tree → Option α) : Tree → Option (Option α)
  | .null => some none
  | tree => (read tree).map some

def list? {α : Type} (read : Tree → Option α) : Tree → Option (List α)
  | .array items => items.mapM read
  | _ => none

end Tree

end RequestGuard.Json
