import RequestGuard.Input.Jwt

/-!
# The strings in a value

Every string that a JSON value holds, with the place where it stands: `occurrences` lists them in
the order in which a walk meets them. `collect` is the walk itself, which keeps the first place of
each string, up to a number of distinct strings (`collect_eq_foldl`). A name of a member stands at
its object. An array of scalars also stands for its items joined by commas, and a text shaped like a
token also stands for its claims.

A walk goes down a limited number of levels; the value itself is at level 0.
-/

namespace RequestGuard.Input

open Json (Value)

/-- One step from a value to a part of it. -/
inductive Step where
  | member (name : String)
  | item (index : Nat)
  | claims
deriving DecidableEq, Repr

/-- A place inside a value: the steps from the value to it. -/
abbrev Path := List Step

def Step.render : Step → String
  | .member name => "." ++ name
  | .item index => ".[" ++ Text.decimal index ++ "]"
  | .claims => "<jwt>"

/-- The text of a place; the value itself is at `.`. -/
def Path.render : Path → String
  | [] => "."
  | first :: rest => rest.foldl (fun text step => text ++ step.render) first.render

/-- How far a walk goes down and how many distinct strings it keeps. -/
structure Limits where
  maxDepth : Nat := 20
  maxEntries : Nat := 5000
deriving DecidableEq, Repr

/-- The text of a scalar in a joined array. -/
def scalarText? : Value → Option String
  | .null => some ""
  | .bool true => some "true"
  | .bool false => some "false"
  | .number n => some n.render
  | .string s => some s
  | .array _ | .object _ => none

/-- The items of an array of scalars joined by commas, if that is not empty. -/
def joined? (items : List Value) : Option String :=
  match items.mapM scalarText? with
  | some texts =>
    let text := String.intercalate "," texts
    if text.isEmpty then none else some text
  | none => none

/-- The claims of a token without the issuer, whose URL is no input of the user. -/
def claimsWithoutIssuer? (s : String) : Option Value :=
  (Jwt.claims? s).map fun claims => .object (claims.filter fun member => member.1 != "iss")

def numbered (path : Path) (items : List Value) : List (Path × Value) :=
  items.zipIdx.map fun (item, index) => (path ++ [.item index], item)

/-- The strings in a value at a place, in the order of a walk that goes down `levels` levels, the
level of the value included. -/
def occurrences (levels : Nat) (path : Path) (value : Value) : List (String × Path) :=
  match levels with
  | 0 => []
  | below + 1 =>
    match value with
    | .object members =>
      members.flatMap fun (name, nested) =>
        (name, path) :: occurrences below (path ++ [.member name]) nested
    | .array items =>
      (numbered path items).flatMap (fun (place, item) => occurrences below place item) ++
        ((joined? items).map (·, path)).toList
    | .string s =>
      (s, path) ::
        match claimsWithoutIssuer? s with
        | some claims => occurrences below (path ++ [.claims]) claims
        | none => []
    | .number _ | .bool _ | .null => []

/-- Distinct strings, in their order, each with its first place. -/
abbrev Strings := List (String × Path)

/-- Adds a string unless it is known already or the limit is reached. -/
def add (maxEntries : Nat) (found : Strings) (occurrence : String × Path) : Strings :=
  if Keyed.contains occurrence.1 found then found
  else if found.length ≥ maxEntries then found
  else Keyed.insert occurrence.1 occurrence.2 found

/-- Adds the strings of a value at a place to those that were found before it, in the order in which
a walk meets them that goes down `levels` levels, the level of the value included. -/
def collect (maxEntries levels : Nat) (path : Path) (value : Value) (found : Strings) : Strings :=
  match levels with
  | 0 => found
  | below + 1 =>
    match value with
    | .object members =>
      members.foldl
        (fun found (name, nested) =>
          collect maxEntries below (path ++ [.member name]) nested
            (add maxEntries found (name, path)))
        found
    | .array items =>
      let inside :=
        (numbered path items).foldl
          (fun found (place, item) => collect maxEntries below place item found) found
      match joined? items with
      | some text => add maxEntries inside (text, path)
      | none => inside
    | .string s =>
      let known := add maxEntries found (s, path)
      match claimsWithoutIssuer? s with
      | some claims => collect maxEntries below (path ++ [.claims]) claims known
      | none => known
    | .number _ | .bool _ | .null => found

def strings (limits : Limits) (value : Value) : Strings :=
  collect limits.maxEntries (limits.maxDepth + 1) [] value []

theorem collect_eq_foldl (maxEntries levels : Nat) (path : Path) (value : Value) (found : Strings) :
    collect maxEntries levels path value found
      = (occurrences levels path value).foldl (add maxEntries) found := by
  induction levels generalizing path value found with
  | zero => rfl
  | succ below ih =>
    cases value with
    | object members =>
      rw [collect, occurrences, List.foldl_flatMap]
      congr 1
      funext found member
      exact ih _ _ _
    | array items =>
      have hitems : (numbered path items).foldl
            (fun found (place, item) => collect maxEntries below place item found) found
          = ((numbered path items).flatMap
              fun (place, item) => occurrences below place item).foldl (add maxEntries) found := by
        rw [List.foldl_flatMap]
        congr 1
        funext found item
        exact ih _ _ _
      rw [collect, occurrences, List.foldl_append, hitems]
      cases joined? items <;> rfl
    | string s =>
      rw [collect, occurrences, List.foldl_cons]
      cases claimsWithoutIssuer? s with
      | some claims => exact ih _ _ _
      | none => rfl
    | number => rfl
    | bool => rfl
    | null => rfl

end RequestGuard.Input
