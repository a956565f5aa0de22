import RequestGuard.Toml.Scalar
import RequestGuard.Toml.Text

/-!
# Keys and values of TOML

A key is a path of names between dots. A value is a word, a string, an array or a table in braces.
In such a table a path makes the tables on its way, and may enter only tables that were made so.
-/

namespace RequestGuard.Toml

/-- How deeply values and paths may be nested. -/
def maxDepth : Nat := 80

def isNameChar (c : Char) : Bool := c.isAlphanum || c == '_' || c == '-'

def readName? (s : List Char) : Option (String × List Char) :=
  match s with
  | c :: rest =>
    if c = '"' ∨ c = '\'' then readLine? c (rest.length + 1) [] rest
    else
      let name := s.takeWhile isNameChar
      if name.isEmpty then none else some (String.ofList name, s.drop name.length)
  | [] => none

/-- Reads a key, and skips the blanks after it; `fuel` bounds the number of its names. -/
def readKeyNames? : Nat → List Char → Option (List String × List Char)
  | 0, _ => none
  | fuel + 1, s =>
    (readName? (skipBlanks s)).bind fun (name, rest) =>
      match skipBlanks rest with
      | '.' :: rest => (readKeyNames? fuel rest).map fun (names, rest) => (name :: names, rest)
      | rest => some ([name], rest)

def readKey? (s : List Char) : Option (List String × List Char) := readKeyNames? (maxDepth - 1) s

/-- How a table came to be: written as such, named on the way to a table in brackets, or named by
the path of a key. -/
inductive Origin where
  | written
  | header
  | dotted
deriving DecidableEq, Repr

/-- A table that is being read, or a value. -/
inductive Node where
  | value (v : Value)
  | table (origin : Origin) (members : List (String × Node))
  | tables (all : List (List (String × Node)))

namespace Node

/-- Sets the member of a table with a name, which keeps its place if it has one. -/
def set (name : String) (node : Node) : List (String × Node) → List (String × Node)
  | [] => [(name, node)]
  | (key, old) :: rest =>
    if key = name then (key, node) :: rest else (key, old) :: set name node rest

/-- Changes the table at the end of a path. Tables on the way that are missing are made with an
origin; a path of a key may not enter tables that were written. Of an array of tables the last one
is entered. -/
def update? (origin : Origin)
    (change : Origin → List (String × Node) → Option (List (String × Node))) :
    List String → Origin → List (String × Node) → Option (List (String × Node))
  | [], here, members => change here members
  | name :: path, _, members =>
    match members.lookup name with
    | none =>
      (update? origin change path origin []).map fun inner => set name (.table origin inner) members
    | some (.value _) => none
    | some (.table old inner) =>
      if origin = .dotted ∧ old = .written then none
      else
        (update? origin change path old inner).map fun inner =>
          set name (.table old inner) members
    | some (.tables all) =>
      match all.reverse with
      | [] => none
      | last :: before =>
        (update? origin change path .written last).map fun last =>
          set name (.tables (last :: before).reverse) members

/-- Adds a member to the table at the end of a path of a key, which must have been made by such
paths. -/
def insert? (path : List String) (value : Value) (here : Origin) (members : List (String × Node)) :
    Option (List (String × Node)) :=
  match path.reverse with
  | [] => none
  | name :: way =>
    update? .dotted
      (fun origin members =>
        if (origin == .dotted) == way.isEmpty || (members.lookup name).isSome then none
        else some (set name (.value value) members))
      way.reverse here members

mutual

def toValue : Node → Value
  | .value v => v
  | .table _ members => .table (memberValues members)
  | .tables all => .array (tableValues all)

def memberValues : List (String × Node) → List (String × Value)
  | [] => []
  | (name, node) :: rest => (name, toValue node) :: memberValues rest

def tableValues : List (List (String × Node)) → List Value
  | [] => []
  | members :: rest => .table (memberValues members) :: tableValues rest

end

end Node

mutual

/-- Reads a value with fewer than `depth` levels; `fuel` bounds its length. -/
def readValue? (fuel depth : Nat) (s : List Char) : Option (Value × List Char) :=
  match fuel with
  | 0 => none
  | fuel + 1 =>
    match s with
    | '[' :: rest =>
      if depth ≤ 1 then none
      else
        (skipLines? false rest).bind fun rest =>
          match rest with
          | ']' :: rest => some (.array [], rest)
          | rest => readItems? fuel (depth - 1) [] rest
    | '\x7b' :: rest =>
      if depth ≤ 1 then none
      else
        match skipBlanks rest with
        | '\x7d' :: rest => some (.table [], rest)
        | rest => readMembers? fuel (depth - 1) [] rest
    | c :: _ =>
      if c = '"' ∨ c = '\'' then
        (readString? c s).map fun (text, rest) => (.string text, rest)
      else readWord? s
    | [] => none

/-- Reads the items of an array from the first on. A comma may follow the last one. -/
def readItems? (fuel depth : Nat) (done : List Value) (s : List Char) :
    Option (Value × List Char) :=
  match fuel with
  | 0 => none
  | fuel + 1 =>
    (readValue? fuel depth s).bind fun (item, rest) =>
      (skipLines? false rest).bind fun rest =>
        match rest with
        | ']' :: rest => some (.array (item :: done).reverse, rest)
        | ',' :: rest =>
          (skipLines? false rest).bind fun rest =>
            match rest with
            | ']' :: rest => some (.array (item :: done).reverse, rest)
            | rest => readItems? fuel depth (item :: done) rest
        | _ => none

/-- Reads the members of a table in braces from the first on. -/
def readMembers? (fuel depth : Nat) (done : List (String × Node)) (s : List Char) :
    Option (Value × List Char) :=
  match fuel with
  | 0 => none
  | fuel + 1 =>
    match readKey? s with
    | some (path, '=' :: rest) =>
      (readValue? fuel depth (skipBlanks rest)).bind fun (value, rest) =>
        (Node.insert? path value .written done).bind fun done =>
          match skipBlanks rest with
          | '\x7d' :: rest => some (.table (Node.memberValues done), rest)
          | ',' :: rest => readMembers? fuel depth done (skipBlanks rest)
          | _ => none
    | _ => none

end

end RequestGuard.Toml
