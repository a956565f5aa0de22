import RequestGuard.Toml.Nested

/-!
# TOML documents

A document is read line by line. A line sets a member of the table that the last brackets named, or
names a table. A table may be named once; with double brackets a name stands for a list of tables,
to which each line adds one.
-/

namespace RequestGuard.Toml

/-- What is read of a document: its tables, and the path of the table that is being filled. -/
structure Document where
  members : List (String × Node) := []
  path : List String := []

namespace Document

def updateHere? (document : Document)
    (change : Origin → List (String × Node) → Option (List (String × Node))) : Option Document :=
  (Node.update? .header change document.path .written document.members).map fun members =>
    { document with members }

def set? (document : Document) (path : List String) (value : Value) : Option Document :=
  document.updateHere? fun _ members => Node.insert? path value .written members

/-- Changes the table that holds the last name of a path. -/
def updateParent? (document : Document) (path : List String)
    (change : String → List (String × Node) → Option (List (String × Node))) : Option Document :=
  match path.reverse with
  | [] => none
  | name :: way =>
    (Node.update? .header (fun _ members => change name members) way.reverse .written
      document.members).map fun members => { members, path }

/-- Begins a table. A table that was only named on the way to others may still be begun. -/
def beginTable? (document : Document) (path : List String) : Option Document :=
  document.updateParent? path fun name members =>
    match members.lookup name with
    | none => some (Node.set name (.table .written []) members)
    | some (.table .header inner) => some (Node.set name (.table .written inner) members)
    | _ => none

def beginItem? (document : Document) (path : List String) : Option Document :=
  document.updateParent? path fun name members =>
    match members.lookup name with
    | none => some (Node.set name (.tables [[]]) members)
    | some (.tables all) => some (Node.set name (.tables (all ++ [[]])) members)
    | _ => none

def readLine? (document : Document) (s : List Char) : Option (Document × List Char) :=
  match s with
  | '[' :: '[' :: rest =>
    match readKey? rest with
    | some (path, ']' :: ']' :: rest) => (document.beginItem? path).map (·, rest)
    | _ => none
  | '[' :: rest =>
    match readKey? rest with
    | some (path, ']' :: rest) => (document.beginTable? path).map (·, rest)
    | _ => none
  | s =>
    match readKey? s with
    | some (path, '=' :: rest) =>
      (readValue? (rest.length + 1) maxDepth (skipBlanks rest)).bind fun (value, rest) =>
        (document.set? path value).map (·, rest)
    | _ => none

/-- Reads the rest of a document, which has at most `fuel` lines. -/
def read? : Nat → Document → List Char → Option Document
  | 0, _, _ => none
  | fuel + 1, document, s =>
    (skipLines? false s).bind fun rest =>
      if rest.isEmpty then some document
      else
        (document.readLine? rest).bind fun (document, rest) =>
          (endLine? rest).bind fun rest => read? fuel document rest

end Document

/-- The table that a document holds. A byte order mark may stand before it. -/
def parse? (s : String) : Option Value :=
  let chars :=
    match s.toList with
    | '\uFEFF' :: rest => rest
    | all => all
  (Document.read? (chars.length + 1) {} chars).map fun document =>
    .table (Node.memberValues document.members)

end RequestGuard.Toml
