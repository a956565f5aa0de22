import RequestGuard.Pattern.Bracket

/-!
# Reading patterns

A pattern is read from left to right by a machine that keeps the alternatives of the open groups.
A repetition needs something to repeat; a group may have a name, which no other group has, or flags,
which hold up to its end. What looks around or refers back to a group is no pattern, and neither is
one that is nested too deeply.
-/

namespace RequestGuard.Pattern

/-- A pattern with the depth of its nesting. -/
structure Nested where
  expr : Expr
  depth : Nat

namespace Nested

def deeper (a : Nested) (expr : Expr) : Nested := { expr, depth := a.depth + 1 }

def maxDepth (parts : List Nested) : Nat := (parts.map Nested.depth).foldl max 0

end Nested

/-- An item of an alternative: something to match, or a change of flags. -/
inductive Item where
  | flags
  | part (a : Nested)

namespace Item

def nested : Item → Nested
  | .flags => ⟨.empty, 0⟩
  | .part a => a

end Item

/-- A group that is open: the flags to come back to, and what is read so far of the alternatives
outside of it, the last first. -/
structure Group where
  flags : Flags
  alternatives : List Nested
  items : List Item

/-- What is read so far: the flags, the finished alternatives of the innermost group, the items of
the alternative that is being read, the last first in both, the open groups, and the names given to
groups. -/
structure Reader where
  flags : Flags
  alternatives : List Nested := []
  items : List Item := []
  outer : List Group := []
  names : List (List Char) := []

namespace Reader

def add (reader : Reader) (expr : Expr) (depth : Nat) : Reader :=
  { reader with items := .part ⟨expr, depth⟩ :: reader.items }

def alternative (reader : Reader) : Nested :=
  let parts := (reader.items.map Item.nested).reverse
  let depth := Nested.maxDepth parts
  { expr := Expr.sequence (parts.map Nested.expr)
    depth := if parts.length > 1 then depth + 1 else depth }

/-- What is read of the innermost group. -/
def inside (reader : Reader) : Nested :=
  match reader.alternatives with
  | [] => reader.alternative
  | more =>
    let all := (reader.alternative :: more).reverse
    { expr := Expr.oneOf (all.map Nested.expr), depth := Nested.maxDepth all + 1 }

def nextAlternative (reader : Reader) : Reader :=
  { reader with alternatives := reader.alternative :: reader.alternatives, items := [] }

def openGroup (reader : Reader) (flags : Flags) : Reader :=
  { reader with
    flags
    alternatives := []
    items := []
    outer := ⟨reader.flags, reader.alternatives, reader.items⟩ :: reader.outer }

def closeGroup? (reader : Reader) : Option Reader :=
  match reader.outer with
  | [] => none
  | group :: outer =>
    let inside := reader.inside
    some
      { reader with
        flags := group.flags
        alternatives := group.alternatives
        items := .part (inside.deeper inside.expr) :: group.items
        outer }

def repeatLast? (reader : Reader) (least : Nat) (most : Option Nat) : Option Reader :=
  match reader.items with
  | .part a :: rest =>
    some { reader with items := .part (a.deeper (.repeated a.expr least most)) :: rest }
  | _ => none

def charExpr (flags : Flags) (c : Char) : Expr :=
  if flags.ignoreCase && (flags.unicode || c.toNat < 0x80) then
    .chars (Escape.foldClass flags (.single c))
  else .chars (.single c)

/-- The expression for the dot. Without Unicode it could stand for a part of a character. -/
def dotExpr? (flags : Flags) : Option Expr :=
  if !flags.unicode then none
  else if flags.dotAll then some (.chars .any)
  else if flags.carriageReturn then
    some (.chars (.compl (.union (.single '\n') (.single '\r'))))
  else some (.chars (.compl (.single '\n')))

/-- The assertion for `^`. -/
def startAssertion (flags : Flags) : Assertion :=
  if !flags.multiLine then .textStart
  else if flags.carriageReturn then .lineStartCrLf
  else .lineStart

/-- The assertion for `$`. -/
def endAssertion (flags : Flags) : Assertion :=
  if !flags.multiLine then .textEnd
  else if flags.carriageReturn then .lineEndCrLf
  else .lineEnd

def isNameChar (first : Bool) (c : Char) : Bool :=
  c == '_' || alphabetic.contains c ||
    (!first && (c == '.' || c == '[' || c == ']' || number.contains c))

def isName : List Char → Bool
  | [] => false
  | c :: rest => isNameChar true c && rest.all (isNameChar false)

/-- Opens a group with a name, which ends at `>`. -/
def openNamed? (reader : Reader) (s : List Char) : Option (Reader × List Char) :=
  let name := s.takeWhile (· != '>')
  match s.drop name.length with
  | _ :: rest =>
    if isName name && !reader.names.contains name then
      some ({ reader with names := name :: reader.names }.openGroup reader.flags, rest)
    else none
  | [] => none

/-- Reads flags up to a colon, which opens a group, or up to the end of the parentheses. -/
def openFlags? (reader : Reader) (s : List Char) : Option (Reader × List Char) :=
  let letters := s.takeWhile fun c => c != ':' && c != ')'
  (reader.flags.change? letters).bind fun flags =>
    match s.drop letters.length with
    | ':' :: rest => some (reader.openGroup flags, rest)
    | ')' :: rest =>
      if letters.isEmpty then none
      else some ({ reader with flags, items := .flags :: reader.items }, rest)
    | _ => none

def open? (reader : Reader) (s : List Char) : Option (Reader × List Char) :=
  match reader.flags.skip s with
  | '?' :: '=' :: _ | '?' :: '!' :: _ | '?' :: '<' :: '=' :: _ | '?' :: '<' :: '!' :: _ => none
  | '?' :: 'P' :: '<' :: rest | '?' :: '<' :: rest => reader.openNamed? rest
  | '?' :: rest => reader.openFlags? rest
  | rest => some (reader.openGroup reader.flags, rest)

/-- Skips the question mark that makes a repetition prefer few copies. -/
def skipLazy : List Char → List Char
  | '?' :: rest => rest
  | s => s

def readCount? (flags : Flags) (s : List Char) : Option (Nat × List Char) :=
  let s := s.dropWhile Text.isBlank
  let (digits, rest) := readDigits flags s
  let n := Text.ofDigits digits
  if digits.isEmpty || n ≥ 0x100000000 then none else some (n, rest.dropWhile Text.isBlank)
where
  /-- The digits at the beginning of a text. -/
  readDigits (flags : Flags) : List Char → List Char × List Char
    | [] => ([], [])
    | c :: rest =>
      if c.isDigit then
        let (digits, rest) := readDigits flags rest
        (c :: digits, rest)
      else if flags.spaced && Text.isBlank c then readDigits flags rest
      else ([], c :: rest)

def readCounts? (flags : Flags) (s : List Char) : Option (Nat × Option Nat × List Char) := do
  let (least, rest) ← readCount? flags (flags.skip s)
  let (most, rest) ←
    match rest with
    | ',' :: rest =>
      match flags.skip rest with
      | '\x7d' :: rest => some (none, '\x7d' :: rest)
      | rest => (readCount? flags rest).map fun (most, rest) => (some most, rest)
    | rest => some (some least, rest)
  match rest with
  | '\x7d' :: rest =>
    if most.all (least ≤ ·) then return (least, most, skipLazy (flags.skip rest)) else none
  | _ => none

def step? (reader : Reader) (s : List Char) : Option (Reader × List Char) :=
  let flags := reader.flags
  let assertion (a : Assertion) := reader.add (.assertion a (Escape.wordClass flags)) 0
  match s with
  | [] => none
  | '(' :: rest => reader.open? rest
  | ')' :: rest => reader.closeGroup?.map fun reader => (reader, rest)
  | '|' :: rest => some (reader.nextAlternative, rest)
  | '[' :: rest =>
    (Bracket.read? flags rest).map fun (part, rest) =>
      (reader.add (.chars part.cls) part.depth, rest)
  | '?' :: rest => (reader.repeatLast? 0 (some 1)).map fun reader => (reader, skipLazy rest)
  | '*' :: rest => (reader.repeatLast? 0 none).map fun reader => (reader, skipLazy rest)
  | '+' :: rest => (reader.repeatLast? 1 none).map fun reader => (reader, skipLazy rest)
  | '\x7b' :: rest =>
    (readCounts? flags rest).bind fun (least, most, rest) =>
      (reader.repeatLast? least most).map fun reader => (reader, rest)
  | '.' :: rest => (dotExpr? flags).map fun dot => (reader.add dot 0, rest)
  | '^' :: rest => some (assertion (startAssertion flags), rest)
  | '$' :: rest => some (assertion (endAssertion flags), rest)
  | '\\' :: rest =>
    (Escape.read? flags rest).map fun (escape, rest) =>
      match escape with
      | .char c => (reader.add (charExpr flags c) 0, rest)
      | .cls c => (reader.add (.chars c) 0, rest)
      | .assertion a => (assertion a, rest)
  | c :: rest => some (reader.add (charExpr flags c) 0, rest)

/-- Reads all items, of which there are at most `fuel`. -/
def run? : Nat → Reader → List Char → Option Reader
  | 0, _, _ => none
  | fuel + 1, reader, s =>
    match reader.flags.skip s with
    | [] => some reader
    | s => (reader.step? s).bind fun (reader, rest) => run? fuel reader rest

end Reader

def maxNesting : Nat := 250

/-- How much room a pattern may take, in bytes. -/
def maxSize : Nat := 0xA00000

/-- Reads a pattern, which ignores case unless it says otherwise. -/
def Expr.parse? (s : List Char) : Option Expr :=
  (Reader.run? (s.length + 1) { flags := { ignoreCase := true } } s).bind fun reader =>
    let whole := reader.inside
    if reader.outer.isEmpty && whole.depth ≤ maxNesting && whole.expr.size ≤ maxSize then
      some whole.expr
    else none

end RequestGuard.Pattern
