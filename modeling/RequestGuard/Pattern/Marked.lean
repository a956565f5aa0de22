import RequestGuard.Pattern.Parser

/-!
# Searching for a pattern

A marked expression has a mark at every character class that may just have matched a character.
Reading a character moves the marks: a class is marked if one could come to it from the beginning
of the pattern or from a class marked before, and the character is in it. The pattern has matched as
soon as one can come from a marked class to the end. No text is read twice.
-/

namespace RequestGuard.Pattern

/-- An expression with marks, in which repetitions are written out. -/
inductive Marked where
  | empty
  | assertion (a : Assertion) (word : CharClass)
  | chars (c : CharClass) (marked : Bool)
  | concat (a b : Marked)
  | either (a b : Marked)
  | star (a : Marked)

/-- The characters around a place. -/
structure Place where
  before : Option Char
  after : Option Char

namespace Marked

/-- Whether nothing needs to be read at a place. -/
def isNullable (place : Place) : Marked → Bool
  | .empty => true
  | .assertion a word => a.holds word place.before place.after
  | .chars _ _ => false
  | .concat a b => a.isNullable place && b.isNullable place
  | .either a b => a.isNullable place || b.isNullable place
  | .star _ => true

/-- Whether one can come from a mark to the end without reading. -/
def isFinal (place : Place) : Marked → Bool
  | .empty | .assertion _ _ => false
  | .chars _ marked => marked
  | .concat a b => b.isFinal place || (a.isFinal place && b.isNullable place)
  | .either a b => a.isFinal place || b.isFinal place
  | .star a => a.isFinal place

/-- Moves the marks over the character `c` at a place; `enter` says whether one may begin there. -/
def read (place : Place) (c : Char) (enter : Bool) : Marked → Marked
  | .empty => .empty
  | .assertion a word => .assertion a word
  | .chars cls _ => .chars cls (enter && cls.contains c)
  | .concat a b =>
    .concat (a.read place c enter)
      (b.read place c (a.isFinal place || (enter && a.isNullable place)))
  | .either a b => .either (a.read place c enter) (b.read place c enter)
  | .star a => .star (a.read place c (enter || a.isFinal place))

def copies (a : Marked) (n : Nat) : Marked :=
  if n = 0 then .empty
  else if n = 1 then a
  else .concat (copies a (n / 2)) (copies a (n - n / 2))

/-- An expression without marks. -/
def ofExpr : Expr → Marked
  | .empty => .empty
  | .assertion a word => .assertion a word
  | .chars c => .chars c false
  | .concat a b => .concat (ofExpr a) (ofExpr b)
  | .either a b => .either (ofExpr a) (ofExpr b)
  | .repeated a least most =>
    let part := ofExpr a
    if a.isEmptyOnly then
      if least = 0 then .empty else part
    else
      match most with
      | none => .concat (copies part least) (.star part)
      | some most => .concat (copies part least) (copies (.either .empty part) (most - least))

/-- Whether the expression matches somewhere in a text, given the character before the text. -/
def searchFrom (marked : Marked) (before : Option Char) (text : List Char) : Bool :=
  let place : Place := { before, after := text.head? }
  if marked.isFinal place || marked.isNullable place then true
  else
    match text with
    | [] => false
    | c :: rest => searchFrom (marked.read place c true) (some c) rest

end Marked

/-- A pattern that is ready to be searched for. -/
structure Compiled where
  marked : Marked

namespace Compiled

def ofText? (s : String) : Option Compiled :=
  (Expr.parse? s.toList).map fun expr => { marked := .ofExpr expr }

def isMatch (pattern : Compiled) (text : String) : Bool :=
  pattern.marked.searchFrom none text.toList

end Compiled

end RequestGuard.Pattern
