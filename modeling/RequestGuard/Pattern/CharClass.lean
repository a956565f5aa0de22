import RequestGuard.Unicode.CharSet
import RequestGuard.Unicode.Folding

/-!
# Classes of characters

What stands for one character in a pattern, as an expression over single characters, intervals and
sets. `folded` adds to a class everything that is equal to a member up to case.
-/

namespace RequestGuard.Pattern

open Unicode (CharSet)

inductive CharClass where
  | none
  | interval (first last : Nat)
  | set (s : CharSet)
  | union (a b : CharClass)
  | inter (a b : CharClass)
  | diff (a b : CharClass)
  | symmDiff (a b : CharClass)
  | compl (a : CharClass)
  | folded (a : CharClass)
  | foldedAscii (a : CharClass)
deriving DecidableEq, Repr

namespace CharClass

/-- The characters that equal an ASCII letter up to case within ASCII. -/
def asciiVariants (c : Char) : List Char := [c, c.toLower, c.toUpper]

def contains : CharClass → Char → Bool
  | .none, _ => false
  | .interval first last, c => first ≤ c.toNat && c.toNat ≤ last
  | .set s, c => s.contains c
  | .union a b, c => a.contains c || b.contains c
  | .inter a b, c => a.contains c && b.contains c
  | .diff a b, c => a.contains c && !b.contains c
  | .symmDiff a b, c => a.contains c != b.contains c
  | .compl a, c => !a.contains c
  | .folded a, c => (Unicode.caseVariants c).any a.contains
  | .foldedAscii a, c => (asciiVariants c).any a.contains

def single (c : Char) : CharClass := .interval c.toNat c.toNat

def ofIntervals (intervals : List (Nat × Nat)) : CharClass :=
  intervals.foldr (fun (first, last) rest => .union (.interval first last) rest) .none

def any : CharClass := .interval 0 0x10FFFF

def unions (classes : List CharClass) : CharClass := classes.foldr .union .none

/-- Whether the class may hold a character that is not ASCII. -/
def leavesAscii : CharClass → Bool
  | .none => false
  | .interval _ last => last ≥ 0x80
  | .set s => (s.boundaries.getLast?.map fun b => decide (b > 0x80)).getD false
  | .union a b | .symmDiff a b => a.leavesAscii || b.leavesAscii
  | .inter a b => a.leavesAscii && b.leavesAscii
  | .diff a _ => a.leavesAscii
  | .compl _ => true
  | .folded a => a.leavesAscii
  | .foldedAscii a => a.leavesAscii

/-- How many intervals the class has at most, not counting what folding adds. -/
def intervals : CharClass → Nat
  | .none => 0
  | .interval _ _ => 1
  | .set s => s.intervals
  | .union a b | .inter a b | .diff a b | .symmDiff a b => a.intervals + b.intervals
  | .compl a => a.intervals + 1
  | .folded a | .foldedAscii a => a.intervals

end CharClass

end RequestGuard.Pattern
