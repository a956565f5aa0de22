import RequestGuard.Pattern.CharClass
import RequestGuard.Pattern.Property

/-!
# Pattern expressions

An expression says which texts match. An assertion matches nothing, in a place that the characters
around it allow. `Expr.size` estimates how much room an expression takes once its repetitions are
written out; patterns that take too much are refused.
-/

namespace RequestGuard.Pattern

/-- What an assertion asks of the characters around a place. -/
inductive Assertion where
  | textStart
  | textEnd
  | lineStart
  | lineEnd
  | lineStartCrLf
  | lineEndCrLf
  | wordBoundary
  | noWordBoundary
  | wordStart
  | wordEnd
  | wordStartHalf
  | wordEndHalf
deriving DecidableEq, Repr

/-- A pattern. The class of an assertion is that of the word characters. -/
inductive Expr where
  | empty
  | assertion (a : Assertion) (word : CharClass)
  | chars (c : CharClass)
  | concat (a b : Expr)
  | either (a b : Expr)
  | repeated (a : Expr) (least : Nat) (most : Option Nat)
deriving Repr

namespace Assertion

/-- Whether the assertion holds between two characters, either of which may be missing. -/
def holds (word : CharClass) (before after : Option Char) : Assertion → Bool
  | .textStart => before.isNone
  | .textEnd => after.isNone
  | .lineStart => before.isNone || before == some '\n'
  | .lineEnd => after.isNone || after == some '\n'
  | .lineStartCrLf =>
    before.isNone || before == some '\n' || (before == some '\r' && after != some '\n')
  | .lineEndCrLf =>
    after.isNone || after == some '\r' || (after == some '\n' && before != some '\r')
  | .wordBoundary => before.any word.contains != after.any word.contains
  | .noWordBoundary => before.any word.contains == after.any word.contains
  | .wordStart => !before.any word.contains && after.any word.contains
  | .wordEnd => before.any word.contains && !after.any word.contains
  | .wordStartHalf => !before.any word.contains
  | .wordEndHalf => !after.any word.contains

end Assertion

namespace Expr

def sequence : List Expr → Expr
  | [] => .empty
  | [a] => a
  | a :: rest => .concat a (sequence rest)

def oneOf : List Expr → Expr
  | [] => .chars .none
  | [a] => a
  | a :: rest => .either a (oneOf rest)

/-- Whether the expression matches nothing but the empty text. -/
def isEmptyOnly : Expr → Bool
  | .empty | .assertion _ _ => true
  | .chars _ => false
  | .concat a b | .either a b => a.isEmptyOnly && b.isEmptyOnly
  | .repeated a _ most => a.isEmptyOnly || most == some 0

/-- The room that a class takes, in bytes. -/
def classSize (c : CharClass) : Nat :=
  match c with
  | .interval first last =>
    if first = last ∧ first < 0x110000 then 32 * (Char.ofNat first).utf8Size else 128
  | other =>
    if other.leavesAscii then 64 + 64 * other.intervals else 64 + 8 * other.intervals

/-- The room that an expression takes, in bytes. -/
def size : Expr → Nat
  | .empty => 0
  | .assertion _ _ => 32
  | .chars c => classSize c
  | .concat a b => a.size + b.size
  | .either a b => a.size + b.size + 32
  | .repeated a least most =>
    if a.isEmptyOnly then a.size + 32
    else
      let copies := max (most.getD least) 1
      (a.size + 32) * copies

end Expr

end RequestGuard.Pattern
