import RequestGuard.Text.Blank

/-!
# Flags of a pattern

How the rest of a group is read: `i` ignores case, `m` makes `^` and `$` hold at line ends, `s` lets
the dot stand for a line feed, `R` takes a carriage return for a line end too, `u` makes classes
range over all of Unicode, and `x` lets blanks and comments stand in the pattern. `U` only changes
which match is preferred, and whether there is one does not depend on it.
-/

namespace RequestGuard.Pattern

structure Flags where
  ignoreCase : Bool := false
  multiLine : Bool := false
  dotAll : Bool := false
  carriageReturn : Bool := false
  unicode : Bool := true
  spaced : Bool := false
deriving DecidableEq, Repr

namespace Flags

def set (flags : Flags) (letter : Char) (value : Bool) : Flags :=
  match letter with
  | 'i' => { flags with ignoreCase := value }
  | 'm' => { flags with multiLine := value }
  | 's' => { flags with dotAll := value }
  | 'R' => { flags with carriageReturn := value }
  | 'u' => { flags with unicode := value }
  | 'x' => { flags with spaced := value }
  | _ => flags

/-- Turns on the flags whose letters stand before a hyphen and turns off those after it. A letter
and the hyphen may each stand once, and the hyphen not at the end. -/
def change? (flags : Flags) (letters : List Char) : Option Flags :=
  if letters.all (fun c => "imsRUux-".toList.contains c) && decide letters.Nodup &&
      letters.getLast? != some '-' then
    let on := letters.takeWhile (· != '-')
    let off := letters.drop (on.length + 1)
    some (off.foldl (fun f c => f.set c false) (on.foldl (fun f c => f.set c true) flags))
  else none

def skipBlanks (inComment : Bool) : List Char → List Char
  | [] => []
  | c :: rest =>
    if inComment then skipBlanks (c != '\n') rest
    else if Text.isBlank c then skipBlanks false rest
    else if c = '#' then skipBlanks true rest
    else c :: rest

/-- Skips blanks and comments if the flags allow them. -/
def skip (flags : Flags) (s : List Char) : List Char :=
  if flags.spaced then skipBlanks false s else s

end Flags

end RequestGuard.Pattern
