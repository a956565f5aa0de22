import RequestGuard.Net.Address
import RequestGuard.Text.Utf8
import RequestGuard.Unicode.DecimalDigit

/-!
# Path segments

A segment that looks like a value rather than a name belongs to a class: a number, an identifier, a
date, an address of either sort, a hash or a random token. `SegmentClass.holds` says what each class
is. `SegmentClass.admits` is a test on the first character, the length or a single character that
is made first; a segment is put into a class only if it passes both.
-/

namespace RequestGuard.Route

/-- The classes of segments in the order in which they are tried. -/
inductive SegmentClass where
  | number
  | uuid
  | date
  | email
  | ip
  | hash
  | secret
deriving DecidableEq, Repr

namespace SegmentClass

def all : List SegmentClass := [.number, .uuid, .date, .email, .ip, .hash, .secret]

def placeholder : SegmentClass → List Char
  | .number => ":number".toList
  | .uuid => ":uuid".toList
  | .date => ":date".toList
  | .email => ":email".toList
  | .ip => ":ip".toList
  | .hash => ":hash".toList
  | .secret => ":secret".toList

def isDecimal (c : Char) : Bool := Unicode.decimalDigit.contains c

/-- Whether a segment has one character for each test, and each satisfies its test. -/
def fits : List (Char → Bool) → List Char → Bool
  | [], [] => true
  | test :: tests, c :: rest => test c && fits tests rest
  | _, _ => false

/-- A number of repetitions of a test. -/
def times (n : Nat) (test : Char → Bool) : List (Char → Bool) := List.replicate n test

def hyphen : List (Char → Bool) := [(· == '-')]

def isNumber (s : List Char) : Bool := !s.isEmpty && s.all isDecimal

/-- Five groups of hexadecimal digits with a version and a variant, or all zeros. -/
def isUuid (s : List Char) : Bool :=
  let hex := Text.isHexDigit
  let version : Char → Bool := fun c => '1' ≤ c && c ≤ '8'
  let variant : Char → Bool := fun c => ['8', '9', 'a', 'b', 'A', 'B'].contains c
  let zero : Char → Bool := (· == '0')
  fits (times 8 hex ++ hyphen ++ times 4 hex ++ hyphen ++ version :: times 3 hex ++ hyphen ++
      variant :: times 3 hex ++ hyphen ++ times 12 hex) s ||
    fits (times 8 zero ++ hyphen ++ times 4 zero ++ hyphen ++ times 4 zero ++ hyphen ++
      times 4 zero ++ hyphen ++ times 12 zero) s

/-- A year, a month and a day, or the other way round, with hyphens. -/
def isDate (s : List Char) : Bool :=
  let two := times 2 isDecimal
  let four := times 4 isDecimal
  fits (four ++ hyphen ++ two ++ hyphen ++ two) s ||
    fits (two ++ hyphen ++ two ++ hyphen ++ four) s

/-- A character of either side of an electronic mail address. -/
def isMailChar (c : Char) : Bool := !(Text.isBlank c || c == '@' || c == '/')

/-- A name, an `@`, and a domain with a dot inside. -/
def isEmail (s : List Char) : Bool :=
  match Text.splitOnce? '@' s with
  | some (name, domain) =>
    !name.isEmpty && name.all isMailChar && domain.all isMailChar &&
      ((domain.drop 1).dropLast).contains '.'
  | none => false

/-- An address of either family. -/
def isIp (s : List Char) : Bool := (Net.IpAddress.ofChars? s).isSome

/-- The hexadecimal text of a digest of 128, 160, 256 or 512 bits. -/
def isHash (s : List Char) : Bool :=
  [32, 40, 64, 128].contains s.length && s.all Text.isHexDigit

/-- The length of the windows over which a token is judged, and the length it must exceed. -/
def windowLength : Nat := 10

/-- The special characters that count as a kind of their own. -/
def isTokenSymbol (c : Char) : Bool :=
  ['!', '#', '$', '%', '^', '&', '*', '|', ';', ':', '<', '>'].contains c

/-- The stretches of a given length, one from each place where it fits. -/
def windows (length : Nat) : List Char → List (List Char)
  | [] => []
  | c :: rest =>
    let window := (c :: rest).take length
    if window.length = length then window :: windows length rest else []

def distinct (s : List Char) : Nat := s.eraseDups.length

/-- The share of different characters in a window, averaged over all windows. -/
def averageVariety (s : List Char) : Float :=
  let shares := (windows windowLength s).map fun window =>
    (distinct window).toFloat / windowLength.toFloat
  shares.foldl (· + ·) 0.0 / shares.length.toFloat

/-- A long text with a digit and at least two kinds of other characters, without blanks and hyphens,
in which most characters of a window differ. -/
def isSecret (s : List Char) : Bool :=
  let kinds := [s.any Char.isLower, s.any Char.isUpper, s.any isTokenSymbol]
  windowLength < s.length && s.any Char.isDigit && 2 ≤ kinds.count true &&
    !(s.any Text.isBlank || s.contains '-') && averageVariety s > 0.75

def holds : SegmentClass → List Char → Bool
  | .number, s => isNumber s
  | .uuid, s => isUuid s
  | .date, s => isDate s
  | .email, s => isEmail s
  | .ip, s => isIp s
  | .hash, s => isHash s
  | .secret, s => isSecret s

/-- The test that is made before the pattern: a number and a date begin with an ASCII digit, an
identifier has 36 bytes, and a mail address has an `@`. -/
def admits : SegmentClass → List Char → Bool
  | .number, s | .date, s => (s.head?.map Char.isDigit).getD false
  | .uuid, s => (Utf8.encode s).length == 36
  | .email, s => s.contains '@'
  | .ip, _ | .hash, _ | .secret, _ => true

def of? (s : List Char) : Option SegmentClass := all.find? fun k => k.admits s && k.holds s

def ofPattern? (s : List Char) : Option SegmentClass := all.find? fun k => k.holds s

end SegmentClass

/-- What stands in a route for a segment: its class, or the segment itself. -/
def generalize (s : List Char) : List Char :=
  if s.isEmpty then []
  else
    match SegmentClass.of? s with
    | some k => k.placeholder
    | none => s

end RequestGuard.Route
