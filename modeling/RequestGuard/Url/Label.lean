import RequestGuard.Pattern.Property
import RequestGuard.Unicode.AsciiForm
import RequestGuard.Unicode.Compatibility
import RequestGuard.Unicode.Direction
import RequestGuard.Unicode.Folding
import RequestGuard.Unicode.Joining
import RequestGuard.Url.Punycode

/-!
# Labels of domain names

A label is what stands between two dots of a domain name. Its characters are first brought into one
form: letters of ASCII become lower case, their other shapes and the full-width forms become the
plain ones, the full stops of other scripts become dots, and some characters vanish. A label that
begins with `xn--` hides another one. A label holds no control characters, no blanks, and no
characters that are not assigned. A joiner stands only where a script needs it, and a label of a
name with a script from right to left has one direction.
-/

namespace RequestGuard.Url

open Unicode (Direction)

/-- The code points that vanish from a name, as first and last ones: hyphens and spaces without a
width, fillers and inherent vowels, invisible signs of mathematics and music, and selectors of
variants. -/
def vanishing : List (Nat × Nat) :=
  [(0xAD, 0xAD), (0x34F, 0x34F), (0x115F, 0x1160), (0x17B4, 0x17B5), (0x180B, 0x180F),
    (0x200B, 0x200B), (0x2060, 0x2064), (0x206A, 0x206F), (0x3164, 0x3164), (0xFE00, 0xFE0F),
    (0xFEFF, 0xFEFF), (0xFFA0, 0xFFA0), (0x1BCA0, 0x1BCA3), (0x1D173, 0x1D17A),
    (0xE0100, 0xE01EF)]

/-- Whether a character vanishes from a name. -/
def vanishes (c : Char) : Bool :=
  vanishing.any fun (first, last) => first ≤ c.toNat && c.toNat ≤ last

/-- Whether a character asks for another form of the letters around it. -/
def isJoiner (c : Char) : Bool := c == Unicode.nonJoiner || c == Unicode.joiner

/-- The characters outside ASCII that may not stand in a name. -/
def isBarred (c : Char) : Bool :=
  !Pattern.assigned.contains c || Pattern.separator.contains c || Unicode.control.contains c ||
    Unicode.format.contains c || Unicode.privateUse.contains c ||
    Unicode.separatorForm.contains c || c.toNat == 0xFFFC || c.toNat == 0xFFFD

/-- Characters outside ASCII that stand for a mark, alone or before a vowel. -/
def markForms : List (Nat × List Char) :=
  [(0xE33, ['\u0E4D', '\u0E32']), (0xEB3, ['\u0ECD', '\u0EB2']), (0xFF9E, ['\u3099']),
    (0xFF9F, ['\u309A'])]

/-- What a character of a name stands for. -/
def domainChars? (c : Char) : Option (List Char) :=
  let n := c.toNat
  if n < 0x80 then some [c.toLower]
  else if vanishes c then some []
  else if 0xFF01 ≤ n ∧ n ≤ 0xFF5E then some [(Char.ofNat (n - 0xFEE0)).toLower]
  else if n = 0x3002 ∨ n = 0xFF61 then some ['.']
  else if isJoiner c then some [c]
  else if isBarred c then none
  else some ((Unicode.asciiForm? c <|> markForms.lookup n).getD [c])

/-- Whether a joiner may stand between two texts, the first of which is given backwards: after a
virama, or, if it keeps letters from joining, between two letters that would join. -/
def fitsBetween (c : Char) (before after : List Char) : Bool :=
  before.head?.any Unicode.virama.contains ||
    (c == Unicode.nonJoiner &&
      (before.dropWhile Unicode.isTransparent).head?.any Unicode.joinsNext &&
      (after.dropWhile Unicode.isTransparent).head?.any Unicode.joinsPrevious)

/-- Whether all joiners of a text fit, after another text that is given backwards. -/
def joinersFit (before : List Char) : List Char → Bool
  | [] => true
  | c :: rest => (!isJoiner c || fitsBetween c before rest) && joinersFit (c :: before) rest

/-- Whether the directions of a label that begins with a letter from left to right fit: it ends
with such a letter or with a digit, up to its marks, and holds nothing from right to left. -/
def fitsLeftToRight (directions : List Direction) : Bool :=
  directions.all (fun d => d != .rightToLeft && d != .arabicNumber) &&
    (directions.reverse.dropWhile (· == .mark)).head?.any
      fun d => d == .leftToRight || d == .europeanNumber

/-- Whether the directions of a label that begins with a letter from right to left fit: it ends
with such a letter or with a digit, up to its marks, and holds no letter from left to right and not
both kinds of digits. -/
def fitsRightToLeft (directions : List Direction) : Bool :=
  !directions.contains .leftToRight &&
    !(directions.contains .europeanNumber && directions.contains .arabicNumber) &&
    (directions.reverse.dropWhile (· == .mark)).head?.any
      fun d => d == .rightToLeft || d == .europeanNumber || d == .arabicNumber

/-- Whether a label of a name with a script from right to left has one direction. -/
def hasOneDirection (label : List Char) : Bool :=
  match label.map Direction.of with
  | [] => true
  | .leftToRight :: rest => fitsLeftToRight (.leftToRight :: rest)
  | .rightToLeft :: rest => fitsRightToLeft (.rightToLeft :: rest)
  | _ => false

def isRightToLeft (label : List Char) : Bool :=
  (label.map Direction.of).any fun d => d == .rightToLeft || d == .arabicNumber

/-- Whether a character stands for itself. The final form of sigma does. -/
def standsForItself (c : Char) : Bool :=
  (Unicode.fold c == c || c == 'ς') && !Unicode.compatibilityForm.contains c

/-- Whether a label holds what may stand in a name, does not begin with a mark, and has its joiners
in place. -/
def isPlainLabel (label : List Char) : Bool :=
  label.all (fun c => domainChars? c == some [c]) && !label.head?.any Pattern.mark.contains &&
    joinersFit [] label

/-- What a label shows: itself, or the label that it hides. A label that hides another one must be
ASCII, and the other one must not be and holds no character that stands for another. -/
def shownLabel? (label : List Char) : Option (List Char) :=
  if "xn--".toList.isPrefixOf label then
    if label.all fun c => c.toNat < 0x80 then
      (Punycode.decode? (label.drop 4)).filter fun hidden =>
        isPlainLabel hidden && hidden.all standsForItself && hidden.any fun c => 0x80 ≤ c.toNat
    else none
  else if isPlainLabel label then some label
  else none

end RequestGuard.Url
