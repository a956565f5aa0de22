import RequestGuard.Pattern.CharClass
import RequestGuard.Text.Blank
import RequestGuard.Unicode.DecimalDigit
import RequestGuard.Unicode.Letter
import RequestGuard.Unicode.Mark
import RequestGuard.Unicode.Property
import RequestGuard.Unicode.Script
import RequestGuard.Unicode.Symbol

/-!
# Named classes of characters

The classes that a pattern names: by a letter (`\d`), by a name in brackets (`[:alpha:]`), or by a
property of Unicode (`\p` with a category, a script or a binary property). Names of properties are
compared without regard to case, blanks, hyphens and underscores, and may begin with `is`.
-/

namespace RequestGuard.Pattern

open CharClass (ofIntervals unions)

def asciiClass? : String → Option CharClass
  | "alnum" => some (ofIntervals [(48, 57), (65, 90), (97, 122)])
  | "alpha" => some (ofIntervals [(65, 90), (97, 122)])
  | "ascii" => some (ofIntervals [(0, 127)])
  | "blank" => some (ofIntervals [(9, 9), (32, 32)])
  | "cntrl" => some (ofIntervals [(0, 31), (127, 127)])
  | "digit" => some (ofIntervals [(48, 57)])
  | "graph" => some (ofIntervals [(33, 126)])
  | "lower" => some (ofIntervals [(97, 122)])
  | "print" => some (ofIntervals [(32, 126)])
  | "punct" => some (ofIntervals [(33, 47), (58, 64), (91, 96), (123, 126)])
  | "space" => some (ofIntervals [(9, 13), (32, 32)])
  | "upper" => some (ofIntervals [(65, 90)])
  | "word" => some (ofIntervals [(48, 57), (65, 90), (95, 95), (97, 122)])
  | "xdigit" => some (ofIntervals [(48, 57), (65, 70), (97, 102)])
  | _ => none

def letter : CharClass :=
  unions [.set Unicode.upperLetter, .set Unicode.lowerLetter, .set Unicode.titleLetter,
    .set Unicode.modifierLetter, .set Unicode.otherLetter]

def mark : CharClass :=
  unions [.set Unicode.nonspacingMark, .set Unicode.spacingMark, .set Unicode.enclosingMark]

def number : CharClass :=
  unions [.set Unicode.decimalDigit, .set Unicode.letterNumber, .set Unicode.otherNumber]

def punctuation : CharClass :=
  unions [.set Unicode.connectorPunctuation, .set Unicode.dashPunctuation,
    .set Unicode.openPunctuation, .set Unicode.closePunctuation, .set Unicode.initialPunctuation,
    .set Unicode.finalPunctuation, .set Unicode.otherPunctuation]

def symbol : CharClass :=
  unions [.set Unicode.mathSymbol, .set Unicode.currencySymbol, .set Unicode.modifierSymbol,
    .set Unicode.otherSymbol]

def separator : CharClass :=
  unions [.set Unicode.spaceSeparator, .set Unicode.lineSeparator, .set Unicode.paragraphSeparator]

/-- Characters of every category but that of unassigned code points. -/
def assigned : CharClass :=
  unions [letter, mark, number, punctuation, symbol, separator, .set Unicode.control,
    .set Unicode.format, .set Unicode.privateUse]

/-- The general category with a short or a long name. -/
def category? : String → Option CharClass
  | "any" => some .any
  | "assigned" => some assigned
  | "ascii" => some (ofIntervals [(0, 127)])
  | "l" | "letter" => some letter
  | "lc" | "casedletter" =>
    some (unions [.set Unicode.upperLetter, .set Unicode.lowerLetter, .set Unicode.titleLetter])
  | "lu" | "uppercaseletter" => some (.set Unicode.upperLetter)
  | "ll" | "lowercaseletter" => some (.set Unicode.lowerLetter)
  | "lt" | "titlecaseletter" => some (.set Unicode.titleLetter)
  | "lm" | "modifierletter" => some (.set Unicode.modifierLetter)
  | "lo" | "otherletter" => some (.set Unicode.otherLetter)
  | "m" | "mark" | "combiningmark" => some mark
  | "mn" | "nonspacingmark" => some (.set Unicode.nonspacingMark)
  | "mc" | "spacingmark" => some (.set Unicode.spacingMark)
  | "me" | "enclosingmark" => some (.set Unicode.enclosingMark)
  | "n" | "number" => some number
  | "nd" | "decimalnumber" | "digit" => some (.set Unicode.decimalDigit)
  | "nl" | "letternumber" => some (.set Unicode.letterNumber)
  | "no" | "othernumber" => some (.set Unicode.otherNumber)
  | "p" | "punctuation" | "punct" => some punctuation
  | "pc" | "connectorpunctuation" => some (.set Unicode.connectorPunctuation)
  | "pd" | "dashpunctuation" => some (.set Unicode.dashPunctuation)
  | "ps" | "openpunctuation" => some (.set Unicode.openPunctuation)
  | "pe" | "closepunctuation" => some (.set Unicode.closePunctuation)
  | "pi" | "initialpunctuation" => some (.set Unicode.initialPunctuation)
  | "pf" | "finalpunctuation" => some (.set Unicode.finalPunctuation)
  | "po" | "otherpunctuation" => some (.set Unicode.otherPunctuation)
  | "s" | "symbol" => some symbol
  | "sm" | "mathsymbol" => some (.set Unicode.mathSymbol)
  | "sc" | "currencysymbol" => some (.set Unicode.currencySymbol)
  | "sk" | "modifiersymbol" => some (.set Unicode.modifierSymbol)
  | "so" | "othersymbol" => some (.set Unicode.otherSymbol)
  | "z" | "separator" => some separator
  | "zs" | "spaceseparator" => some (.set Unicode.spaceSeparator)
  | "zl" | "lineseparator" => some (.set Unicode.lineSeparator)
  | "zp" | "paragraphseparator" => some (.set Unicode.paragraphSeparator)
  | "c" | "other" =>
    some (.compl (unions [letter, mark, number, punctuation, symbol, separator]))
  | "cc" | "control" | "cntrl" => some (.set Unicode.control)
  | "cf" | "format" => some (.set Unicode.format)
  | "cn" | "unassigned" => some (.compl assigned)
  | "co" | "privateuse" => some (.set Unicode.privateUse)
  | "cs" | "surrogate" => some .none
  | _ => none

/-- The name of a script for its code of four letters, for the scripts in wide use. -/
def scriptCodes : List (String × String) :=
  [("arab", "arabic"), ("armn", "armenian"), ("beng", "bengali"), ("bopo", "bopomofo"),
    ("brai", "braille"), ("cans", "canadianaboriginal"), ("cher", "cherokee"), ("copt", "coptic"),
    ("qaac", "coptic"), ("cyrl", "cyrillic"), ("deva", "devanagari"),
    ("egyp", "egyptianhieroglyphs"),
    ("ethi", "ethiopic"), ("geor", "georgian"), ("glag", "glagolitic"), ("goth", "gothic"),
    ("grek", "greek"), ("gujr", "gujarati"), ("guru", "gurmukhi"), ("hang", "hangul"),
    ("hani", "han"), ("hebr", "hebrew"), ("hira", "hiragana"), ("ital", "olditalic"),
    ("java", "javanese"), ("kana", "katakana"), ("khmr", "khmer"), ("knda", "kannada"),
    ("laoo", "lao"), ("latn", "latin"), ("mlym", "malayalam"), ("mong", "mongolian"),
    ("mymr", "myanmar"), ("nkoo", "nko"), ("ogam", "ogham"), ("orya", "oriya"), ("runr", "runic"),
    ("sinh", "sinhala"), ("syrc", "syriac"), ("taml", "tamil"), ("telu", "telugu"),
    ("tfng", "tifinagh"), ("tglg", "tagalog"), ("thaa", "thaana"), ("tibt", "tibetan"),
    ("yiii", "yi"), ("zinh", "inherited"), ("qaai", "inherited"), ("zyyy", "common")]

def script? (name : String) : Option CharClass :=
  let full := (scriptCodes.lookup name).getD name
  (Unicode.scripts.lookup full).map .set

def alphabetic : CharClass :=
  unions [letter, .set Unicode.letterNumber, .set Unicode.otherAlphabetic]

def uppercase : CharClass := .union (.set Unicode.upperLetter) (.set Unicode.otherUppercase)

def lowercase : CharClass := .union (.set Unicode.lowerLetter) (.set Unicode.otherLowercase)

def blank : CharClass :=
  ofIntervals [(9, 13), (0x20, 0x20), (0x85, 0x85), (0xA0, 0xA0), (0x1680, 0x1680),
    (0x2000, 0x200A), (0x2028, 0x2029), (0x202F, 0x202F), (0x205F, 0x205F), (0x3000, 0x3000)]

def identifierStart : CharClass :=
  unions [letter, .set Unicode.letterNumber,
    ofIntervals [(0x1885, 0x1886), (0x2118, 0x2118), (0x212E, 0x212E), (0x309B, 0x309C)]]

def identifierPart : CharClass :=
  unions [identifierStart, .set Unicode.nonspacingMark, .set Unicode.spacingMark,
    .set Unicode.decimalDigit, .set Unicode.connectorPunctuation,
    ofIntervals [(0xB7, 0xB7), (0x387, 0x387), (0x1369, 0x1371), (0x19DA, 0x19DA),
      (0x200C, 0x200D), (0x30FB, 0x30FB), (0xFF65, 0xFF65)]]

def binaryProperty? : String → Option CharClass
  | "alphabetic" | "alpha" => some alphabetic
  | "uppercase" | "upper" => some uppercase
  | "lowercase" | "lower" => some lowercase
  | "cased" => some (unions [uppercase, lowercase, .set Unicode.titleLetter])
  | "whitespace" | "space" | "wspace" => some blank
  | "hexdigit" | "hex" => some (.set Unicode.hexDigit)
  | "asciihexdigit" | "ahex" => asciiClass? "xdigit"
  | "dash" => some (.set Unicode.dash)
  | "ideographic" | "ideo" => some (.set Unicode.ideographic)
  | "joincontrol" | "joinc" => some (ofIntervals [(0x200C, 0x200D)])
  | "emoji" => some (.set Unicode.emoji)
  | "emojipresentation" | "epres" => some (.set Unicode.emojiPresentation)
  | "extendedpictographic" | "extpict" => some (.set Unicode.extendedPictographic)
  | "idstart" | "ids" | "xidstart" | "xids" => some identifierStart
  | "idcontinue" | "idc" | "xidcontinue" | "xidc" => some identifierPart
  | _ => none

/-- Word characters: what `\w` stands for. -/
def word : CharClass :=
  unions [alphabetic, mark, .set Unicode.decimalDigit, .set Unicode.connectorPunctuation,
    ofIntervals [(0x200C, 0x200D)]]

/-- A name in the form in which names are compared. -/
def normalizeName (name : String) : String :=
  let kept := name.toList.filter fun c =>
    c.toNat < 0x80 && !(c == ' ' || c == '_' || c == '-')
  let lower := kept.map Char.toLower
  match (name.toList.take 2).map Char.toLower, lower with
  | ['i', 's'], 'i' :: 's' :: rest => String.ofList (if rest = ['c'] then lower else rest)
  | _, _ => String.ofList lower

/-- The class that `\p` with a single name stands for. -/
def property? (name : String) : Option CharClass :=
  let key := normalizeName name
  let binary :=
    if ["cf", "sc", "lc"].contains key then none else binaryProperty? key
  binary <|> category? key <|> script? key

/-- The class that `\p` with a name and a value stands for. -/
def propertyValue? (name value : String) : Option CharClass :=
  let key := normalizeName value
  match normalizeName name with
  | "gc" | "generalcategory" => category? key
  | "sc" | "script" | "scx" | "scriptextensions" => script? key
  | _ => none

end RequestGuard.Pattern
