import RequestGuard.Pattern.Expr
import RequestGuard.Pattern.Flags
import RequestGuard.Text.Digits
import RequestGuard.Text.Split

/-!
# Escapes of a pattern

What a backslash and the characters after it stand for: a character, a class or an assertion; and
the pattern for a text, in which a backslash stands before each character with a meaning of its own.
-/

namespace RequestGuard.Pattern

/-- What an escape stands for. -/
inductive Escape where
  | char (c : Char)
  | cls (c : CharClass)
  | assertion (a : Assertion)

namespace Escape

def charOfPoint? (n : Nat) : Option Char := if n.isValidChar then some (Char.ofNat n) else none

/-- Reads hexadecimal digits in braces, after the opening one. -/
def readBracedHex? (flags : Flags) (s : List Char) : Option (Char × List Char) := do
  let inside := s.takeWhile (· != '\x7d')
  let digits := if flags.spaced then inside.filter fun c => !Text.isBlank c else inside
  if digits.isEmpty || !digits.all Text.isHexDigit then none
  let c ← charOfPoint? (Text.ofHexDigits digits)
  match s.drop inside.length with
  | _ :: rest => return (c, flags.skip rest)
  | [] => none

def readHexDigits? (flags : Flags) : Nat → Nat → List Char → Option (Nat × List Char)
  | 0, n, s => some (n, s)
  | count + 1, n, s =>
    match s with
    | [] => none
    | c :: rest =>
      (Text.hexValue? c).bind fun digit =>
        readHexDigits? flags count (n * 16 + digit) (flags.skip rest)

/-- Reads a character given by its code point, after the letter that says with how many digits. -/
def readHex? (flags : Flags) (count : Nat) (s : List Char) : Option (Char × List Char) :=
  match flags.skip s with
  | '\x7b' :: rest => readBracedHex? flags rest
  | s => do
    let (n, rest) ← readHexDigits? flags count 0 s
    let c ← charOfPoint? n
    -- Two digits give a byte where classes do not range over Unicode.
    if count = 2 ∧ n ≥ 0x80 ∧ !flags.unicode then none else return (c, rest)

/-- The two parts of a text around the first occurrence of `!=`. -/
def splitUnequal? : List Char → Option (List Char × List Char)
  | '!' :: '=' :: rest => some ([], rest)
  | c :: rest => (splitUnequal? rest).map fun (name, value) => (c :: name, value)
  | [] => none

def bracedProperty? (inside : List Char) : Option CharClass :=
  match splitUnequal? inside with
  | some (name, value) =>
    (propertyValue? (String.ofList name) (String.ofList value)).map .compl
  | none =>
    match Text.splitOnce? ':' inside <|> Text.splitOnce? '=' inside with
    | some (name, value) => propertyValue? (String.ofList name) (String.ofList value)
    | none => property? (String.ofList inside)

def foldClass (flags : Flags) (c : CharClass) : CharClass :=
  if !flags.ignoreCase then c else if flags.unicode then .folded c else .foldedAscii c

def readProperty? (flags : Flags) (negated : Bool) (s : List Char) :
    Option (CharClass × List Char) := do
  if !flags.unicode then none
  let (c, rest) ←
    match flags.skip s with
    | '\x7b' :: rest => do
      let inside := rest.takeWhile (· != '\x7d')
      let name := if flags.spaced then inside.filter fun c => !Text.isBlank c else inside
      let c ← bracedProperty? name
      match rest.drop inside.length with
      | _ :: rest => some (c, rest)
      | [] => none
    | '\\' :: _ => none
    | letter :: rest => (property? (String.singleton letter)).map fun c => (c, flags.skip rest)
    | [] => none
  let c := foldClass flags c
  return (if negated then .compl c else c, rest)

def letterClass? (flags : Flags) (negated : Bool) (ascii : String) (full : CharClass) :
    Option CharClass :=
  if flags.unicode then some (if negated then .compl full else full)
  else if negated then none
  else asciiClass? ascii

def wordClass (flags : Flags) : CharClass :=
  if flags.unicode then word else (asciiClass? "word").getD .none

/-- Reads the name of a word assertion in braces, after the opening one. None is read if the braces
begin like those of a repetition. -/
def readWordAssertion? (flags : Flags) (s : List Char) : Option (Option Assertion × List Char) :=
  let isNameChar : Char → Bool := fun c => c.isAlpha || c == '-'
  match flags.skip s with
  | [] => none
  | c :: more =>
    if !isNameChar c then some (none, '\x7b' :: s)
    else
      let inside := (c :: more).takeWhile (· != '\x7d')
      let name := if flags.spaced then inside.filter fun c => !Text.isBlank c else inside
      match (c :: more).drop inside.length with
      | [] => none
      | _ :: rest =>
        match String.ofList name with
        | "start" => some (some .wordStart, rest)
        | "end" => some (some .wordEnd, rest)
        | "start-half" => some (some .wordStartHalf, rest)
        | "end-half" => some (some .wordEndHalf, rest)
        | _ => none

def read? (flags : Flags) : List Char → Option (Escape × List Char)
  | [] => none
  | c :: rest =>
    let classOf (negated : Bool) (ascii : String) (full : CharClass) :=
      (letterClass? flags negated ascii full).map fun c => (Escape.cls c, rest)
    match c with
    | 'x' => (readHex? flags 2 rest).map fun (c, rest) => (.char c, rest)
    | 'u' => (readHex? flags 4 rest).map fun (c, rest) => (.char c, rest)
    | 'U' => (readHex? flags 8 rest).map fun (c, rest) => (.char c, rest)
    | 'p' => (readProperty? flags false rest).map fun (c, rest) => (.cls c, rest)
    | 'P' => (readProperty? flags true rest).map fun (c, rest) => (.cls c, rest)
    | 'd' => classOf false "digit" (.set Unicode.decimalDigit)
    | 'D' => classOf true "digit" (.set Unicode.decimalDigit)
    | 's' => classOf false "space" blank
    | 'S' => classOf true "space" blank
    | 'w' => classOf false "word" word
    | 'W' => classOf true "word" word
    | 'a' => some (.char '\x07', rest)
    | 'f' => some (.char '\x0c', rest)
    | 't' => some (.char '\t', rest)
    | 'n' => some (.char '\n', rest)
    | 'r' => some (.char '\r', rest)
    | 'v' => some (.char '\x0b', rest)
    | 'A' => some (.assertion .textStart, rest)
    | 'z' => some (.assertion .textEnd, rest)
    | 'B' => some (.assertion .noWordBoundary, rest)
    | '<' => some (.assertion .wordStart, rest)
    | '>' => some (.assertion .wordEnd, rest)
    | 'b' =>
      match rest with
      | '\x7b' :: inside =>
        (readWordAssertion? flags inside).map fun (a, rest) =>
          (.assertion (a.getD .wordBoundary), rest)
      | rest => some (.assertion .wordBoundary, rest)
    | c => if c.toNat < 0x80 && !c.isAlphanum then some (.char c, rest) else none

end Escape

/-- The characters that have a meaning of their own in a pattern. -/
def specialChars : List Char :=
  ['\\', '.', '+', '*', '?', '(', ')', '|', '[', ']', '\x7b', '\x7d', '^', '$', '#', '&', '-', '~']

/-- A character in a pattern that stands for itself. -/
def escapeChar (c : Char) : List Char := if c ∈ specialChars then ['\\', c] else [c]

/-- The pattern for a text. -/
def escape (text : List Char) : List Char := text.flatMap escapeChar

end RequestGuard.Pattern
