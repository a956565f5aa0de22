import RequestGuard.Pattern.Parser
import RequestGuard.Text.Blank
import RequestGuard.Text.Digits
import RequestGuard.Text.Split
import RequestGuard.Text.Utf8

/-!
# Log filters

A filter is a list of directives between commas. A directive names a level, or a target, or a span
in brackets with or without a target before it, and what is named may be followed by an equals sign
and a level. A span may have a field in braces, with or without a value.

Blanks around a directive count only if they come before a field or beside a level. Places in a
directive are counted without the blanks before it and looked up with them.
-/

namespace RequestGuard.Settings.LogFilter

def withoutPlus : List Char → List Char
  | '+' :: rest => rest
  | s => s

/-- Whether a text is a level: a word in any case or a number. -/
def isLevel (s : List Char) : Bool :=
  ["off", "error", "warn", "info", "debug", "trace"].contains (String.ofList s).toLower ||
    (Text.readDigits? (withoutPlus s)).any fun n => n ≤ 5

/-- Whether the text after an equals sign, at the end of a directive, is a level or nothing. -/
def isLevelOf (directive level : List Char) : Bool :=
  Text.trimChars directive == directive && (level.isEmpty || isLevel level)

/-- Whether a text is an exponent or nothing. -/
def isExponent : List Char → Bool
  | [] => true
  | mark :: rest =>
    let digits :=
      match rest with
      | '-' :: digits => digits
      | rest => withoutPlus rest
    (mark == 'e' || mark == 'E') && !digits.isEmpty && digits.all Char.isDigit

/-- Whether a text is a number without a sign, which may have a point and an exponent. -/
def isNumber (s : List Char) : Bool :=
  let whole := s.takeWhile Char.isDigit
  let (fraction, rest) :=
    match s.drop whole.length with
    | '.' :: rest => rest.span Char.isDigit
    | rest => ([], rest)
  ["inf", "infinity", "nan"].contains (String.ofList s).toLower ||
    (!(whole ++ fraction).isEmpty && isExponent rest)

/-- Whether a pattern asks where words of any script begin or end. -/
def hasWordBoundary : Pattern.Expr → Bool
  | .empty | .chars _ => false
  | .assertion a word =>
    let linewise : List Pattern.Assertion :=
      [.textStart, .textEnd, .lineStart, .lineEnd, .lineStartCrLf, .lineEndCrLf]
    word.leavesAscii && !linewise.contains a
  | .concat a b | .either a b => hasWordBoundary a || hasWordBoundary b
  | .repeated a _ most => most != some 0 && hasWordBoundary a

/-- Whether a text is a pattern without such places. -/
def isPattern (s : List Char) : Bool :=
  (Pattern.Reader.run? (s.length + 1) { flags := {} } s).any fun reader =>
    reader.outer.isEmpty && reader.inside.depth ≤ Pattern.maxNesting &&
      !hasWordBoundary reader.inside.expr

/-- Whether a text is the value of a field. A number without a plus sign is a pattern as well. -/
def isValue (s : List Char) : Bool :=
  (s.head? == some '+' && isNumber (withoutPlus s)) || isPattern s

/-- Whether a text is a field: a name, and a value after an equals sign if there is one. -/
def isField (s : List Char) : Bool :=
  match Text.splitOn '=' s with
  | _ :: value :: _ => isValue value
  | _ => !s.isEmpty

/-- The text of a field of a directive, which is as long as `field` and stands in the directive
where `rest` stands in the directive without blanks around it. -/
def fieldText? (directive rest field : List Char) : Option (List Char) :=
  let before := (Utf8.encode (Text.trimChars directive)).length - (Utf8.encode rest).length
  Utf8.decode? (((Utf8.encode directive).drop before).take (Utf8.encode field).length)

/-- Whether a text is the end of a directive after a span. -/
def isAfterSpan (directive : List Char) : List Char → Bool
  | [] => true
  | '=' :: level => isLevelOf directive level
  | _ => false

/-- Whether a text is the rest of a directive after the bracket of a span. -/
def isSpan (directive s : List Char) : Bool :=
  let name := Text.takeUntil (fun c => c == ']' || c == '\x7b') s
  match s.drop name.length with
  | ']' :: rest => isAfterSpan directive rest
  | '\x7b' :: rest =>
    let field := rest.takeWhile (· != '\x7d')
    match rest.drop field.length with
    | '\x7d' :: ']' :: after =>
      (fieldText? directive rest field).any isField && isAfterSpan directive after
    | _ => false
  | _ => false

/-- Whether a target may begin with a character. -/
def isTargetStart (c : Char) : Bool :=
  c == '-' || c == ':' || c == '_' || Pattern.alphabetic.contains c || Pattern.number.contains c

def isDirective (s : List Char) : Bool :=
  match Text.trimChars s with
  | [] => false
  | '[' :: rest => isSpan s rest
  | c :: rest =>
    isTargetStart c &&
      let target := Text.takeUntil (fun c => c == '=' || c == '[') rest
      match rest.drop target.length with
      | '[' :: rest => isSpan s rest
      | '=' :: level => isLevelOf s level
      | _ => true

/-- Whether a text is a filter. Directives that are empty do not count. -/
def isValid (filter : String) : Bool :=
  (Text.splitOn ',' filter.toList).all fun piece => piece.isEmpty || isDirective piece

example :
    ["info,net[conn\x7bpeer=+5\x7d]=debug, [conn]", "[a]=info ", "info, [b]=debug",
      "[a\x7bb=*\x7d]"].map
      isValid = [true, false, false, false] := by
  decide +kernel

end RequestGuard.Settings.LogFilter
