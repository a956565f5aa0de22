import RequestGuard.Json.Number
import RequestGuard.Text.Split
import RequestGuard.Toml.Value

/-!
# Words of TOML

Truth values, integers, floats and dates are words: runs of letters, digits, signs, dots, colons and
underscores. Underscores may stand between digits, and only there.
-/

namespace RequestGuard.Toml

def isWordChar (c : Char) : Bool :=
  c.isAlphanum || c == '_' || c == '+' || c == '-' || c == '.' || c == ':'

/-- Whether a text is a run of digits with single underscores between them. -/
def isGrouped (isDigit : Char → Bool) (s : List Char) : Bool :=
  (Text.splitOn '_' s).all fun group => !group.isEmpty && group.all isDigit

def ungroup (s : List Char) : List Char := s.filter (· != '_')

/-- Whether an integer is one of 64 bits. -/
def fitsWord (n : Int) : Bool := -0x8000000000000000 ≤ n && n < 0x8000000000000000

def ofBase (base : Nat) (s : List Char) : Nat :=
  s.foldl (fun n c => n * base + (Text.hexValue? c).getD 0) 0

def splitSign : List Char → Bool × List Char
  | '-' :: rest => (true, rest)
  | '+' :: rest => (false, rest)
  | s => (false, s)

/-- Whether a text is a decimal number without needless zeros. -/
def isWhole (s : List Char) : Bool :=
  isGrouped Char.isDigit s && (s.head? != some '0' || s.length == 1)

def baseInteger? (base : Nat) (isDigit : Char → Bool) (s : List Char) : Option Value :=
  let n : Int := ofBase base (ungroup s)
  if isGrouped isDigit s && fitsWord n then some (.integer n) else none

def integer? (s : List Char) : Option Value :=
  match s with
  | '0' :: 'x' :: digits => baseInteger? 16 Text.isHexDigit digits
  | '0' :: 'o' :: digits => baseInteger? 8 (fun c => '0' ≤ c && c ≤ '7') digits
  | '0' :: 'b' :: digits => baseInteger? 2 (fun c => c == '0' || c == '1') digits
  | s =>
    let (negative, digits) := splitSign s
    let n : Int := Text.ofDigits (ungroup digits)
    let signed := if negative then -n else n
    if isWhole digits && fitsWord signed then some (.integer signed) else none

/-- The exponent after its letter: whether it is negative, and its digits. -/
def exponent? (s : List Char) : Option (Bool × List Char) :=
  let (negative, digits) := splitSign s
  if isGrouped Char.isDigit digits then some (negative, ungroup digits) else none

/-- The literal of a float without sign; it has a fraction or an exponent. -/
def floatLiteral? (negative : Bool) (s : List Char) : Option Json.Literal := do
  let isMark : Char → Bool := fun c => c == 'e' || c == 'E'
  let mantissa := Text.takeUntil isMark s
  let exponent ←
    match s.drop mantissa.length with
    | [] => some none
    | _ :: rest => (exponent? rest).map some
  let (whole, fraction) ←
    match Text.splitOnce? '.' mantissa with
    | none => if exponent.isSome then some (mantissa, none) else none
    | some (whole, fraction) =>
      if isGrouped Char.isDigit fraction then some (whole, some (ungroup fraction)) else none
  if isWhole whole then return { negative, whole := ungroup whole, fraction, exponent } else none

/-- A float. One that is too large is none. -/
def float? (s : List Char) : Option Value :=
  let (negative, rest) := splitSign s
  match String.ofList rest with
  | "inf" => some (.float (if negative then -1.0 / 0.0 else 1.0 / 0.0))
  | "nan" => some (.float (0.0 / 0.0))
  | _ =>
    (floatLiteral? negative rest).bind fun literal =>
      literal.magnitude?.map fun x => .float (if negative then -x else x)

def daysOfMonth (year month : Nat) : Nat :=
  if month = 2 then
    if year % 4 = 0 ∧ (year % 100 ≠ 0 ∨ year % 400 = 0) then 29 else 28
  else if [4, 6, 9, 11].contains month then 30
  else 31

def isDay : List Char → Bool
  | [y1, y2, y3, y4, '-', m1, m2, '-', d1, d2] =>
    let year? := Text.readDigits? [y1, y2, y3, y4]
    match year?, Text.readDigits? [m1, m2], Text.readDigits? [d1, d2] with
    | some year, some month, some day =>
      1 ≤ month && month ≤ 12 && 1 ≤ day && day ≤ daysOfMonth year month
    | _, _, _ => false
  | _ => false

def isUpTo (limit : Nat) (a b : Char) : Bool := (Text.readDigits? [a, b]).any fun n => n ≤ limit

/-- What follows the hours, minutes and seconds at the beginning of a text. -/
def afterTime? : List Char → Option (List Char)
  | h1 :: h2 :: ':' :: m1 :: m2 :: ':' :: s1 :: s2 :: rest =>
    if isUpTo 23 h1 h2 && isUpTo 59 m1 m2 && isUpTo 60 s1 s2 then
      match rest with
      | '.' :: fraction =>
        let after := fraction.dropWhile Char.isDigit
        if after.length < fraction.length then some after else none
      | rest => some rest
    else none
  | _ => none

/-- Whether a text is nothing or the offset of a time. -/
def isOffset : List Char → Bool
  | [] | ['Z'] | ['z'] => true
  | [sign, h1, h2, ':', m1, m2] =>
    (sign == '+' || sign == '-') && isUpTo 23 h1 h2 && isUpTo 59 m1 m2
  | _ => false

def isDate (s : List Char) : Bool :=
  afterTime? s == some [] ||
    (isDay (s.take 10) &&
      match s.drop 10 with
      | [] => true
      | c :: time =>
        (c == 'T' || c == 't' || c == ' ') && ((afterTime? time).map isOffset).getD false)

def wordValue? (word : List Char) : Option Value :=
  match String.ofList word with
  | "true" => some (.boolean true)
  | "false" => some (.boolean false)
  | text => if isDate word then some (.date text) else integer? word <|> float? word

/-- Reads a word. A space may stand between a day and a time. -/
def readWord? (s : List Char) : Option (Value × List Char) :=
  let word := s.takeWhile isWordChar
  let rest := s.drop word.length
  match rest with
  | ' ' :: c :: more =>
    if isDay word && c.isDigit then
      let time := (c :: more).takeWhile isWordChar
      (wordValue? (word ++ ' ' :: time)).map (·, (c :: more).drop time.length)
    else (wordValue? word).map (·, rest)
  | rest => (wordValue? word).map (·, rest)

end RequestGuard.Toml
