import RequestGuard.Text.Digits

/-!
# Blanks, comments and strings of TOML

A line ends with a line feed, which a carriage return may precede. Comments and strings hold any
characters but control characters; a tab is none.
-/

namespace RequestGuard.Toml

def isBlank (c : Char) : Bool := c == ' ' || c == '\t'

def isTextChar (c : Char) : Bool := c == '\t' || (0x20 ≤ c.toNat && c != '\x7f')

def skipBlanks (s : List Char) : List Char := s.dropWhile isBlank

def afterLineEnd? : List Char → Option (List Char)
  | '\n' :: rest => some rest
  | '\r' :: '\n' :: rest => some rest
  | _ => none

/-- Skips blanks, a comment, and the end of the line or of the text. -/
def endLine? (s : List Char) : Option (List Char) :=
  let rest :=
    match skipBlanks s with
    | '#' :: comment => comment.dropWhile isTextChar
    | other => other
  if rest.isEmpty then some [] else afterLineEnd? rest

def skipLines? (inComment : Bool) : List Char → Option (List Char)
  | [] => some []
  | '\n' :: rest => skipLines? false rest
  | '\r' :: '\n' :: rest => skipLines? false rest
  | c :: rest =>
    if inComment then if isTextChar c then skipLines? true rest else none
    else if c = '#' then skipLines? true rest
    else if isBlank c then skipLines? false rest
    else some (c :: rest)

/-- The character that an escape of one letter stands for. -/
def escaped? : Char → Option Char
  | 'b' => some '\x08'
  | 't' => some '\t'
  | 'n' => some '\n'
  | 'f' => some '\x0c'
  | 'r' => some '\r'
  | '"' => some '"'
  | '\\' => some '\\'
  | _ => none

/-- Reads a character given by so many hexadecimal digits. -/
def readCodePoint? (count : Nat) (s : List Char) : Option (Char × List Char) :=
  let digits := s.take count
  let n := Text.ofHexDigits digits
  if digits.length = count ∧ digits.all Text.isHexDigit ∧ n.isValidChar then
    some (Char.ofNat n, s.drop count)
  else none

def readEscape? : List Char → Option (Char × List Char)
  | 'u' :: rest => readCodePoint? 4 rest
  | 'U' :: rest => readCodePoint? 8 rest
  | c :: rest => (escaped? c).map (·, rest)
  | [] => none

def skipToText : List Char → List Char
  | [] => []
  | '\r' :: '\n' :: rest => skipToText rest
  | c :: rest => if isBlank c || c == '\n' then skipToText rest else c :: rest

/-- Reads the rest of a string of one line up to a quote; `fuel` bounds its length. -/
def readLine? (quote : Char) : Nat → List Char → List Char → Option (String × List Char)
  | 0, _, _ => none
  | _ + 1, _, [] => none
  | fuel + 1, done, c :: rest =>
    if c = quote then some (String.ofList done.reverse, rest)
    else if c = '\\' ∧ quote = '"' then
      (readEscape? rest).bind fun (d, rest) => readLine? quote fuel (d :: done) rest
    else if isTextChar c then readLine? quote fuel (c :: done) rest
    else none

/-- Reads the rest of a string of several lines up to three quotes; `fuel` bounds its length. One
or two quotes may stand before these. -/
def readLines? (quote : Char) : Nat → List Char → List Char → Option (String × List Char)
  | 0, _, _ => none
  | _ + 1, _, [] => none
  | fuel + 1, done, c :: rest =>
    if c = quote then
      let quotes := (c :: rest).takeWhile (· == quote)
      let after := (c :: rest).drop quotes.length
      if quotes.length ≥ 6 then none
      else if quotes.length ≥ 3 then
        some (String.ofList (quotes.drop 3 ++ done).reverse, after)
      else readLines? quote fuel (quotes ++ done) after
    else if c = '\\' ∧ quote = '"' then
      if (afterLineEnd? (skipBlanks rest)).isSome then
        readLines? quote fuel done (skipToText rest)
      else (readEscape? rest).bind fun (d, rest) => readLines? quote fuel (d :: done) rest
    else
      match afterLineEnd? (c :: rest) with
      | some rest => readLines? quote fuel ('\n' :: done) rest
      | none => if isTextChar c then readLines? quote fuel (c :: done) rest else none

def readString? (quote : Char) (s : List Char) : Option (String × List Char) :=
  match s with
  | a :: b :: c :: rest =>
    if a = quote ∧ b = quote ∧ c = quote then
      let body := (afterLineEnd? rest).getD rest
      readLines? quote (body.length + 1) [] body
    else readLine? quote (s.length + 1) [] (b :: c :: rest)
  | _ :: rest => readLine? quote (s.length + 1) [] rest
  | [] => none

end RequestGuard.Toml
