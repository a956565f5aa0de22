import RequestGuard.Json.Number

/-!
# JSON tokens

`tokens?` cuts a JSON text into its tokens and refuses a text that holds anything else. A string
token keeps no text if its escapes name half a surrogate pair, and a number token keeps no number
if the literal is too large for a double: such a text is well formed, but has no value there.
-/

namespace RequestGuard.Json

inductive Token where
  | openBrace
  | closeBrace
  | openBracket
  | closeBracket
  | comma
  | colon
  | null
  | bool (b : Bool)
  | number (n : Option Number)
  | string (s : Option String)
deriving DecidableEq, Repr

namespace Token

/-- What one place in a string is written as: a character, or a 16-bit unit in hexadecimal. -/
inductive Piece where
  | char (c : Char)
  | unit (n : Nat)
deriving DecidableEq, Repr

/-- The character of an escape with one letter. -/
def escaped? : Char → Option Char
  | '"' => some '"'
  | '\\' => some '\\'
  | '/' => some '/'
  | 'b' => some (Char.ofNat 8)
  | 'f' => some (Char.ofNat 12)
  | 'n' => some '\n'
  | 'r' => some '\r'
  | 't' => some '\t'
  | _ => none

/-- Reads a string up to its closing quote, of which the opening one is already read. Control
characters must be escaped. -/
def readPieces : List Piece → List Char → Option (List Piece × List Char)
  | _, [] => none
  | pieces, '"' :: rest => some (pieces.reverse, rest)
  | pieces, '\\' :: 'u' :: a :: b :: c :: d :: rest =>
    if [a, b, c, d].all Text.isHexDigit then
      readPieces (.unit (Text.ofHexDigits [a, b, c, d]) :: pieces) rest
    else none
  | pieces, '\\' :: letter :: rest =>
    match escaped? letter with
    | some c => readPieces (.char c :: pieces) rest
    | none => none
  | pieces, c :: rest =>
    if c.toNat < 0x20 || c == '\\' then none else readPieces (.char c :: pieces) rest

/-- The characters of the pieces. Two units that form a surrogate pair are one character, and half
of a pair is none. -/
def assemble : List Piece → Option (List Char)
  | [] => some []
  | .char c :: rest => (assemble rest).map (c :: ·)
  | .unit high :: .unit low :: rest =>
    if 0xD800 ≤ high ∧ high ≤ 0xDBFF then
      if 0xDC00 ≤ low ∧ low ≤ 0xDFFF then
        (assemble rest).map
          (Char.ofNat (0x10000 + (high - 0xD800) * 0x400 + (low - 0xDC00)) :: ·)
      else none
    else if 0xDC00 ≤ high ∧ high ≤ 0xDFFF then none
    else (assemble (.unit low :: rest)).map (Char.ofNat high :: ·)
  | .unit n :: rest =>
    if 0xD800 ≤ n ∧ n ≤ 0xDFFF then none else (assemble rest).map (Char.ofNat n :: ·)

def readRun (s : List Char) : Option (List Char × List Char) :=
  if (s.takeWhile Char.isDigit).isEmpty then none
  else some (s.takeWhile Char.isDigit, s.dropWhile Char.isDigit)

/-- Reads the optional fraction of a number: a point and at least one digit. -/
def readFraction : List Char → Option (Option (List Char) × List Char)
  | '.' :: rest => (readRun rest).map fun (digits, tail) => (some digits, tail)
  | rest => some (none, rest)

def readSign : List Char → Bool × List Char
  | '-' :: rest => (true, rest)
  | '+' :: rest => (false, rest)
  | rest => (false, rest)

/-- Reads the optional exponent of a number: its letter, an optional sign and at least one
digit. -/
def readExponent : List Char → Option (Option (Bool × List Char) × List Char)
  | [] => some (none, [])
  | c :: rest =>
    if c = 'e' ∨ c = 'E' then
      (readRun (readSign rest).2).map fun (digits, tail) =>
        (some ((readSign rest).1, digits), tail)
    else some (none, c :: rest)

/-- Reads the whole digits of a number. No other digit may follow a leading zero. -/
def readWhole (s : List Char) : Option (List Char × List Char) :=
  match readRun s with
  | some ('0' :: _ :: _, _) => none
  | run => run

/-- Reads a number whose sign is already read. -/
def readUnsigned (negative : Bool) (s : List Char) : Option (Literal × List Char) :=
  (readWhole s).bind fun (whole, rest) =>
    (readFraction rest).bind fun (fraction, rest) =>
      (readExponent rest).map fun (exponent, rest) =>
        (⟨negative, whole, fraction, exponent⟩, rest)

/-- Whether a character may stand between tokens. -/
def isSpace (c : Char) : Bool := c == ' ' || c == '\n' || c == '\r' || c == '\t'

def read? : List Char → Option (Token × List Char)
  | [] => none
  | '\x7b' :: rest => some (.openBrace, rest)
  | '\x7d' :: rest => some (.closeBrace, rest)
  | '[' :: rest => some (.openBracket, rest)
  | ']' :: rest => some (.closeBracket, rest)
  | ',' :: rest => some (.comma, rest)
  | ':' :: rest => some (.colon, rest)
  | 'n' :: 'u' :: 'l' :: 'l' :: rest => some (.null, rest)
  | 't' :: 'r' :: 'u' :: 'e' :: rest => some (.bool true, rest)
  | 'f' :: 'a' :: 'l' :: 's' :: 'e' :: rest => some (.bool false, rest)
  | '"' :: rest =>
    (readPieces [] rest).map fun (pieces, tail) =>
      (.string ((assemble pieces).map String.ofList), tail)
  | '-' :: rest =>
    (readUnsigned true rest).map fun (literal, tail) => (.number literal.value?, tail)
  | s => (readUnsigned false s).map fun (literal, tail) => (.number literal.value?, tail)

theorem length_readPieces {pieces result : List Piece} {s rest : List Char}
    (h : readPieces pieces s = some (result, rest)) : rest.length < s.length := by
  fun_induction readPieces pieces s with
  | case1 => simp at h
  | case2 => simp_all
  | case3 _ _ _ _ _ _ _ ih => have := ih h; simp; omega
  | case4 => simp at h
  | case5 _ _ _ _ _ _ ih => have := ih h; simp; omega
  | case6 => simp at h
  | case7 => simp at h
  | case8 _ _ _ _ _ _ _ ih => have := ih h; simp; omega

theorem length_dropWhile_le {α : Type} (test : α → Bool) (s : List α) :
    (s.dropWhile test).length ≤ s.length :=
  (List.dropWhile_sublist test).length_le

theorem length_readRun {s digits rest : List Char} (h : readRun s = some (digits, rest)) :
    rest.length < s.length := by
  unfold readRun at h
  split at h
  · simp at h
  · rename_i hrun
    simp only [Option.some.injEq, Prod.mk.injEq] at h
    cases s with
    | nil => simp at hrun
    | cons c tail =>
      by_cases hc : c.isDigit = true
      · have := length_dropWhile_le Char.isDigit tail
        rw [← h.2, List.dropWhile_cons_of_pos hc]
        simp only [List.length_cons]
        omega
      · simp [List.takeWhile_cons_of_neg hc] at hrun

theorem length_readFraction {s rest : List Char} {fraction : Option (List Char)}
    (h : readFraction s = some (fraction, rest)) : rest.length ≤ s.length := by
  unfold readFraction at h
  split at h
  · obtain ⟨run, hrun, heq⟩ := Option.map_eq_some_iff.1 h
    have := length_readRun hrun
    simp only [Prod.mk.injEq] at heq
    simp only [List.length_cons, ← heq.2]
    omega
  · simp at h
    simp [h.2]

theorem length_readSign (s : List Char) : (readSign s).2.length ≤ s.length := by
  unfold readSign
  split <;> simp

theorem length_readExponent {s rest : List Char} {exponent : Option (Bool × List Char)}
    (h : readExponent s = some (exponent, rest)) : rest.length ≤ s.length := by
  unfold readExponent at h
  split at h
  · simp at h
    simp [h.2]
  · rename_i c tail
    split at h
    · obtain ⟨run, hrun, heq⟩ := Option.map_eq_some_iff.1 h
      have h1 := length_readRun hrun
      have h2 := length_readSign tail
      simp only [Prod.mk.injEq] at heq
      simp only [List.length_cons, ← heq.2]
      omega
    · simp at h
      simp [← h.2]

theorem length_readWhole {s digits rest : List Char} (h : readWhole s = some (digits, rest)) :
    rest.length < s.length := by
  unfold readWhole at h
  split at h
  · simp at h
  · exact length_readRun h

theorem length_readUnsigned {negative : Bool} {s rest : List Char} {literal : Literal}
    (h : readUnsigned negative s = some (literal, rest)) : rest.length < s.length := by
  obtain ⟨whole, hwhole, h⟩ := Option.bind_eq_some_iff.1 h
  obtain ⟨fraction, hfraction, h⟩ := Option.bind_eq_some_iff.1 h
  obtain ⟨exponent, hexponent, h⟩ := Option.map_eq_some_iff.1 h
  have h1 := length_readWhole hwhole
  have h2 := length_readFraction hfraction
  have h3 := length_readExponent hexponent
  simp only [Prod.mk.injEq] at h
  rw [← h.2]
  omega

theorem length_read {s rest : List Char} {token : Token} (h : read? s = some (token, rest)) :
    rest.length < s.length := by
  unfold read? at h
  split at h <;> simp at h <;> try (obtain ⟨-, rfl⟩ := h; simp; try omega)
  · obtain ⟨_, hread, -⟩ := h
    have := length_readPieces hread
    simp; omega
  · obtain ⟨_, hread, -⟩ := h
    have := length_readUnsigned hread
    simp; omega
  · obtain ⟨_, hread, -⟩ := h
    exact length_readUnsigned hread

end Token

/-- The tokens of a text, if it consists of tokens with blanks between them. -/
def tokens? (s : List Char) : Option (List Token) :=
  if (s.dropWhile Token.isSpace).isEmpty then some []
  else
    match _h : Token.read? (s.dropWhile Token.isSpace) with
    | none => none
    | some (token, tail) => (tokens? tail).map (token :: ·)
termination_by s.length
decreasing_by
  have h1 := Token.length_read _h
  have h2 := Token.length_dropWhile_le Token.isSpace s
  omega

end RequestGuard.Json
