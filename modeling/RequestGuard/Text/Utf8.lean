/-!
# UTF-8

`encode` writes a text as bytes. `scan` reads bytes as a sequence of characters and malformed
pieces: a malformed piece is the longest beginning of a well-formed sequence, or a single byte if
there is none. `decode?` refuses malformed pieces and `decodeLossy` puts U+FFFD for each.
-/

namespace RequestGuard.Utf8

def encodeChar (c : Char) : List UInt8 :=
  let n := c.toNat
  if n < 0x80 then [UInt8.ofNat n]
  else if n < 0x800 then [UInt8.ofNat (0xC0 + n / 64), UInt8.ofNat (0x80 + n % 64)]
  else if n < 0x10000 then
    [UInt8.ofNat (0xE0 + n / 4096), UInt8.ofNat (0x80 + n / 64 % 64), UInt8.ofNat (0x80 + n % 64)]
  else
    [UInt8.ofNat (0xF0 + n / 262144), UInt8.ofNat (0x80 + n / 4096 % 64),
      UInt8.ofNat (0x80 + n / 64 % 64), UInt8.ofNat (0x80 + n % 64)]

def encode (s : List Char) : List UInt8 := s.flatMap encodeChar

def isContinuation (b : UInt8) : Bool := 0x80 ≤ b.toNat && b.toNat ≤ 0xBF

/-- Whether two bytes can begin a sequence of three: neither too long a form nor a surrogate. -/
def opensThree (b₀ b₁ : UInt8) : Bool :=
  let lead := b₀.toNat
  let next := b₁.toNat
  (lead == 0xE0 && 0xA0 ≤ next && next ≤ 0xBF) ||
    (((0xE1 ≤ lead && lead ≤ 0xEC) || lead == 0xEE || lead == 0xEF) && isContinuation b₁) ||
    (lead == 0xED && 0x80 ≤ next && next ≤ 0x9F)

/-- Whether two bytes can begin a sequence of four: neither too long a form nor above U+10FFFF. -/
def opensFour (b₀ b₁ : UInt8) : Bool :=
  let lead := b₀.toNat
  let next := b₁.toNat
  (lead == 0xF0 && 0x90 ≤ next && next ≤ 0xBF) ||
    (0xF1 ≤ lead && lead ≤ 0xF3 && isContinuation b₁) ||
    (lead == 0xF4 && 0x80 ≤ next && next ≤ 0x8F)

def payload (b : UInt8) : Nat := b.toNat % 64

/-- The characters that bytes stand for, with `none` for each malformed piece. -/
def scan : List UInt8 → List (Option Char)
  | [] => []
  | b₀ :: rest₀ =>
    let lead := b₀.toNat
    if lead < 0x80 then some (Char.ofNat lead) :: scan rest₀
    else if 0xC2 ≤ lead ∧ lead ≤ 0xDF then
      match rest₀ with
      | b₁ :: rest₁ =>
        if isContinuation b₁ then
          some (Char.ofNat (lead % 32 * 64 + payload b₁)) :: scan rest₁
        else none :: scan (b₁ :: rest₁)
      | [] => [none]
    else if 0xE0 ≤ lead ∧ lead ≤ 0xEF then
      match rest₀ with
      | b₁ :: rest₁ =>
        if opensThree b₀ b₁ then
          match rest₁ with
          | b₂ :: rest₂ =>
            if isContinuation b₂ then
              some (Char.ofNat (lead % 16 * 4096 + payload b₁ * 64 + payload b₂)) :: scan rest₂
            else none :: scan (b₂ :: rest₂)
          | [] => [none]
        else none :: scan (b₁ :: rest₁)
      | [] => [none]
    else if 0xF0 ≤ lead ∧ lead ≤ 0xF4 then
      match rest₀ with
      | b₁ :: rest₁ =>
        if opensFour b₀ b₁ then
          match rest₁ with
          | b₂ :: rest₂ =>
            if isContinuation b₂ then
              match rest₂ with
              | b₃ :: rest₃ =>
                if isContinuation b₃ then
                  some (Char.ofNat
                    (lead % 8 * 262144 + payload b₁ * 4096 + payload b₂ * 64 + payload b₃)) ::
                      scan rest₃
                else none :: scan (b₃ :: rest₃)
              | [] => [none]
            else none :: scan (b₂ :: rest₂)
          | [] => [none]
        else none :: scan (b₁ :: rest₁)
      | [] => [none]
    else none :: scan rest₀

/-- The text that bytes stand for, if they are well formed. -/
def decode? (bytes : List UInt8) : Option (List Char) := (scan bytes).mapM id

/-- The text that bytes stand for, with U+FFFD for each malformed piece. -/
def decodeLossy (bytes : List UInt8) : List Char :=
  (scan bytes).map fun c => c.getD (Char.ofNat 0xFFFD)

theorem encode_append (s rest : List Char) :
    encode (s ++ rest) = encode s ++ encode rest := List.flatMap_append

theorem encode_cons_of_lt {c : Char} (h : c.toNat < 0x80) (rest : List Char) :
    encode (c :: rest) = UInt8.ofNat c.toNat :: encode rest := by
  rw [encode, List.flatMap_cons, encodeChar, if_pos h, List.singleton_append]
  rfl

theorem encode_of_lt {s : List Char} (h : ∀ c ∈ s, c.toNat < 0x80) :
    encode s = s.map fun c => UInt8.ofNat c.toNat := by
  induction s with
  | nil => rfl
  | cons c s ih =>
    obtain ⟨hc, hs⟩ := List.forall_mem_cons.1 h
    rw [encode_cons_of_lt hc, ih hs, List.map_cons]

end RequestGuard.Utf8
