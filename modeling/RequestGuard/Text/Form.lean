import RequestGuard.Text.Percent
import RequestGuard.Text.Split
import RequestGuard.Text.Utf8

/-!
# Form encoding

The format `application/x-www-form-urlencoded` of the URL standard, in which query strings are
written: pairs separated by `&`, each a name and a value separated by the first `=`, with `+` for a
space and percent-encoding for everything else that is not plain. Reading never fails: bytes that
are not UTF-8 become U+FFFD. `serialize` is the writer of the same standard.
-/

namespace RequestGuard.Form

/-- The text that one written name or value stands for. -/
def decodeComponent (s : List Char) : List Char :=
  let spaced := s.map fun c => if c = '+' then ' ' else c
  Utf8.decodeLossy (Percent.decode (Utf8.encode spaced))

/-- The name and the value of one piece between separators. -/
def decodePair (piece : List Char) : String × String :=
  let (name, value) := (Text.splitOnce? '=' piece).getD (piece, [])
  (String.ofList (decodeComponent name), String.ofList (decodeComponent value))

/-- The pairs of a query string in order; empty pieces are skipped. -/
def parse (s : List Char) : List (String × String) :=
  ((Text.splitOn '&' s).filter fun piece => !piece.isEmpty).map decodePair

/-- The bytes that are written as they are. -/
def isPlain (b : UInt8) : Bool :=
  let c := Char.ofNat b.toNat
  c.isAlphanum || c == '*' || c == '-' || c == '.' || c == '_'

def encodeByte (b : UInt8) : List Char :=
  if isPlain b then [Char.ofNat b.toNat]
  else if b = 0x20 then ['+']
  else Percent.encodeByte b

def encodeComponent (s : List Char) : List Char := (Utf8.encode s).flatMap encodeByte

def encodePair (pair : String × String) : List Char :=
  encodeComponent pair.1.toList ++ '=' :: encodeComponent pair.2.toList

def serialize (pairs : List (String × String)) : List Char :=
  Text.joinWith '&' (pairs.map encodePair)

end RequestGuard.Form
