import RequestGuard.Text.Percent
import RequestGuard.Text.Utf8

/-!
# URLs

What is kept of a URL: its scheme and its path. Schemes fall into three kinds, which differ in how
the text after the colon is read. `UrlError` lists the reasons for which a text is no URL.
-/

namespace RequestGuard

/-- An absolute URL. -/
structure Url where
  scheme : String
  path : String
deriving DecidableEq, Repr

/-- Why a text is not an absolute URL. -/
inductive UrlError where
  | relativeWithoutBase
  | emptyHost
  | invalidDomain
  | invalidDomainCharacter
  | invalidPort
  | invalidIpv4
  | invalidIpv6
deriving DecidableEq, Repr

def UrlError.message : UrlError → String
  | .relativeWithoutBase => "relative URL without a base"
  | .emptyHost => "empty host"
  | .invalidDomain => "invalid international domain name"
  | .invalidDomainCharacter => "invalid domain character"
  | .invalidPort => "invalid port number"
  | .invalidIpv4 => "invalid IPv4 address"
  | .invalidIpv6 => "invalid IPv6 address"

namespace Url

/-- How the text after a scheme is read. -/
inductive SchemeKind where
  | special
  | file
  | other
deriving DecidableEq, Repr

def SchemeKind.of (scheme : String) : SchemeKind :=
  if scheme = "file" then .file
  else if ["http", "https", "ws", "wss", "ftp"].contains scheme then .special
  else .other

/-- Whether a backslash counts as a slash. -/
def SchemeKind.isSpecial : SchemeKind → Bool
  | .other => false
  | _ => true

/-- Whether a character separates the segments of a path. -/
def SchemeKind.isSlash (kind : SchemeKind) (c : Char) : Bool :=
  c == '/' || (c == '\\' && kind.isSpecial)

def SchemeKind.endsAuthority (kind : SchemeKind) (c : Char) : Bool :=
  c == '?' || c == '#' || kind.isSlash c

/-- A character, percent-encoded if it is not ASCII, a control character, or one that satisfies the
test. -/
def encodeChar (test : Char → Bool) (c : Char) : List Char :=
  if c.toNat < 0x20 || c.toNat ≥ 0x7F || test c then
    (Utf8.encodeChar c).flatMap Percent.encodeByte
  else [c]

def isEncodedInPath (c : Char) : Bool :=
  [' ', '"', '#', '<', '>', '?', '^', '\x60', '\x7b', '\x7d'].contains c

end Url

end RequestGuard
