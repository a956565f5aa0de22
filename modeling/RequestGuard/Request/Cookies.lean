import RequestGuard.Keyed
import RequestGuard.Text.Blank
import RequestGuard.Text.Split

/-!
# Cookies

A cookie header is a list of pieces between semicolons, each a name and a value around the first
equals sign, with blanks around both. Pieces without a name do not count, and of several cookies
with one name the first one does.
-/

namespace RequestGuard.Request

def parseCookie? (piece : List Char) : Option (String × String) :=
  match Text.splitOnce? '=' piece with
  | none => none
  | some (name, value) =>
    let name := Text.trimChars name
    if name.isEmpty then none
    else some (String.ofList name, String.ofList (Text.trimChars value))

def addCookie (cookies : List (String × String)) (cookie : String × String) :
    List (String × String) :=
  if Keyed.contains cookie.1 cookies then cookies
  else Keyed.insert cookie.1 cookie.2 cookies

def parseCookies (headers : List String) : List (String × String) :=
  let pieces := headers.flatMap fun header => Text.splitOn ';' header.toList
  (pieces.filterMap parseCookie?).foldl addCookie []

end RequestGuard.Request
