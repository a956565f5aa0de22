import RequestGuard.Text.Digits
import RequestGuard.Url.Host
import RequestGuard.Url.Path

/-!
# Reading URLs

An absolute URL is a scheme and, after the colon, what the kind of the scheme asks for. Control
characters and spaces around a URL do not count, nor do tabs and line ends inside it.
-/

namespace RequestGuard.Url

/-- The characters of a URL that count. -/
def clean (s : List Char) : List Char :=
  let isOuter : Char → Bool := fun c => c.toNat ≤ 0x20
  let trimmed := ((s.dropWhile isOuter).reverse.dropWhile isOuter).reverse
  trimmed.filter fun c => !(c == '\t' || c == '\n' || c == '\r')

/-- Whether a character may stand in a scheme. -/
def isSchemeChar (c : Char) : Bool := c.isAlphanum || c == '+' || c == '-' || c == '.'

/-- The scheme in lower case, and what follows its colon. -/
def splitScheme? (s : List Char) : Option (List Char × List Char) :=
  match s.span isSchemeChar with
  | (first :: more, ':' :: rest) =>
    if first.isAlpha then some ((first :: more).map Char.toLower, rest) else none
  | _ => none

/-- Cuts off the user and the password, which end at the last `@` of the authority. -/
def splitUserInfo (authority : List Char) : Option (List Char) × List Char :=
  match authority.reverse.span (· != '@') with
  | (hostPort, '@' :: userInfo) => (some userInfo.reverse, hostPort.reverse)
  | _ => (none, authority)

/-- The length of the host at the beginning of a text: up to a colon outside of brackets or to the
end of the authority. -/
def hostLength (kind : SchemeKind) : Bool → List Char → Nat
  | _, [] => 0
  | bracketed, c :: rest =>
    if (c == ':' && !bracketed) || kind.endsAuthority c then 0
    else if c = '[' then hostLength kind true rest + 1
    else if c = ']' then hostLength kind false rest + 1
    else hostLength kind bracketed rest + 1

def skipPort (s : List Char) : Except UrlError (List Char) :=
  let digits := s.takeWhile Char.isDigit
  if Text.ofDigits digits > 65535 then .error .invalidPort
  else
    match s.drop digits.length with
    | [] => .ok []
    | c :: rest =>
      if c == '/' || c == '\\' || c == '?' || c == '#' then .ok (c :: rest)
      else .error .invalidPort

def readHostPort (kind : SchemeKind) (hasUser : Bool) (s : List Char) :
    Except UrlError (List Char) := do
  let length := hostLength kind false s
  let host := s.take length
  let rest := s.drop length
  if kind.isSpecial then
    if host.isEmpty then throw .emptyHost
    checkHost host
  else
    checkOpaqueHost host
    if host.isEmpty && rest.head? == some ':' then throw .emptyHost
  let rest ←
    match rest with
    | ':' :: port => skipPort port
    | other => .ok other
  if host.isEmpty && hasUser then throw .emptyHost
  return rest

def readAuthority (kind : SchemeKind) (s : List Char) : Except UrlError (List Char) :=
  let authority := Text.takeUntil kind.endsAuthority s
  let rest := s.drop authority.length
  match splitUserInfo authority with
  | (none, _) => readHostPort kind false s
  | (some [], []) => if rest.isEmpty then readHostPort kind false rest else .error .emptyHost
  | (some userInfo, hostPort) =>
    readHostPort kind (userInfo != [] && userInfo != [':']) (hostPort ++ rest)

def pathAfterAuthority (kind : SchemeKind) (rest : List Char) : List Char :=
  match rest with
  | [] => if kind.isSpecial then ['/'] else []
  | c :: tail =>
    if kind.isSlash c then pathOf kind tail
    else if !kind.isSpecial && (c == '?' || c == '#') then []
    else pathOf kind rest

def flatPath (s : List Char) : List Char :=
  (Text.takeUntil (fun c => c == '?' || c == '#') s).flatMap (encodeChar fun _ => false)

/-- Whether a text is a drive letter with a colon or a bar. -/
def isDriveSpec (s : List Char) : Bool :=
  match s with
  | [letter, mark] => letter.isAlpha && (mark == ':' || mark == '|')
  | _ => false

/-- The path of a `file` URL: no empty segments at its beginning. -/
def filePath (s : List Char) : List Char :=
  let relative :=
    match s with
    | c :: rest => if SchemeKind.file.isSlash c then rest else s
    | [] => []
  '/' :: (pathOf .file relative).dropWhile (· == '/')

/-- Reads what follows the scheme `file`. -/
def readFile (s : List Char) : Except UrlError (List Char) :=
  match s with
  | a :: b :: rest =>
    if SchemeKind.file.isSlash a && SchemeKind.file.isSlash b then do
      let host := Text.takeUntil SchemeKind.file.endsAuthority rest
      if host.isEmpty || isDriveSpec host then return filePath rest
      checkHost host
      return filePath (rest.drop host.length)
    else .ok (filePath s)
  | _ => .ok (filePath s)

def readPath (kind : SchemeKind) (s : List Char) : Except UrlError (List Char) :=
  match kind with
  | .file => readFile s
  | .special => do
    let rest ← readAuthority kind (s.dropWhile kind.isSlash)
    return pathAfterAuthority kind rest
  | .other =>
    match s with
    | '/' :: '/' :: rest => do
      let rest ← readAuthority kind rest
      return pathAfterAuthority kind rest
    | '/' :: rest => .ok (pathOf kind rest)
    | rest => .ok (flatPath rest)

/-- Reads an absolute URL. -/
def parse (s : String) : Except UrlError Url :=
  match splitScheme? (clean s.toList) with
  | none => .error .relativeWithoutBase
  | some (scheme, rest) => do
    let name := String.ofList scheme
    let path ← readPath (SchemeKind.of name) rest
    return { scheme := name, path := String.ofList path }

end RequestGuard.Url
