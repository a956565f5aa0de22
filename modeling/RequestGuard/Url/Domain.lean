import RequestGuard.Text.Split
import RequestGuard.Url.Label

/-!
# Domain names

A domain name is a list of labels between dots. If one of them is written from right to left, each
of them must have one direction.
-/

namespace RequestGuard.Url

/-- The characters that no host may contain. -/
def isForbiddenInHost (c : Char) : Bool :=
  [Char.ofNat 0, '\t', '\n', '\r', ' ', '#', '/', ':', '<', '>', '?', '@', '[', '\\', ']', '^',
    '|'].contains c

/-- The ASCII characters that no domain name may contain. -/
def isForbiddenInDomain (c : Char) : Bool :=
  isForbiddenInHost c || c.toNat < 0x20 || c == '%' || c.toNat == 0x7F

/-- Whether the labels of a name agree about directions. -/
def directionsFit (labels : List (List Char)) : Bool :=
  !labels.any isRightToLeft || labels.all hasOneDirection

def normalizeDomain? (name : List Char) : Option (List Char) :=
  match name.mapM domainChars? with
  | none => none
  | some chars =>
    let name := chars.flatten
    match (Text.splitOn '.' name).mapM shownLabel? with
    | none => none
    | some labels =>
      if name.any isForbiddenInDomain || !directionsFit labels then none else some name

end RequestGuard.Url
