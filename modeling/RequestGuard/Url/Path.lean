import RequestGuard.Text.Split
import RequestGuard.Url.Basic

/-!
# Paths

The path of a hierarchical URL is a list of segments. A segment `.` names the place where it stands
and `..` the place above it, also if the dots are percent-encoded; at the end of a path each leaves
an empty segment. In a `file` URL the place above a drive letter is the drive itself, at whatever
depth the drive stands, and only the first segment may write its drive with a bar.
-/

namespace RequestGuard.Url

/-- Cuts a text at every slash of the kind. -/
def segments (kind : SchemeKind) (s : List Char) : List (List Char) :=
  Text.splitOn '/' (s.map fun c => if kind.isSlash c then '/' else c)

/-- The letters of a segment with encoded dots written as dots. -/
def plainDots : List Char → List Char
  | '%' :: '2' :: 'e' :: rest => '.' :: plainDots rest
  | '%' :: '2' :: 'E' :: rest => '.' :: plainDots rest
  | c :: rest => c :: plainDots rest
  | [] => []

/-- Whether a segment stands for the place where it is. -/
def isSingleDot (segment : List Char) : Bool := plainDots segment == ['.']

/-- Whether a segment stands for the place above. -/
def isDoubleDot (segment : List Char) : Bool := plainDots segment == ['.', '.']

def isDrive (segment : List Char) : Bool :=
  match segment with
  | [letter, ':'] => letter.isAlpha
  | _ => false

/-- The written form of a segment at a place: percent-encoded. At the top of a `file` path a bar
after a drive letter is written as a colon. -/
def encodeSegment (kind : SchemeKind) (place : List (List Char)) (segment : List Char) :
    List Char :=
  match kind, place, segment with
  | .file, [], [letter, '|'] =>
    if letter.isAlpha then [letter, ':'] else segment.flatMap (encodeChar isEncodedInPath)
  | _, _, _ => segment.flatMap (encodeChar isEncodedInPath)

/-- The place above, the last segment first. -/
def parent (kind : SchemeKind) : List (List Char) → List (List Char)
  | [] => []
  | last :: above => if kind = .file ∧ isDrive last then last :: above else above

/-- Follows segments from a place. Both are lists of segments; that of the place has the last
segment first. -/
def follow (kind : SchemeKind) : List (List Char) → List (List Char) → List (List Char)
  | place, [] => place
  | place, [last] =>
    if isDoubleDot last then [] :: parent kind place
    else if isSingleDot last then [] :: place
    else encodeSegment kind place last :: place
  | place, segment :: rest =>
    if isDoubleDot segment then follow kind (parent kind place) rest
    else if isSingleDot segment then follow kind place rest
    else follow kind (encodeSegment kind place segment :: place) rest

/-- The path that a text after the first slash writes, up to a query or a fragment. -/
def pathOf (kind : SchemeKind) (s : List Char) : List Char :=
  let written := Text.takeUntil (fun c => c == '?' || c == '#') s
  '/' :: Text.joinWith '/' (follow kind [] (segments kind written)).reverse

end RequestGuard.Url
