import RequestGuard.Text.Split

/-!
# Routes worth reporting

A completed request reports its route if it succeeded or was redirected, unless it only asked about
a resource or the route leads to a static file or a hidden one.
-/

namespace RequestGuard.Route

def isHidden (segment : List Char) : Bool :=
  segment.head? == some '.' && segment != ".well-known".toList

def isFileName (segment : List Char) : Bool :=
  segment.head? != some '.' && segment.contains '.'

/-- Whether a method only asks about a resource. -/
def isInquiry (method : String) : Bool := method.toUpper == "OPTIONS" || method.toUpper == "HEAD"

/-- Whether a completed request reports its route. -/
def isDiscovered (status : Nat) (route method : String) : Bool :=
  let segments := (Text.splitOn '/' route.toList).filter fun segment => !segment.isEmpty
  200 ≤ status && status < 400 && !isInquiry method && !segments.any isHidden &&
    !(segments.getLast?.map isFileName).getD false

end RequestGuard.Route
