import RequestGuard.Route.Segment
import RequestGuard.Url.Parser

/-!
# Route templates

The route of a request is the path of its URL with the segments that look like values replaced by
placeholders: `/users/42/` has the route `/users/:number`. The URL may be a bare path.
-/

namespace RequestGuard.Route

/-- The path of a URL: of a bare path, what stands before a query and a fragment. -/
def path? (url : String) : Option (List Char) :=
  if url.toList.head? = some '/' then
    some (Text.takeUntil (fun c => c == '?' || c == '#') url.toList)
  else
    match Url.parse url with
    | .ok parsed => some parsed.path.toList
    | .error _ => none

def generalizePath (path : List Char) : List Char :=
  Text.joinWith '/' ((Text.splitOn '/' path).map generalize)

/-- A path without one slash at its end, unless nothing else is left. -/
def dropLastSlash (path : List Char) : List Char :=
  match path.reverse with
  | '/' :: c :: rest => (c :: rest).reverse
  | _ => path

def ofUrl? (url : String) : Option String :=
  (path? url).map fun path => String.ofList (dropLastSlash (generalizePath path))

end RequestGuard.Route
