/-!
# Sources of user input

The parts of a request that its sender controls, in the order in which they are scanned.
-/

namespace RequestGuard

/-- A part of a request that holds user input. -/
inductive Source where
  | query
  | headers
  | cookies
  | routeParams
  | body
deriving DecidableEq, Repr

namespace Source

/-- All sources in the order in which they are scanned. -/
def all : List Source := [.query, .headers, .cookies, .routeParams, .body]

def name : Source → String
  | .query => "query"
  | .headers => "headers"
  | .cookies => "cookies"
  | .routeParams => "routeParams"
  | .body => "body"

def ofName? (name : String) : Option Source := all.find? fun source => source.name == name

end Source

end RequestGuard
