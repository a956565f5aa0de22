import RequestGuard.Keyed
import RequestGuard.Text.Form

/-!
# Values by name

The query of a URL gives each of its names the list of its values in their order. The query is what
follows the first question mark of the URL, up to a number sign.
-/

namespace RequestGuard

abbrev ValuesByName := List (String × List String)

namespace ValuesByName

def add (values : ValuesByName) (name value : String) : ValuesByName :=
  Keyed.update name (fun old => old.getD [] ++ [value]) values

def ofPairs (pairs : List (String × String)) : ValuesByName :=
  pairs.foldl (fun values (name, value) => values.add name value) []

end ValuesByName

namespace Request

def rawQuery? (url : List Char) : Option (List Char) :=
  (Text.splitOnce? '?' url).map fun (_, rest) => Text.takeUntil (· == '#') rest

def parseQuery (url : String) : ValuesByName :=
  match rawQuery? url.toList with
  | some query => .ofPairs (Form.parse query)
  | none => []

end Request

end RequestGuard
