import RequestGuard.Input.Strings
import RequestGuard.Request.ClientAddress
import RequestGuard.Request.Cookies
import RequestGuard.Request.Query
import RequestGuard.Request.Source
import RequestGuard.Route.Template

/-!
# Requests

A request as it is looked at: with its route, its decoded query, its headers by lower-case name, its
cookies and the address of its client. It is made from the parts that an adapter hands over.
-/

namespace RequestGuard

open Json (Value)

/-- What an adapter hands over of a request. -/
structure Request.Parts where
  method : String
  url : String
  route : Option String := none
  routeParams : List (String × String) := []
  headers : List (String × String) := []
  body : Option Value := none
  remote : Option String := none
  adapter : String := "custom"
  trustProxy : Bool := true

structure Request where
  method : String
  route : String
  url : String
  routeParams : List (String × String)
  query : ValuesByName
  headers : ValuesByName
  cookies : List (String × String)
  body : Option Value
  ip : Option String
  adapter : String

namespace Request

def headersByName (headers : List (String × String)) : ValuesByName :=
  .ofPairs (headers.map fun (name, value) => (name.toLower, value))

def valuesOf (headers : ValuesByName) (name : String) : List String :=
  (Keyed.find? name headers).getD []

/-- The request that some parts describe. A route that is not given comes from the URL. -/
def ofParts (parts : Parts) : Request :=
  let headers := headersByName parts.headers
  let forwarded := (Keyed.find? "x-forwarded-for" headers).map (String.intercalate ",")
  { method := parts.method.toUpper
    route := (parts.route <|> Route.ofUrl? parts.url).getD "/"
    url := parts.url
    routeParams := Keyed.ofList parts.routeParams
    query := parseQuery parts.url
    headers
    cookies := parseCookies (valuesOf headers "cookie")
    body := parts.body
    ip := clientIp? parts.remote forwarded parts.trustProxy
    adapter := parts.adapter }

/-- The first value of a header, whose name may be written in any case. -/
def header? (request : Request) (name : String) : Option String :=
  (valuesOf request.headers name.toLower).head?

def userAgent? (request : Request) : Option String := request.header? "user-agent"

/-- An object with lists of values: a single value stands for itself. -/
def valuesToJson (values : ValuesByName) : Value :=
  .object (values.map fun (name, texts) =>
    (name,
      match texts with
      | [text] => .string text
      | texts => .array (texts.map .string)))

def textsToJson (texts : List (String × String)) : Value :=
  .object (texts.map fun (name, text) => (name, .string text))

/-- The value in which a source holds user input, if the request has the source. -/
def valueOf? (request : Request) : Source → Option Value
  | .query => some (valuesToJson request.query)
  | .headers => some (valuesToJson request.headers)
  | .cookies => some (textsToJson request.cookies)
  | .routeParams => some (textsToJson request.routeParams)
  | .body => request.body

def inputOf (request : Request) (source : Source) (limits : Input.Limits) : Input.Strings :=
  match request.valueOf? source with
  | some value => Input.strings limits value
  | none => []

end Request

end RequestGuard
