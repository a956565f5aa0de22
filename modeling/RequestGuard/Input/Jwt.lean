import RequestGuard.Json.Print
import RequestGuard.Json.Tree
import RequestGuard.Text.Base64Url
import RequestGuard.Text.Blank
import RequestGuard.Text.Split
import RequestGuard.Text.Utf8

/-!
# JSON web tokens

A token is three texts separated by dots, the second of which is the base64url form of a JSON
object: its claims. Claims are read as user input, so a signature is never checked. The header must
not be empty, and the claims may be padded with `=`.
-/

namespace RequestGuard.Jwt

/-- The header, the payload and the signature of a text with exactly two dots. -/
def parts? (candidate : List Char) : Option (List Char × List Char × List Char) :=
  match Text.splitOn '.' candidate with
  | [header, payload, signature] => some (header, payload, signature)
  | _ => none

/-- The value that the payload of a token encodes. -/
def payloadValue? (payload : List Char) : Option Json.Value :=
  (Base64Url.decode? (Text.dropTrailing (· = '=') payload)).bind fun bytes =>
    (Utf8.decode? bytes).bind fun text => Json.Value.parse? (String.ofList text)

/-- The claims of a text that is shaped like a token. -/
def claims? (candidate : String) : Option (List (String × Json.Value)) :=
  match parts? candidate.toList with
  | some (header, payload, _) =>
    if header.isEmpty || payload.isEmpty then none
    else
      match payloadValue? payload with
      | some (.object claims) => some claims
      | _ => none
  | none => none

/-- A token with the given claims. -/
def encode (header : List Char) (claims : List (String × Json.Value)) (padding : Nat)
    (signature : List Char) : String :=
  let payload := Base64Url.encode (Utf8.encode (Json.Value.object claims).chars)
  String.ofList
    (header ++ '.' :: (payload ++ List.replicate padding '=' ++ '.' :: signature))

end RequestGuard.Jwt
