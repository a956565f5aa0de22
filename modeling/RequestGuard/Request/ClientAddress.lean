import RequestGuard.Net.Reserved
import RequestGuard.Net.SocketAddress

/-!
# The address of the client

A request comes from the address at the other end of its connection, or, behind a trusted proxy,
from the first public address that the forwarding header names. Either may come with a port or in
brackets; what is kept is the canonical text of the address alone.
-/

namespace RequestGuard.Request

open Net (IpAddress SocketAddress)

def addressIn? (text : String) : Option IpAddress :=
  let trimmed := Text.trim text
  match IpAddress.parse? trimmed with
  | some address => some address
  | none => (SocketAddress.ofChars? trimmed.toList).map SocketAddress.ip

def forwardedAddresses (header : String) : List IpAddress :=
  (Text.splitOn ',' header.toList).filterMap fun piece => addressIn? (String.ofList piece)

def clientAddress? (remote forwarded : Option String) (trustProxy : Bool) : Option IpAddress :=
  let public? :=
    if trustProxy then
      forwarded.bind fun header => (forwardedAddresses header).find? fun ip => !ip.isReserved
    else none
  match public? with
  | some address => some address
  | none => remote.bind addressIn?

def clientIp? (remote forwarded : Option String) (trustProxy : Bool) : Option String :=
  (clientAddress? remote forwarded trustProxy).map IpAddress.render

end RequestGuard.Request
