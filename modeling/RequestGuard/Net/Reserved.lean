import RequestGuard.Net.MatchList

/-!
# Reserved networks

The private, loopback, link-local and documentation networks. An address in one of them is never
blocked and never taken for the address of a remote client.
-/

namespace RequestGuard.Net

def reservedEntries : List String :=
  ["0.0.0.0/8", "10.0.0.0/8", "100.64.0.0/10", "127.0.0.0/8", "169.254.0.0/16", "172.16.0.0/12",
    "192.0.0.0/24", "192.0.2.0/24", "192.31.196.0/24", "192.52.193.0/24", "192.88.99.0/24",
    "192.168.0.0/16", "192.175.48.0/24", "198.18.0.0/15", "198.51.100.0/24", "203.0.113.0/24",
    "224.0.0.0/4", "240.0.0.0/4", "255.255.255.255/32", "::/128", "::1/128", "fc00::/7",
    "fe80::/10", "2001:db8::/32"]

def reserved : MatchList := MatchList.ofEntries reservedEntries

def IpAddress.isReserved (address : IpAddress) : Bool := reserved.covers address

def isReservedText (text : String) : Bool := reserved.coversText text

end RequestGuard.Net
