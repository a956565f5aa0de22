import RequestGuard.Cloud.Config

/-!
# The lists of the firewall

The addresses and the user agents to refuse, as the control plane sends them.
-/

namespace RequestGuard.Cloud

open Json (Tree Value)

/-- Addresses to refuse, and why. -/
structure Blocklist where
  source : String := ""
  description : String := ""
  ips : List String := []
deriving DecidableEq, Repr

/-- The lists of the firewall. The pattern of user agents is empty if none is refused. -/
structure FirewallLists where
  blocklists : List Blocklist := []
  blockedUserAgents : String := ""
deriving DecidableEq, Repr

namespace Blocklist

def fieldNames : List String := ["source", "description", "ips"]

def ofJson? (tree : Tree) : Option Blocklist := do
  let fields ← tree.fields? fieldNames
  let source ← fields.get? "source" Tree.string? ""
  let description ← fields.get? "description" Tree.string? ""
  let ips ← fields.get? "ips" (Tree.list? Tree.string?) []
  return { source, description, ips }

def toJson (list : Blocklist) : Value :=
  .ofMembers
    [("source", .string list.source),
      ("description", .string list.description),
      ("ips", textsToJson list.ips)]

end Blocklist

namespace FirewallLists

def fieldNames : List String := ["blockedIPAddresses", "blockedUserAgents"]

def ofJson? (tree : Tree) : Option FirewallLists := do
  let fields ← tree.fields? fieldNames
  let blocklists ← fields.get? "blockedIPAddresses" (Tree.list? Blocklist.ofJson?) []
  let blockedUserAgents ← fields.get? "blockedUserAgents" Tree.string? ""
  return { blocklists, blockedUserAgents }

def toJson (lists : FirewallLists) : Value :=
  .ofMembers
    [("blockedIPAddresses", .array (lists.blocklists.map Blocklist.toJson)),
      ("blockedUserAgents", .string lists.blockedUserAgents)]

end FirewallLists

end RequestGuard.Cloud
