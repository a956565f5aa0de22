import RequestGuard.Cloud.FirewallLists
import RequestGuard.Net.Reserved
import RequestGuard.Pattern.Marked
import RequestGuard.Policy.Matching

/-!
# Snapshots of the policy

A snapshot is all that is in force at one time. It is made as a whole from a configuration and the
lists of the firewall, and it is replaced only by a snapshot with a greater version.
-/

namespace RequestGuard.Policy

/-- Refused addresses, and why. -/
structure Blocklist where
  source : String
  description : String
  addresses : Net.MatchList

/-- The policy in force. The refused users are sorted and distinct. -/
structure Snapshot where
  version : Int := 0
  endpoints : List Endpoint := []
  blockedUsers : List String := []
  bypassed : Net.MatchList := .empty
  blocklists : List Blocklist := []
  blockedUserAgents : Option Pattern.Compiled := none
  block : Bool := false
  heartbeatMillis : Option Nat := none
  receivedAnyStats : Bool := false

/-- A list of refused addresses as the control plane sends it. Entries that cannot be read do not
count. -/
def Blocklist.ofCloud (list : Cloud.Blocklist) : Blocklist where
  source := list.source
  description := list.description
  addresses := .ofEntries list.ips

/-- The pattern of refused user agents: none if the text is blank or no pattern. -/
def userAgentPattern? (text : String) : Option Pattern.Compiled :=
  if (Text.trim text).isEmpty then none else Pattern.Compiled.ofText? text

namespace Snapshot

def empty : Snapshot := {}

/-- The snapshot of a configuration. Without lists those of the previous snapshot stay in force. -/
def ofCloud (config : Cloud.Config) (lists : Option Cloud.FirewallLists) (previous : Snapshot) :
    Snapshot where
  version := config.updatedAt.toInt
  endpoints := config.endpoints.map Endpoint.ofCloud
  blockedUsers := Keyed.keys (Keyed.ofList (config.blockedUserIds.map fun id => (id, ())))
  bypassed := .ofEntries config.bypassedIps
  blocklists :=
    match lists with
    | some lists => lists.blocklists.map Blocklist.ofCloud
    | none => previous.blocklists
  blockedUserAgents :=
    match lists with
    | some lists => userAgentPattern? lists.blockedUserAgents
    | none => previous.blockedUserAgents
  block := config.block.getD false
  heartbeatMillis :=
    if config.heartbeatMillis = 0 then none else some config.heartbeatMillis.toNat
  receivedAnyStats := config.receivedAnyStats

/-- Whether a snapshot may replace another one. -/
def isNewerThan (offered current : Snapshot) : Bool := current.version < offered.version

theorem isNewerThan_iff {offered current : Snapshot} :
    offered.isNewerThan current = true ↔ current.version < offered.version :=
  decide_eq_true_iff

theorem eq_or_version_lt_trans {first second third : Snapshot}
    (h : second = first ∨ first.version < second.version)
    (h' : third = second ∨ second.version < third.version) :
    third = first ∨ first.version < third.version := by
  obtain rfl | hnewer := h
  · exact h'
  · obtain rfl | hnewest := h'
    · exact .inr hnewer
    · exact .inr (Int.lt_trans hnewer hnewest)

/-- Offers a snapshot to replace the current one: whether it does, and the one then in force. -/
def install (current offered : Snapshot) : Bool × Snapshot :=
  if offered.isNewerThan current then (true, offered) else (false, current)

/-- Why an address is refused: the description of the first list that covers it. A reserved address
is never refused. -/
def blockReason? (snapshot : Snapshot) (ip : String) : Option String :=
  if Net.isReservedText ip then none
  else
    (snapshot.blocklists.find? fun list => list.addresses.coversText ip).map Blocklist.description

def isBypassed (snapshot : Snapshot) (ip : String) : Bool := snapshot.bypassed.coversText ip

/-- Whether a user agent is refused; an empty one never is. -/
def isUserAgentBlocked (snapshot : Snapshot) (userAgent : String) : Bool :=
  !userAgent.isEmpty &&
    match snapshot.blockedUserAgents with
    | some pattern => pattern.isMatch userAgent
    | none => false

def isUserBlocked (snapshot : Snapshot) (id : String) : Bool := snapshot.blockedUsers.contains id

/-- The policies for a request, the most specific first. -/
def endpointsFor (snapshot : Snapshot) (method route : String) : List Endpoint :=
  matching snapshot.endpoints method route

def isProtectionOff (snapshot : Snapshot) (method route : String) : Bool :=
  (snapshot.endpointsFor method route).any Endpoint.protectionOff

end Snapshot

end RequestGuard.Policy
