import RequestGuard.Attack.Kind
import RequestGuard.Json.Value

/-!
# Statistics

What is counted between two reports to the control plane: requests, calls of operations, completed
routes, outbound hosts and users, each table in the order of its keys.
-/

namespace RequestGuard

open Json (Value)

/-- How many attacks were detected, and how many of them blocked. -/
structure AttackCount where
  total : Nat := 0
  blocked : Nat := 0
deriving DecidableEq, Repr

structure RequestStats where
  total : Nat := 0
  aborted : Nat := 0
  rateLimited : Nat := 0
  attacks : AttackCount := {}
deriving DecidableEq, Repr

/-- What is counted of the calls of an operation. The kind is that of the first call. -/
structure OperationStats where
  kind : AttackKind
  total : Nat := 0
  withoutContext : Nat := 0
  detectorErrors : Nat := 0
  attacks : AttackCount := {}
deriving DecidableEq, Repr

/-- What is known of a user: the latest name and the latest address. -/
structure UserStats where
  name : String
  lastIp : Option String
deriving DecidableEq, Repr

/-- The statistics of some time. Routes are by path and method, hosts by name and port, users by
identifier. -/
structure Stats where
  requests : RequestStats := {}
  operations : List (String × OperationStats) := []
  routes : List ((String × String) × Nat) := []
  hostnames : List ((String × Nat) × Nat) := []
  users : List (String × UserStats) := []
deriving DecidableEq, Repr

def AttackCount.add (count : AttackCount) (blocked : Bool) : AttackCount where
  total := count.total + 1
  blocked := if blocked then count.blocked + 1 else count.blocked

namespace Stats

def updateOperation (stats : Stats) (operation : String) (kind : AttackKind)
    (change : OperationStats → OperationStats) : Stats :=
  { stats with
    operations :=
      Keyed.update operation (fun old => change (old.getD { kind })) stats.operations }

def attacksToJson (count : AttackCount) : Value :=
  .ofMembers [("total", .ofNat count.total), ("blocked", .ofNat count.blocked)]

def requestsToJson (stats : RequestStats) : Value :=
  .ofMembers
    [("total", .ofNat stats.total), ("aborted", .ofNat stats.aborted),
      ("rateLimited", .ofNat stats.rateLimited), ("attacksDetected", attacksToJson stats.attacks)]

def operationToJson (stats : OperationStats) : Value :=
  .ofMembers
    [("kind", .string stats.kind.name), ("total", .ofNat stats.total),
      ("withoutContext", .ofNat stats.withoutContext),
      ("detectorErrors", .ofNat stats.detectorErrors),
      ("attacksDetected", attacksToJson stats.attacks)]

def toJson (stats : Stats) : Value :=
  .ofMembers
    [("requests", requestsToJson stats.requests),
      ("operations", .object (stats.operations.map fun (name, op) => (name, operationToJson op))),
      ("routes", .array (stats.routes.map fun ((path, method), hits) =>
        .ofMembers
          [("method", .string method), ("path", .string path), ("hits", .ofNat hits)])),
      ("hostnames", .array (stats.hostnames.map fun ((hostname, port), hits) =>
        .ofMembers
          [("hostname", .string hostname), ("port", .ofNat port), ("hits", .ofNat hits)])),
      ("users", .array (stats.users.map fun (id, user) =>
        .ofMembers
          [("id", .string id), ("name", .string user.name),
            ("lastIpAddress", .ofOption .string user.lastIp)]))]

end Stats

end RequestGuard
