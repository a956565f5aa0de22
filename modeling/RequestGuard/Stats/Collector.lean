import RequestGuard.Request.User
import RequestGuard.Stats.Basic

/-!
# Collecting statistics

The collector counts what happens since the last snapshot. The tables of users and of hosts take no
new entries once they are full.
-/

namespace RequestGuard.Stats

/-- The statistics since the last snapshot, with the sizes of the tables. -/
structure Collector where
  maxUsers : Nat
  maxHostnames : Nat
  current : Stats := {}
deriving DecidableEq, Repr

namespace Collector

def updateRequests (collector : Collector) (change : RequestStats → RequestStats) : Collector :=
  { collector with
    current := { collector.current with requests := change collector.current.requests } }

def request (collector : Collector) : Collector :=
  collector.updateRequests fun stats => { stats with total := stats.total + 1 }

def aborted (collector : Collector) : Collector :=
  collector.updateRequests fun stats => { stats with aborted := stats.aborted + 1 }

def rateLimited (collector : Collector) : Collector :=
  collector.updateRequests fun stats => { stats with rateLimited := stats.rateLimited + 1 }

def updateOperation (collector : Collector) (operation : String) (kind : AttackKind)
    (change : OperationStats → OperationStats) : Collector :=
  { collector with current := collector.current.updateOperation operation kind change }

def call (collector : Collector) (operation : String) (kind : AttackKind) (withContext : Bool) :
    Collector :=
  collector.updateOperation operation kind fun stats =>
    { stats with
      total := stats.total + 1
      withoutContext := if withContext then stats.withoutContext else stats.withoutContext + 1 }

/-- Counts an input that a detector could not judge. -/
def detectorError (collector : Collector) (operation : String) (kind : AttackKind) : Collector :=
  collector.updateOperation operation kind fun stats =>
    { stats with detectorErrors := stats.detectorErrors + 1 }

def attack (collector : Collector) (operation : String) (kind : AttackKind) (blocked : Bool) :
    Collector :=
  let counted := collector.updateRequests fun stats =>
    { stats with attacks := stats.attacks.add blocked }
  counted.updateOperation operation kind fun stats =>
    { stats with attacks := stats.attacks.add blocked }

def route (collector : Collector) (method path : String) : Collector :=
  { collector with
    current :=
      { collector.current with
        routes :=
          Keyed.update (path, method) (fun hits => hits.getD 0 + 1) collector.current.routes } }

/-- Counts a connection to a host, unless its name is empty or the table is full. -/
def hostname (collector : Collector) (name : String) (port : Nat) : Collector :=
  let table := collector.current.hostnames
  if name.isEmpty then collector
  else if !Keyed.contains (name, port) table && collector.maxHostnames ≤ table.length then collector
  else
    { collector with
      current :=
        { collector.current with
          hostnames := Keyed.update (name, port) (fun hits => hits.getD 0 + 1) table } }

/-- Takes note of a user and of the address of the user, unless the table is full. -/
def user (collector : Collector) (user : User) (ip : Option String) : Collector :=
  let table := collector.current.users
  let put (stats : UserStats) : Collector :=
    { collector with
      current := { collector.current with users := Keyed.insert user.id stats table } }
  match Keyed.find? user.id table with
  | some known => put { name := user.name, lastIp := ip <|> known.lastIp }
  | none =>
    if collector.maxUsers ≤ table.length then collector
    else put { name := user.name, lastIp := ip }

/-- The statistics since the last snapshot; the collector starts over. The tables come in the order
of their keys, routes by path and then method. They are held in this order, so that nothing is left
to sort: draining the tables in any order and sorting the entries by their keys gives the same
statistics (`Stats.Covers.sorted_of_drained`). -/
def snapshot (collector : Collector) : Stats × Collector :=
  (collector.current, { collector with current := {} })

theorem requests_hostname (collector : Collector) (name : String) (port : Nat) :
    (collector.hostname name port).current.requests = collector.current.requests := by
  unfold hostname
  dsimp only
  split
  · rfl
  · split <;> rfl

theorem requests_user (collector : Collector) (user : User) (ip : Option String) :
    (collector.user user ip).current.requests = collector.current.requests := by
  unfold Collector.user
  dsimp only
  split
  · rfl
  · split <;> rfl

theorem operations_hostname (collector : Collector) (name : String) (port : Nat) :
    (collector.hostname name port).current.operations = collector.current.operations := by
  unfold hostname
  dsimp only
  split
  · rfl
  · split <;> rfl

theorem operations_user (collector : Collector) (user : User) (ip : Option String) :
    (collector.user user ip).current.operations = collector.current.operations := by
  unfold Collector.user
  dsimp only
  split
  · rfl
  · split <;> rfl

end Collector

end RequestGuard.Stats
