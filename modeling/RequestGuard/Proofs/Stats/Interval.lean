import RequestGuard.Proofs.Stats.Operations
import RequestGuard.Proofs.Stats.Tables

/-!
# What a snapshot covers

A snapshot of the statistics covers the time since the previous one: it says of the entries in
between, and of no others, how often each request counter and each counter of an operation was
moved, how often each route was completed, and, as far as the tables of limited size go, how often
each host was connected to and what is known of each user. `Stats.Covers` is this relation between
statistics and entries, table by table.
-/

namespace RequestGuard.Stats

/-- The statistics are those of some entries, with tables of limited size. All tables are in
strictly increasing order of their keys: operations by name, routes by path and method, hosts by
name and port, users by identifier. -/
structure Covers (maxUsers maxHostnames : Nat) (entries : List Entry) (stats : Stats) : Prop where
  requests (tally : Tally) : stats.count tally = entries.countP tally.counts
  operations_ordered : Keyed.Ordered stats.operations
  mem_operations_iff (name : String) (operation : OperationStats) :
    (name, operation) ∈ stats.operations
      ↔ firstKind? name entries = some operation.kind
        ∧ ∀ tally : OperationTally, tally.read operation = entries.countP (tally.counts name)
  routes_ordered : Keyed.Ordered stats.routes
  mem_routes_iff (method path : String) (hits : Nat) :
    ((path, method), hits) ∈ stats.routes ↔ 0 < hits
      ∧ hits = entries.countP (· = .route method path)
  hostnames_ordered : Keyed.Ordered stats.hostnames
  mem_hostnames_iff (name : String) (port hits : Nat) :
    ((name, port), hits) ∈ stats.hostnames
      ↔ (name, port) ∈ Keyed.firsts maxHostnames (entries.filterMap Entry.host?)
        ∧ hits = entries.countP (· = .hostname name port)
  users_ordered : Keyed.Ordered stats.users
  mem_users_iff (id : String) (user : UserStats) :
    (id, user) ∈ stats.users
      ↔ id ∈ Keyed.firsts maxUsers ((entries.filterMap Entry.visit?).map fun visit => visit.1.id)
        ∧ ((visits id entries).map fun visit => visit.1.name).getLast? = some user.name
        ∧ user.lastIp = ((visits id entries).filterMap Prod.snd).getLast?

/-- In whatever order the tables are drained: sorted by path and method, by name and port and by
identifier, their entries are the tables. -/
theorem Covers.sorted_of_drained {maxUsers maxHostnames : Nat} {entries : List Entry}
    {stats drained : Stats} (h : stats.Covers maxUsers maxHostnames entries)
    (hroutes : drained.routes.Perm stats.routes)
    (hhostnames : drained.hostnames.Perm stats.hostnames)
    (husers : drained.users.Perm stats.users) :
    (drained.routes.mergeSort fun a b => !KeyOrder.before b.1 a.1) = stats.routes
      ∧ (drained.hostnames.mergeSort fun a b => !KeyOrder.before b.1 a.1) = stats.hostnames
      ∧ (drained.users.mergeSort fun a b => !KeyOrder.before b.1 a.1) = stats.users :=
  ⟨h.routes_ordered.mergeSort_eq_of_perm hroutes,
    h.hostnames_ordered.mergeSort_eq_of_perm hhostnames,
    h.users_ordered.mergeSort_eq_of_perm husers⟩

namespace Collector

/-- Whatever the collector holds when a snapshot is taken, the next snapshot covers the entries that
follow. -/
theorem snapshot_covers_interval (collector : Collector) (entries : List Entry) :
    (collector.snapshot.2.enterAll entries).snapshot.1.Covers collector.maxUsers
      collector.maxHostnames entries where
  requests tally := by
    have hcount := collector.snapshot.2.count_enterAll entries tally
    have hnone : collector.snapshot.2.current.count tally = 0 := count_empty tally
    rw [hnone, Nat.zero_add] at hcount
    exact hcount
  operations_ordered := ordered_operations_enterAll _ _ Keyed.ordered_nil
  mem_operations_iff name operation := by
    have hordered := ordered_operations_enterAll collector.snapshot.2 entries Keyed.ordered_nil
    have hkind := operationKind?_enterAll collector.snapshot.2 entries name
    have hcount := operationCount_enterAll collector.snapshot.2 entries name
    have hnone : collector.snapshot.2.current.operationKind? name = none := rfl
    have hzero (tally : OperationTally) :
        collector.snapshot.2.current.operationCount name tally = 0 := rfl
    simp only [hnone, Option.none_or] at hkind
    simp only [hzero, Nat.zero_add] at hcount
    refine (mem_operations_iff hordered).trans ?_
    simp only [hkind, hcount, eq_comm]
  routes_ordered := by
    show Keyed.Ordered (collector.snapshot.2.enterAll entries).current.routes
    rw [routes_enterAll]
    exact Keyed.ordered_updateAll _ _ _ Keyed.ordered_nil
  mem_routes_iff := mem_routes_enterAll_iff collector entries
  hostnames_ordered := by
    show Keyed.Ordered (collector.snapshot.2.enterAll entries).current.hostnames
    rw [hostnames_enterAll]
    exact Keyed.ordered_updateAllWithin _ _ _ _
  mem_hostnames_iff := mem_hostnames_enterAll_iff collector entries
  users_ordered := by
    show Keyed.Ordered (collector.snapshot.2.enterAll entries).current.users
    rw [users_enterAll]
    exact Keyed.ordered_updateAllWithin _ _ _ _
  mem_users_iff := mem_users_enterAll_iff collector entries

/-- With room for one host and one user: the second host and the second user are refused, and all
that comes of the first ones later still counts. -/
example :
    let earlier : Collector :=
      { maxUsers := 1, maxHostnames := 1, current := { hostnames := [(("old.com", 443), 7)] } }
    let entries : List Entry :=
      [.hostname "" 443, .hostname "b.com" 443, .user ⟨"2", "Bob"⟩ (some "8.8.8.8"),
        .hostname "a.com" 443,
        .user ⟨"1", "Ann"⟩ none, .hostname "b.com" 443, .user ⟨"2", "Robert"⟩ none]
    let stats := (earlier.snapshot.2.enterAll entries).snapshot.1
    stats.hostnames = [(("b.com", 443), 2)]
      ∧ stats.users = [("2", { name := "Robert", lastIp := some "8.8.8.8" })] := by
  decide

end Collector

end RequestGuard.Stats
