import RequestGuard.Proofs.Stats.Tables

/-!
# How large the tables grow

Between two snapshots the tables of users and of hosts grow up to their sizes. The table of routes
has no size: it holds every route that was completed, and it can be made as large as one likes,
whatever the sizes of the other tables are.
-/

namespace RequestGuard.Stats.Collector

/-- A use of the collector: an entry, or a snapshot is taken. -/
inductive Step where
  | enter (entry : Entry)
  | takeSnapshot
deriving DecidableEq, Repr

def perform (collector : Collector) : Step → Collector
  | .enter entry => collector.enter entry
  | .takeSnapshot => collector.snapshot.2

def performAll (collector : Collector) (steps : List Step) :
    Collector := steps.foldl perform collector

def sinceSnapshot (steps : List Step) : List Entry :=
  steps.foldl
    (fun entries step =>
      match step with
      | .enter entry => entries ++ [entry]
      | .takeSnapshot => [])
    []

theorem performAll_concat (collector : Collector) (steps : List Step) (step : Step) :
    collector.performAll (steps ++ [step]) = (collector.performAll steps).perform step :=
  List.foldl_concat ..

theorem performAll_enter (collector : Collector) (entries : List Entry) :
    collector.performAll (entries.map .enter) = collector.enterAll entries :=
  List.foldl_map ..

theorem snapshot_enterAll (collector : Collector) (entries : List Entry) :
    (collector.enterAll entries).snapshot.2 = collector.snapshot.2 := by
  induction entries generalizing collector with
  | nil => rfl
  | cons entry entries ih =>
    obtain ⟨husers, hhostnames⟩ := collector.sizes_enter entry
    rw [enterAll_cons, ih, snapshot, snapshot, husers, hhostnames]

/-- Of all that was done only the entries since the last snapshot count. -/
theorem performAll_snapshot (collector : Collector) (steps : List Step) :
    collector.snapshot.2.performAll steps
      = collector.snapshot.2.enterAll (sinceSnapshot steps) := by
  induction steps using List.reverseRecOn with
  | nil => rfl
  | append_singleton steps step ih =>
    rw [performAll_concat, ih]
    cases step with
    | enter entry =>
      have hlast : sinceSnapshot (steps ++ [.enter entry]) = sinceSnapshot steps ++ [entry] :=
        List.foldl_concat ..
      rw [hlast, enterAll_append]
      rfl
    | takeSnapshot =>
      have hlast : sinceSnapshot (steps ++ [.takeSnapshot]) = [] := List.foldl_concat ..
      rw [hlast]
      exact collector.snapshot.2.snapshot_enterAll (sinceSnapshot steps)

theorem length_routes_enterAll (collector : Collector) (entries : List Entry) :
    (collector.snapshot.2.enterAll entries).current.routes.length
      = (Keyed.distinct (entries.filterMap Entry.route?)).length := by
  rw [routes_enterAll, Keyed.length_updateAll, List.map_id']

/-- Whatever is done with a new collector, the tables hold as many users and as many hosts as came
since the last snapshot, up to the sizes of these tables, and all the routes that came. -/
theorem length_tables_performAll (maxUsers maxHostnames : Nat) (steps : List Step) :
    let stats := (performAll { maxUsers, maxHostnames } steps).current
    let entries := sinceSnapshot steps
    stats.users.length
        = min maxUsers (Keyed.distinct
          ((entries.filterMap Entry.visit?).map fun visit => visit.1.id)).length
      ∧ stats.hostnames.length
        = min maxHostnames (Keyed.distinct (entries.filterMap Entry.host?)).length
      ∧ stats.routes.length = (Keyed.distinct (entries.filterMap Entry.route?)).length := by
  intro stats entries
  let fresh : Collector := { maxUsers, maxHostnames }
  have hstats : stats = (fresh.snapshot.2.enterAll entries).current :=
    congrArg Collector.current (fresh.performAll_snapshot steps)
  rw [hstats]
  refine ⟨?_, ?_, fresh.length_routes_enterAll entries⟩
  · rw [users_enterAll, Keyed.length_updateAllWithin, Keyed.length_firsts]
  · rw [hostnames_enterAll, Keyed.length_updateAllWithin, Keyed.length_firsts, List.map_id']

def manyRoutes (count : Nat) : List Entry :=
  (List.range count).map fun length => .route "GET" (String.ofList (List.replicate length 'a'))

theorem length_routes_manyRoutes (collector : Collector) (count : Nat) :
    (collector.snapshot.2.enterAll (manyRoutes count)).current.routes.length = count := by
  let route (length : Nat) : String × String := (String.ofList (List.replicate length 'a'), "GET")
  have hroutes : (manyRoutes count).filterMap Entry.route? = (List.range count).map route := by
    rw [manyRoutes, List.filterMap_map, ← List.filterMap_eq_map]
    rfl
  have hnodup : ((List.range count).map route).Nodup := by
    refine List.nodup_range.map ?_
    intro first second hsame
    have hpath := String.ofList_injective (Prod.mk.inj hsame).1
    simpa using congrArg List.length hpath
  have hdistinct :
      (Keyed.distinct ((List.range count).map route)).Perm ((List.range count).map route) := by
    rw [List.perm_ext_iff_of_nodup (Keyed.nodup_distinct _) hnodup]
    exact fun _ => Keyed.mem_distinct
  rw [length_routes_enterAll, hroutes, hdistinct.length_eq, List.length_map, List.length_range]

/-- There is no bound on all three tables that depends on the sizes alone: one more route than the
bound is too many. -/
theorem tables_unbounded :
    ¬ ∃ bound : Nat → Nat → Nat, ∀ (maxUsers maxHostnames : Nat) (steps : List Step),
      let stats := (performAll { maxUsers, maxHostnames } steps).current
      stats.users.length ≤ bound maxUsers maxHostnames
        ∧ stats.hostnames.length ≤ bound maxUsers maxHostnames
        ∧ stats.routes.length ≤ bound maxUsers maxHostnames := by
  rintro ⟨bound, hbound⟩
  let fresh : Collector := { maxUsers := 1, maxHostnames := 1 }
  obtain ⟨-, -, hroutes⟩ := hbound 1 1 ((manyRoutes (bound 1 1 + 1)).map .enter)
  have hmany := fresh.length_routes_manyRoutes (bound 1 1 + 1)
  rw [performAll_enter] at hroutes
  change (fresh.snapshot.2.enterAll (manyRoutes (bound 1 1 + 1))).current.routes.length
    ≤ bound 1 1 at hroutes
  omega

end RequestGuard.Stats.Collector
