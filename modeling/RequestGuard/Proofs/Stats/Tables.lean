import RequestGuard.Proofs.Keyed.Updates
import RequestGuard.Proofs.Stats.Entry

/-!
# The tables of the collector

The tables of users, hosts and routes are built by the entries that tell of them: users by the
visits of a user, hosts by the connections with a name, routes by the completed requests. What is
proved here says of each of them what it holds after a snapshot and some entries, in terms of these
entries alone. The first two tables are of limited size; that of the routes is not.
-/

namespace RequestGuard.Stats

namespace Entry

def visit? : Entry → Option (User × Option String)
  | .user visitor ip => some (visitor, ip)
  | _ => none

def host? : Entry → Option (String × Nat)
  | .hostname name port => if name.isEmpty then none else some (name, port)
  | _ => none

def route? : Entry → Option (String × String)
  | .route method path => some (path, method)
  | _ => none

end Entry

namespace Collector

theorem exists_hostname_eq (collector : Collector) (name : String) (port : Nat) :
    ∃ hostnames, collector.hostname name port
      = { collector with current := { collector.current with hostnames } } := by
  simp only [hostname]
  split
  · exact ⟨_, rfl⟩
  · split <;> exact ⟨_, rfl⟩

theorem exists_user_eq (collector : Collector) (user : User) (ip : Option String) :
    ∃ users, collector.user user ip
      = { collector with current := { collector.current with users } } := by
  simp only [Collector.user]
  split
  · exact ⟨_, rfl⟩
  · split <;> exact ⟨_, rfl⟩

theorem sizes_enter (collector : Collector) (entry : Entry) :
    (collector.enter entry).maxUsers = collector.maxUsers
      ∧ (collector.enter entry).maxHostnames = collector.maxHostnames := by
  cases entry with
  | hostname name port =>
    obtain ⟨hostnames, heq⟩ := collector.exists_hostname_eq name port
    rw [enter, heq]
    exact ⟨rfl, rfl⟩
  | user user ip =>
    obtain ⟨users, heq⟩ := collector.exists_user_eq user ip
    rw [enter, heq]
    exact ⟨rfl, rfl⟩
  | _ => exact ⟨rfl, rfl⟩

/-- What every entry changes by what it tells is changed by all that some entries tell, one after
the other. -/
theorem read_enterAll {τ α : Type} (read : Collector → τ) (tell? : Entry → Option α)
    (step : Nat → Nat → τ → α → τ)
    (h : ∀ held entry, read (enter held entry)
      = (tell? entry).elim (read held) (step held.maxUsers held.maxHostnames (read held)))
    (collector : Collector) (entries : List Entry) :
    read (collector.enterAll entries)
      = (entries.filterMap tell?).foldl (step collector.maxUsers collector.maxHostnames)
        (read collector) := by
  induction entries generalizing collector with
  | nil => rfl
  | cons entry entries ih =>
    obtain ⟨husers, hhostnames⟩ := collector.sizes_enter entry
    rw [enterAll_cons, ih, husers, hhostnames, h]
    cases htell : tell? entry with
    | none => rw [List.filterMap_cons_none htell, Option.elim_none]
    | some a => rw [List.filterMap_cons_some htell, Option.elim_some, List.foldl_cons]

end Collector

/-! ### Users -/

/-- What is known of a user after a visit. An address that is not given does not replace one. -/
def noted (visit : User × Option String) (old : Option UserStats) : UserStats where
  name := visit.1.name
  lastIp := visit.2 <|> old.bind UserStats.lastIp

theorem users_enter (collector : Collector) (entry : Entry) :
    (collector.enter entry).current.users
      = entry.visit?.elim collector.current.users fun visit =>
          Keyed.updateWithin collector.maxUsers visit.1.id (noted visit)
            collector.current.users := by
  cases entry with
  | user user ip =>
    simp only [Collector.enter, Collector.user, Entry.visit?, Option.elim_some,
      Keyed.updateWithin, Keyed.update]
    split
    · rename_i known hfind
      simp [Keyed.contains, hfind, noted]
    · rename_i hfind
      by_cases hfull : collector.maxUsers ≤ collector.current.users.length
      · simp [Keyed.contains, hfind, hfull]
      · simp [hfind, hfull, noted]
  | hostname name port =>
    obtain ⟨hostnames, heq⟩ := collector.exists_hostname_eq name port
    rw [Collector.enter, heq]
    rfl
  | _ => rfl

theorem users_enterAll (collector : Collector) (entries : List Entry) :
    (collector.snapshot.2.enterAll entries).current.users
      = Keyed.updateAllWithin collector.maxUsers
        (fun visit : User × Option String => visit.1.id) noted
          (entries.filterMap Entry.visit?) :=
  Collector.read_enterAll (fun held => held.current.users) Entry.visit?
    (fun max _ users visit => Keyed.updateWithin max visit.1.id (noted visit) users) users_enter
      collector.snapshot.2
    entries

theorem name_foldl_noted (visits : List (User × Option String)) :
    (visits.foldl (fun old visit => some (noted visit old)) none).map UserStats.name
      = (visits.map fun visit => visit.1.name).getLast? := by
  induction visits using List.reverseRecOn with
  | nil => rfl
  | append_singleton visits visit _ => simp [noted]

theorem lastIp_foldl_noted (visits : List (User × Option String)) :
    (visits.foldl (fun old visit => some (noted visit old)) none).bind UserStats.lastIp
      = (visits.filterMap Prod.snd).getLast? := by
  induction visits using List.reverseRecOn with
  | nil => rfl
  | append_singleton visits visit ih =>
    obtain ⟨user, ip⟩ := visit
    cases ip with
    | none => simpa [noted] using ih
    | some ip => simp [noted]

theorem foldl_noted_eq_some_iff {visits : List (User × Option String)} {user : UserStats} :
    visits.foldl (fun old visit => some (noted visit old)) none = some user
      ↔ (visits.map fun visit => visit.1.name).getLast? = some user.name
        ∧ user.lastIp = (visits.filterMap Prod.snd).getLast? := by
  rw [← name_foldl_noted, ← lastIp_foldl_noted]
  cases visits.foldl (fun old visit => some (noted visit old)) none with
  | none => simp
  | some known =>
    obtain ⟨name, ip⟩ := known
    obtain ⟨name', ip'⟩ := user
    simp [eq_comm]

def visits (id : String) (entries : List Entry) : List (User × Option String) :=
  (entries.filterMap Entry.visit?).filter fun visit => visit.1.id = id

theorem mem_users_enterAll_iff (collector : Collector) (entries : List Entry) (id : String)
    (user : UserStats) :
    (id, user) ∈ (collector.snapshot.2.enterAll entries).current.users
      ↔ id ∈ Keyed.firsts collector.maxUsers
        ((entries.filterMap Entry.visit?).map fun visit => visit.1.id)
        ∧ ((visits id entries).map fun visit => visit.1.name).getLast? = some user.name
        ∧ user.lastIp = ((visits id entries).filterMap Prod.snd).getLast? := by
  have hordered :=
    Keyed.ordered_updateAllWithin collector.maxUsers
      (fun visit : User × Option String => visit.1.id) noted
    (entries.filterMap Entry.visit?)
  rw [users_enterAll, ← Keyed.find?_eq_some_iff hordered, Keyed.find?_updateAllWithin,
    ← foldl_noted_eq_some_iff, visits]
  split
  · rename_i hfirst
    simp only [hfirst, true_and]
  · rename_i hlate
    simp [hlate]

def hit {α : Type} (_ : α) (hits : Option Nat) : Nat := hits.getD 0 + 1

theorem foldl_hit_some {α : Type} (calls : List α) (n : Nat) :
    calls.foldl (fun old call => some (hit call old)) (some n) = some (n + calls.length) := by
  induction calls generalizing n with
  | nil => rfl
  | cons call calls ih =>
    rw [List.foldl_cons, ih, hit, Option.getD_some, List.length_cons]
    congr 1
    omega

theorem foldl_hit_eq_some_iff {α : Type} {calls : List α} {hits : Nat} :
    calls.foldl (fun old call => some (hit call old)) none = some hits
      ↔ 0 < hits ∧ hits = calls.length := by
  cases calls with
  | nil =>
    simp only [List.foldl_nil, List.length_nil]
    constructor
    · intro h
      cases h
    · intro h
      omega
  | cons call calls =>
    rw [List.foldl_cons, foldl_hit_some, hit, Option.getD_none, List.length_cons, Option.some.injEq]
    omega

theorem length_filter_filterMap {α : Type} [DecidableEq α] {tell? : Entry → Option α} {a : α}
    {entry : Entry} (h : ∀ other, tell? other = some a ↔ other = entry) (entries : List Entry) :
    ((entries.filterMap tell?).filter fun told => told = a).length
      = entries.countP (· = entry) := by
  rw [← List.countP_eq_length_filter, List.countP_filterMap]
  refine List.countP_congr ?_
  intro other _
  rw [decide_eq_true_eq, ← h]
  cases tell? other <;> simp

/-! ### Hosts -/

theorem hostnames_enter (collector : Collector) (entry : Entry) :
    (collector.enter entry).current.hostnames
      = entry.host?.elim collector.current.hostnames fun host =>
          Keyed.updateWithin collector.maxHostnames host (hit host)
            collector.current.hostnames := by
  cases entry with
  | hostname name port =>
    simp only [Collector.enter, Collector.hostname, Entry.host?]
    by_cases hempty : name.isEmpty = true
    · simp [hempty]
    · simp only [hempty, Bool.false_eq_true, if_false, Option.elim_some, Keyed.updateWithin]
      split <;> rfl
  | user user ip =>
    obtain ⟨users, heq⟩ := collector.exists_user_eq user ip
    rw [Collector.enter, heq]
    rfl
  | _ => rfl

theorem hostnames_enterAll (collector : Collector) (entries : List Entry) :
    (collector.snapshot.2.enterAll entries).current.hostnames
      = Keyed.updateAllWithin collector.maxHostnames (fun host => host) hit
        (entries.filterMap Entry.host?) :=
  Collector.read_enterAll (fun held => held.current.hostnames) Entry.host?
    (fun _ max hostnames host => Keyed.updateWithin max host (hit host) hostnames) hostnames_enter
      collector.snapshot.2
    entries

theorem Entry.host?_eq_some_iff {entry : Entry} {name : String} {port : Nat} (h : name ≠ "") :
    entry.host? = some (name, port) ↔ entry = .hostname name port := by
  cases entry with
  | hostname other port' =>
    by_cases hempty : other = ""
    · simp [host?, hempty, Ne.symm h]
    · simp [host?, hempty]
  | _ => simp [host?]

theorem Entry.name_ne_empty {entry : Entry} {name : String} {port : Nat}
    (h : entry.host? = some (name, port)) :
    name ≠ "" := by
  cases entry with
  | hostname other port' =>
    simp only [host?, Option.ite_none_left_eq_some, Option.some.injEq, Prod.mk.injEq] at h
    obtain ⟨hname, rfl, -⟩ := h
    simpa using hname
  | _ => cases h

theorem mem_hostnames_enterAll_iff (collector : Collector) (entries : List Entry) (name : String)
    (port hits : Nat) :
    ((name, port), hits) ∈ (collector.snapshot.2.enterAll entries).current.hostnames
      ↔ (name, port) ∈ Keyed.firsts collector.maxHostnames (entries.filterMap Entry.host?)
        ∧ hits = entries.countP (· = .hostname name port) := by
  have hordered := Keyed.ordered_updateAllWithin collector.maxHostnames (fun host => host) hit
    (entries.filterMap Entry.host?)
  rw [hostnames_enterAll, ← Keyed.find?_eq_some_iff hordered,
    Keyed.find?_updateAllWithin, List.map_id']
  by_cases hfirst :
    (name, port) ∈ Keyed.firsts collector.maxHostnames (entries.filterMap Entry.host?)
  · obtain ⟨entry, hentry, hhost⟩ := List.mem_filterMap.1 (Keyed.mem_of_mem_firsts hfirst)
    have hname := Entry.name_ne_empty hhost
    have hcount : ((entries.filterMap Entry.host?).filter fun host => host = (name, port)).length
        = entries.countP (· = .hostname name port) :=
      length_filter_filterMap (fun _ => Entry.host?_eq_some_iff hname) entries
    have hpos : 0 < entries.countP (· = .hostname name port) := by
      rw [List.countP_pos_iff]
      exact ⟨entry, hentry, decide_eq_true ((Entry.host?_eq_some_iff hname).1 hhost)⟩
    rw [if_pos hfirst, foldl_hit_eq_some_iff, hcount]
    simp only [hfirst, true_and]
    omega
  · simp [hfirst]

/-! ### Routes -/

theorem routes_enter (collector : Collector) (entry : Entry) :
    (collector.enter entry).current.routes
      = entry.route?.elim collector.current.routes fun route =>
          Keyed.update route (hit route) collector.current.routes := by
  cases entry with
  | hostname name port =>
    obtain ⟨hostnames, heq⟩ := collector.exists_hostname_eq name port
    rw [Collector.enter, heq]
    rfl
  | user user ip =>
    obtain ⟨users, heq⟩ := collector.exists_user_eq user ip
    rw [Collector.enter, heq]
    rfl
  | _ => rfl

theorem routes_enterAll (collector : Collector) (entries : List Entry) :
    (collector.snapshot.2.enterAll entries).current.routes
      = Keyed.updateAll (fun route => route) hit (entries.filterMap Entry.route?) [] :=
  Collector.read_enterAll (fun held => held.current.routes) Entry.route?
    (fun _ _ routes route => Keyed.update route (hit route) routes) routes_enter
      collector.snapshot.2 entries

theorem Entry.route?_eq_some_iff {entry : Entry} {method path : String} :
    entry.route? = some (path, method) ↔ entry = .route method path := by
  cases entry with
  | route method' path' => simp [route?, and_comm]
  | _ => simp [route?]

theorem mem_routes_enterAll_iff (collector : Collector) (entries : List Entry)
    (method path : String) (hits : Nat) :
    ((path, method), hits) ∈ (collector.snapshot.2.enterAll entries).current.routes
      ↔ 0 < hits ∧ hits = entries.countP (· = .route method path) := by
  have hordered :=
    Keyed.ordered_updateAll (fun route : String × String => route) hit
      (entries.filterMap Entry.route?)
    Keyed.ordered_nil
  have hcount : ((entries.filterMap Entry.route?).filter fun route => route = (path, method)).length
      = entries.countP (· = .route method path) :=
    length_filter_filterMap (fun _ => Entry.route?_eq_some_iff) entries
  rw [routes_enterAll, ← Keyed.find?_eq_some_iff hordered, Keyed.find?_updateAll, Keyed.find?,
    foldl_hit_eq_some_iff, hcount]

end RequestGuard.Stats
