import RequestGuard.Stats.Collector

/-!
# Entries

The collector is given one entry after the other, and each kind of entry is one of its operations.
Here an entry is a piece of data, so that it can be said of a run which entries it makes. A `Tally`
is one of the counters of requests and of attacks: it holds how many of the entries since the last
snapshot count for it (`Collector.count_enterAll`).
-/

namespace RequestGuard.Stats

/-- A call of the collector. -/
inductive Entry where
  | request
  | aborted
  | rateLimited
  | call (operation : String) (kind : AttackKind) (withContext : Bool)
  | detectorError (operation : String) (kind : AttackKind)
  | attack (operation : String) (kind : AttackKind) (blocked : Bool)
  | route (method path : String)
  | hostname (name : String) (port : Nat)
  | user (user : User) (ip : Option String)
deriving DecidableEq, Repr

inductive Tally where
  | requests
  | aborted
  | rateLimited
  | attacks
  | blockedAttacks
deriving DecidableEq, Repr

def Tally.counts : Tally → Entry → Bool
  | .requests, .request => true
  | .aborted, .aborted => true
  | .rateLimited, .rateLimited => true
  | .attacks, .attack _ _ _ => true
  | .blockedAttacks, .attack _ _ blocked => blocked
  | _, _ => false

def count (stats : Stats) : Tally → Nat
  | .requests => stats.requests.total
  | .aborted => stats.requests.aborted
  | .rateLimited => stats.requests.rateLimited
  | .attacks => stats.requests.attacks.total
  | .blockedAttacks => stats.requests.attacks.blocked

theorem count_congr {stats stats' : Stats} (h : stats.requests = stats'.requests) (tally : Tally) :
    stats.count tally = stats'.count tally := by
  cases tally <;> simp only [count, h]

@[simp] theorem count_empty (tally : Tally) : count {} tally = 0 := by
  cases tally <;> rfl

namespace Collector

def enter (collector : Collector) : Entry → Collector
  | .request => collector.request
  | .aborted => collector.aborted
  | .rateLimited => collector.rateLimited
  | .call operation kind withContext => collector.call operation kind withContext
  | .detectorError operation kind => collector.detectorError operation kind
  | .attack operation kind blocked => collector.attack operation kind blocked
  | .route method path => collector.route method path
  | .hostname name port => collector.hostname name port
  | .user user ip => collector.user user ip

def enterAll (collector : Collector) (entries : List Entry) :
    Collector := entries.foldl enter collector

@[simp] theorem enterAll_nil (collector : Collector) : collector.enterAll [] = collector := rfl

@[simp] theorem enterAll_cons (collector : Collector) (entry : Entry) (entries : List Entry) :
    collector.enterAll (entry :: entries) = (collector.enter entry).enterAll entries :=
  rfl

theorem enterAll_append (collector : Collector) (first second : List Entry) :
    collector.enterAll (first ++ second) = (collector.enterAll first).enterAll second :=
  List.foldl_append

theorem enterAll_replicate (collector : Collector) (entry : Entry) (count : Nat) :
    collector.enterAll (List.replicate count entry)
      = Nat.repeat (fun collector => collector.enter entry) count collector := by
  induction count with
  | zero => rfl
  | succ count ih =>
    rw [List.replicate_succ', enterAll_append, ih]
    rfl

theorem count_enter (collector : Collector) (entry : Entry) (tally : Tally) :
    (collector.enter entry).current.count tally
      = collector.current.count tally + if tally.counts entry then 1 else 0 := by
  cases entry with
  | request => cases tally <;> rfl
  | aborted => cases tally <;> rfl
  | rateLimited => cases tally <;> rfl
  | call => cases tally <;> rfl
  | detectorError => cases tally <;> rfl
  | attack operation kind blocked => cases tally <;> cases blocked <;> rfl
  | route => cases tally <;> rfl
  | hostname name port =>
    rw [enter, count_congr (collector.requests_hostname name port)]
    cases tally <;> rfl
  | user user ip =>
    rw [enter, count_congr (collector.requests_user user ip)]
    cases tally <;> rfl

theorem count_enterAll (collector : Collector) (entries : List Entry) (tally : Tally) :
    (collector.enterAll entries).current.count tally
      = collector.current.count tally + entries.countP tally.counts := by
  induction entries generalizing collector with
  | nil => rfl
  | cons entry entries ih =>
    rw [enterAll_cons, ih, count_enter, List.countP_cons]
    omega

end Collector

end RequestGuard.Stats
