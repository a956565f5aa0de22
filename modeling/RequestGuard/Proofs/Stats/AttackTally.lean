import RequestGuard.Proofs.Agent.Frame
import RequestGuard.Proofs.Stats.Entry

/-!
# The counters of attacks

The statistics count attacks four times: of all operations and of each one, all of them and the
blocked ones apart. An `AttackTally` is one of these counters, and of all entries only those of
attacks move it (`Collector.attackCount_enterAll`).
-/

namespace RequestGuard.Stats

/-- A counter of attacks: of one operation if it is given, and of the blocked ones only or of
all. -/
structure AttackTally where
  operation : Option String := none
  blockedOnly : Bool := false
deriving DecidableEq, Repr

namespace AttackTally

/-- Whether an attack at an operation moves the counter. -/
def selects (tally : AttackTally) (operation : String) (blocked : Bool) : Bool :=
  tally.operation.all (· == operation) && (!tally.blockedOnly || blocked)

def counts (tally : AttackTally) (attack : Attack) :
    Bool := tally.selects attack.operation attack.blocked

def countsEntry (tally : AttackTally) : Entry → Bool
  | .attack operation _ blocked => tally.selects operation blocked
  | _ => false

/-- What the counter reads of two numbers. -/
def read (tally : AttackTally) (count : AttackCount) :
    Nat := if tally.blockedOnly then count.blocked else count.total

end AttackTally

def attackCount (stats : Stats) (tally : AttackTally) : Nat :=
  tally.read (tally.operation.elim stats.requests.attacks stats.attacksAt)

theorem AttackTally.read_add (tally : AttackTally) (count : AttackCount) (blocked : Bool) :
    tally.read (count.add blocked)
      = tally.read count + if !tally.blockedOnly || blocked then 1 else 0 := by
  rw [read, read, AttackCount.add]
  cases tally.blockedOnly <;> cases blocked <;> rfl

@[simp] theorem attackCount_empty (tally : AttackTally) : attackCount {} tally = 0 := by
  obtain ⟨operation, blockedOnly⟩ := tally
  cases operation <;> cases blockedOnly <;> rfl

theorem attackCount_congr {stats stats' : Stats} (hrequests : stats'.requests = stats.requests)
    (hoperations : ∀ operation, stats'.attacksAt operation = stats.attacksAt operation)
    (tally : AttackTally) :
    stats'.attackCount tally = stats.attackCount tally := by
  rw [attackCount, attackCount, hrequests, funext hoperations]

theorem attacksAt_addAttack (stats : Stats) (operation other : String) (kind : AttackKind)
    (blocked : Bool) :
    (stats.updateOperation operation kind
      fun old => { old with attacks := old.attacks.add blocked }).attacksAt other
      = if other = operation then (stats.attacksAt other).add blocked
        else stats.attacksAt other := by
  rw [attacksAt, updateOperation, Keyed.find?_update, attacksAt]
  split
  · rename_i hsame
    subst hsame
    cases Keyed.find? other stats.operations <;> rfl
  · rfl

namespace Collector

theorem attackCount_attack (collector : Collector) (operation : String) (kind : AttackKind)
    (blocked : Bool) (tally : AttackTally) :
    (collector.attack operation kind blocked).current.attackCount tally
      = collector.current.attackCount tally + if tally.selects operation blocked then 1 else 0 := by
  have hattacks (other : String) : (collector.attack operation kind blocked).current.attacksAt other
      = if other = operation then (collector.current.attacksAt other).add blocked
        else collector.current.attacksAt other :=
    attacksAt_addAttack _ _ _ _ _
  have hrequests : (collector.attack operation kind blocked).current.requests.attacks
      = collector.current.requests.attacks.add blocked := rfl
  rw [attackCount, attackCount, AttackTally.selects]
  cases tally.operation with
  | none => exact hrequests ▸ tally.read_add _ blocked
  | some other =>
    simp only [Option.elim_some, Option.all_some, hattacks, beq_iff_eq, Bool.and_eq_true]
    by_cases hsame : other = operation
    · simp only [hsame, if_true, true_and]
      exact tally.read_add _ blocked
    · simp only [hsame, if_false, false_and, Nat.add_zero]

theorem attackCount_updateOperation (collector : Collector) (operation : String)
    (kind : AttackKind) {change : OperationStats → OperationStats}
    (hchange : ∀ old, (change old).attacks = old.attacks) (tally : AttackTally) :
    (collector.updateOperation operation kind change).current.attackCount tally
      = collector.current.attackCount tally := by
  refine attackCount_congr ?_ (fun other => ?_) tally
  · rfl
  · exact Agent.attacksAt_updateOperation collector.current operation other kind hchange

theorem attackCount_hostname (collector : Collector) (name : String) (port : Nat)
    (tally : AttackTally) :
    (collector.hostname name port).current.attackCount tally
      = collector.current.attackCount tally := by
  refine attackCount_congr (collector.requests_hostname name port) (fun operation => ?_) tally
  rw [attacksAt, operations_hostname, attacksAt]

theorem attackCount_user (collector : Collector) (user : User) (ip : Option String)
    (tally : AttackTally) :
    (collector.user user ip).current.attackCount tally = collector.current.attackCount tally := by
  refine attackCount_congr (collector.requests_user user ip) (fun operation => ?_) tally
  rw [attacksAt, operations_user, attacksAt]

theorem attackCount_enter (collector : Collector) (entry : Entry) (tally : AttackTally) :
    (collector.enter entry).current.attackCount tally
      = collector.current.attackCount tally + if tally.countsEntry entry then 1 else 0 := by
  cases entry with
  | attack operation kind blocked => exact collector.attackCount_attack operation kind blocked tally
  | call operation kind withContext =>
    refine collector.attackCount_updateOperation operation kind ?_ tally
    exact fun _ => rfl
  | detectorError operation kind =>
    refine collector.attackCount_updateOperation operation kind ?_ tally
    exact fun _ => rfl
  | hostname name port => exact collector.attackCount_hostname name port tally
  | user user ip => exact collector.attackCount_user user ip tally
  | request | aborted | rateLimited | route => rfl

theorem attackCount_enterAll (collector : Collector) (entries : List Entry) (tally : AttackTally) :
    (collector.enterAll entries).current.attackCount tally
      = collector.current.attackCount tally + entries.countP tally.countsEntry := by
  induction entries generalizing collector with
  | nil => rfl
  | cons entry entries ih =>
    rw [enterAll_cons, ih, attackCount_enter, List.countP_cons]
    omega

end Collector

end RequestGuard.Stats
