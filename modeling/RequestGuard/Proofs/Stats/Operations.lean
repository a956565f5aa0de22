import RequestGuard.Proofs.Keyed.Updates
import RequestGuard.Proofs.Stats.Entry

/-!
# The operations in the statistics

An entry about an operation changes what is counted of that operation and of no other one. An
`OperationTally` is one of the counters of an operation: it holds how many of the entries count for
it (`operationCount_enterAll`), and the kind of the operation is that of the first entry about it
(`operationKind?_enterAll`).
-/

namespace RequestGuard.Stats

namespace Entry

/-- The operation that an entry is about, and the kind of attacks that it is checked for. -/
def operation? : Entry → Option (String × AttackKind)
  | .call operation kind _ => some (operation, kind)
  | .detectorError operation kind => some (operation, kind)
  | .attack operation kind _ => some (operation, kind)
  | _ => none

/-- What an entry makes of the statistics of the operation that it is about. -/
def change : Entry → OperationStats → OperationStats
  | .call _ _ withContext, stats =>
    { stats with
      total := stats.total + 1
      withoutContext := if withContext then stats.withoutContext else stats.withoutContext + 1 }
  | .detectorError _ _, stats => { stats with detectorErrors := stats.detectorErrors + 1 }
  | .attack _ _ blocked, stats => { stats with attacks := stats.attacks.add blocked }
  | _, stats => stats

theorem kind_change (entry : Entry) (stats : OperationStats) :
    (entry.change stats).kind = stats.kind := by
  cases entry <;> rfl

end Entry

theorem operations_enter (collector : Collector) (entry : Entry) :
    (collector.enter entry).current.operations
      = entry.operation?.elim collector.current.operations fun told =>
          Keyed.update told.1 (fun old => entry.change (old.getD { kind := told.2 }))
            collector.current.operations := by
  cases entry with
  | hostname name port => exact collector.operations_hostname name port
  | user user ip => exact collector.operations_user user ip
  | _ => rfl

theorem ordered_operations_enterAll (collector : Collector) (entries : List Entry)
    (h : Keyed.Ordered collector.current.operations) :
    Keyed.Ordered (collector.enterAll entries).current.operations := by
  induction entries generalizing collector with
  | nil => exact h
  | cons entry entries ih =>
    refine ih (collector.enter entry) ?_
    rw [operations_enter]
    cases entry.operation? with
    | none => exact h
    | some told =>
      rw [Option.elim_some]
      exact Keyed.ordered_update _ _ h

inductive OperationTally where
  | calls
  | withoutContext
  | detectorErrors
  | attacks
  | blockedAttacks
deriving DecidableEq, Repr

namespace OperationTally

def counts : OperationTally → String → Entry → Bool
  | .calls, name, .call operation _ _ => operation = name
  | .withoutContext, name, .call operation _ withContext => operation = name && !withContext
  | .detectorErrors, name, .detectorError operation _ => operation = name
  | .attacks, name, .attack operation _ _ => operation = name
  | .blockedAttacks, name, .attack operation _ blocked => operation = name && blocked
  | _, _, _ => false

def read : OperationTally → OperationStats → Nat
  | .calls, stats => stats.total
  | .withoutContext, stats => stats.withoutContext
  | .detectorErrors, stats => stats.detectorErrors
  | .attacks, stats => stats.attacks.total
  | .blockedAttacks, stats => stats.attacks.blocked

theorem eq_of_read {first second : OperationStats} (hkind : first.kind = second.kind)
    (h : ∀ tally : OperationTally, tally.read first = tally.read second) : first = second := by
  obtain ⟨kind, total, withoutContext, errors, attacks, blocked⟩ := first
  obtain ⟨kind', total', withoutContext', errors', attacks', blocked'⟩ := second
  have htotal : total = total' := h .calls
  have hwithout : withoutContext = withoutContext' := h .withoutContext
  have herrors : errors = errors' := h .detectorErrors
  have hattacks : attacks = attacks' := h .attacks
  have hblocked : blocked = blocked' := h .blockedAttacks
  subst hkind htotal hwithout herrors hattacks hblocked
  rfl

theorem read_new (tally : OperationTally) (kind : AttackKind) : tally.read { kind } = 0 := by
  cases tally <;> rfl

theorem counts_eq_false_of_ne {tally : OperationTally} {name : String} {entry : Entry}
    (h : ∀ kind, entry.operation? ≠ some (name, kind)) : tally.counts name entry = false := by
  cases entry <;> cases tally <;> simp_all [counts, Entry.operation?]

theorem read_change (tally : OperationTally) {name : String} {kind : AttackKind} {entry : Entry}
    (h : entry.operation? = some (name, kind)) (stats : OperationStats) :
    tally.read (entry.change stats)
      = tally.read stats + if tally.counts name entry then 1 else 0 := by
  cases entry with
  | call operation kind' withContext =>
    obtain ⟨rfl, -⟩ := Prod.mk.inj (Option.some.inj h)
    cases tally <;> cases withContext <;> simp [read, counts, Entry.change]
  | detectorError operation kind' =>
    obtain ⟨rfl, -⟩ := Prod.mk.inj (Option.some.inj h)
    cases tally <;> simp [read, counts, Entry.change]
  | attack operation kind' blocked =>
    obtain ⟨rfl, -⟩ := Prod.mk.inj (Option.some.inj h)
    cases tally <;> cases blocked <;> simp [read, counts, Entry.change, AttackCount.add]
  | _ => cases h

end OperationTally

def operationKind? (stats : Stats) (name : String) : Option AttackKind :=
  (Keyed.find? name stats.operations).map OperationStats.kind

def operationCount (stats : Stats) (name : String) (tally : OperationTally) : Nat :=
  (Keyed.find? name stats.operations).elim 0 tally.read

/-- The kind that the first entry about an operation gives. -/
def firstKind? (name : String) (entries : List Entry) : Option AttackKind :=
  ((entries.filterMap Entry.operation?).find? fun told => told.1 = name).map Prod.snd

theorem operationKind?_enter (collector : Collector) (entry : Entry) (name : String) :
    (collector.enter entry).current.operationKind? name
      = (collector.current.operationKind? name).or (firstKind? name [entry]) := by
  rw [operationKind?, operations_enter, operationKind?]
  cases htold : entry.operation? with
  | none => simp [firstKind?, htold]
  | some told =>
    obtain ⟨operation, kind⟩ := told
    rw [Option.elim_some, Keyed.find?_update]
    by_cases hsame : name = operation
    · subst hsame
      cases Keyed.find? name collector.current.operations
        <;> simp [firstKind?, htold, Entry.kind_change]
    · simp [firstKind?, htold, hsame, Ne.symm hsame]

theorem operationCount_enter (collector : Collector) (entry : Entry) (name : String)
    (tally : OperationTally) :
    (collector.enter entry).current.operationCount name tally
      = collector.current.operationCount name tally + if tally.counts name entry then 1 else 0 := by
  rw [operationCount, operations_enter, operationCount]
  cases htold : entry.operation? with
  | none =>
    have hother : tally.counts name entry = false :=
      OperationTally.counts_eq_false_of_ne (by simp [htold])
    simp [hother]
  | some told =>
    obtain ⟨operation, kind⟩ := told
    rw [Option.elim_some, Keyed.find?_update]
    by_cases hsame : name = operation
    · subst hsame
      rw [if_pos rfl, Option.elim_some, tally.read_change htold]
      cases Keyed.find? name collector.current.operations <;> simp [OperationTally.read_new]
    · have hother : tally.counts name entry = false :=
        OperationTally.counts_eq_false_of_ne (by simp [htold, Ne.symm hsame])
      simp [hsame, hother]

theorem operationKind?_enterAll (collector : Collector) (entries : List Entry) (name : String) :
    (collector.enterAll entries).current.operationKind? name
      = (collector.current.operationKind? name).or (firstKind? name entries) := by
  induction entries generalizing collector with
  | nil => simp [firstKind?]
  | cons entry entries ih =>
    have hfirst : firstKind? name (entry :: entries)
        = (firstKind? name [entry]).or (firstKind? name entries) := by
      rw [firstKind?, ← List.singleton_append, List.filterMap_append,
        List.find?_append, Option.map_or]
      rfl
    rw [Collector.enterAll_cons, ih, operationKind?_enter, hfirst, Option.or_assoc]

theorem operationCount_enterAll (collector : Collector) (entries : List Entry) (name : String)
    (tally : OperationTally) :
    (collector.enterAll entries).current.operationCount name tally
      = collector.current.operationCount name tally + entries.countP (tally.counts name) := by
  induction entries generalizing collector with
  | nil => rfl
  | cons entry entries ih =>
    rw [Collector.enterAll_cons, ih, operationCount_enter, List.countP_cons]
    omega

theorem mem_operations_iff {stats : Stats} (h : Keyed.Ordered stats.operations) {name : String}
    {operation : OperationStats} :
    (name, operation) ∈ stats.operations
      ↔ stats.operationKind? name = some operation.kind
        ∧ ∀ tally, stats.operationCount name tally = tally.read operation := by
  simp only [← Keyed.find?_eq_some_iff h, operationKind?, operationCount]
  cases Keyed.find? name stats.operations with
  | none => simp
  | some held =>
    simp only [Option.some.injEq, Option.map_some, Option.elim_some]
    constructor
    · rintro rfl
      exact ⟨rfl, fun _ => rfl⟩
    · rintro ⟨hkind, hread⟩
      exact OperationTally.eq_of_read hkind hread

end RequestGuard.Stats
