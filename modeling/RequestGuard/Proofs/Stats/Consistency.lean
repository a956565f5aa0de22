import Mathlib.Algebra.Order.BigOperators.Group.List
import Mathlib.Algebra.Order.Group.Nat
import RequestGuard.Proofs.Stats.Operations

/-!
# Statistics that fit together

The counters of the statistics are not independent: no more requests are limited than aborted, and
no more aborted than made; no more attacks are blocked than detected; and the attacks of all
requests are those of all operations together. `Stats.Consistent` lists these relations. Each entry
keeps those about operations and attacks, whatever entry it is (`Balanced.enter`). The order of
requests is not kept by each entry but by entries that come together, as those of a decision do.
-/

namespace RequestGuard

/-- What is counted of an operation fits together. -/
structure OperationStats.Sound (operation : OperationStats) : Prop where
  withoutContext_le : operation.withoutContext ≤ operation.total
  blocked_le : operation.attacks.blocked ≤ operation.attacks.total

namespace Stats

/-- The relations about operations and attacks. Each operation is listed once, so that a sum over
the list is one over all operations. -/
structure Balanced (stats : Stats) : Prop where
  ordered : Keyed.Ordered stats.operations
  sound {name : String} {operation : OperationStats} (h : (name, operation) ∈ stats.operations) :
    operation.Sound
  sum_attacks : (stats.operations.map fun held => held.2.attacks.total).sum
    = stats.requests.attacks.total
  sum_blocked : (stats.operations.map fun held => held.2.attacks.blocked).sum
    = stats.requests.attacks.blocked

/-- The relations between the counters of the statistics. -/
structure Consistent (stats : Stats) : Prop extends Balanced stats where
  rateLimited_le : stats.requests.rateLimited ≤ stats.requests.aborted
  aborted_le : stats.requests.aborted ≤ stats.requests.total
  blocked_le : stats.requests.attacks.blocked ≤ stats.requests.attacks.total

theorem sound_change {operation : OperationStats} (h : operation.Sound) (entry : Entry) :
    (entry.change operation).Sound := by
  obtain ⟨hcontext, hblocked⟩ := h
  cases entry with
  | call _ _ withContext =>
    refine ⟨?_, hblocked⟩
    cases withContext <;> simp [Entry.change] <;> omega
  | attack _ _ blocked =>
    refine ⟨hcontext, ?_⟩
    cases blocked <;> simp [Entry.change, AttackCount.add] <;> omega
  | _ => exact ⟨hcontext, hblocked⟩

theorem sum_operations_enter {collector : Collector}
    (h : Keyed.Ordered collector.current.operations) (entry : Entry) (tally : OperationTally) :
    ((collector.enter entry).current.operations.map fun held => tally.read held.2).sum
      = (collector.current.operations.map fun held => tally.read held.2).sum
        + if entry.operation?.any fun told => tally.counts told.1 entry then 1 else 0 := by
  rw [operations_enter]
  cases htold : entry.operation? with
  | none => rfl
  | some told =>
    have hsum := Keyed.sum_insert h tally.read told.1
      (entry.change ((Keyed.find? told.1 collector.current.operations).getD { kind := told.2 }))
    rw [tally.read_change htold] at hsum
    rw [Option.elim_some, Keyed.update, Option.any_some]
    cases hfind : Keyed.find? told.1 collector.current.operations with
    | none =>
      rw [hfind] at hsum
      simp only [Option.elim_none, Option.getD_none, OperationTally.read_new] at hsum ⊢
      omega
    | some old =>
      rw [hfind] at hsum
      simp only [Option.elim_some, Option.getD_some] at hsum ⊢
      omega

theorem sum_eq_count_enter {collector : Collector}
    (h : Keyed.Ordered collector.current.operations) (entry : Entry) {tally : OperationTally}
    {whole : Tally}
    (hcounts : ∀ entry : Entry, whole.counts entry
      = entry.operation?.any fun told => tally.counts told.1 entry)
    (hsum : (collector.current.operations.map fun held => tally.read held.2).sum
      = collector.current.count whole) :
    ((collector.enter entry).current.operations.map fun held => tally.read held.2).sum
      = (collector.enter entry).current.count whole := by
  rw [sum_operations_enter h, collector.count_enter, hsum, hcounts]

theorem attacks_counts_eq (entry : Entry) :
    Tally.attacks.counts entry = entry.operation?.any
      fun told => OperationTally.attacks.counts told.1 entry := by
  cases entry <;> simp [Tally.counts, OperationTally.counts, Entry.operation?]

theorem blockedAttacks_counts_eq (entry : Entry) :
    Tally.blockedAttacks.counts entry
      = entry.operation?.any fun told => OperationTally.blockedAttacks.counts told.1 entry := by
  cases entry <;> simp [Tally.counts, OperationTally.counts, Entry.operation?]

theorem balanced_empty : Balanced {} where
  ordered := Keyed.ordered_nil
  sound h := by cases h
  sum_attacks := rfl
  sum_blocked := rfl

theorem Balanced.enter {collector : Collector} (h : collector.current.Balanced) (entry : Entry) :
    (collector.enter entry).current.Balanced where
  ordered := ordered_operations_enterAll collector [entry] h.ordered
  sound := by
    intro name operation hmem
    rw [operations_enter] at hmem
    cases htold : entry.operation? with
    | none =>
      rw [htold] at hmem
      exact h.sound hmem
    | some told =>
      rw [htold] at hmem
      rcases Keyed.mem_insert hmem with hnew | hold
      · obtain ⟨rfl, rfl⟩ := Prod.mk.inj hnew
        refine sound_change ?_ entry
        cases hfind : Keyed.find? told.1 collector.current.operations with
        | none => exact ⟨Nat.le_refl _, Nat.le_refl _⟩
        | some old => exact h.sound (Keyed.mem_of_find? hfind)
      · exact h.sound hold
  sum_attacks := sum_eq_count_enter h.ordered entry attacks_counts_eq h.sum_attacks
  sum_blocked := sum_eq_count_enter h.ordered entry blockedAttacks_counts_eq h.sum_blocked

theorem Balanced.enterAll {collector : Collector} (h : collector.current.Balanced)
    (entries : List Entry) :
    (collector.enterAll entries).current.Balanced := by
  induction entries generalizing collector with
  | nil => exact h
  | cons entry entries ih => exact ih (h.enter entry)

theorem Balanced.blocked_le {stats : Stats} (h : stats.Balanced) :
    stats.requests.attacks.blocked ≤ stats.requests.attacks.total := by
  rw [← h.sum_attacks, ← h.sum_blocked]
  exact List.sum_le_sum fun entry hentry => (h.sound hentry).blocked_le

/-- Of entries that come together, no more say that a request was limited than that one was aborted,
and no more say that one was aborted than that there was one. -/
structure Nested (entries : List Entry) : Prop where
  rateLimited_le : entries.countP Tally.rateLimited.counts ≤ entries.countP Tally.aborted.counts
  aborted_le : entries.countP Tally.aborted.counts ≤ entries.countP Tally.requests.counts

theorem nested_of_not_mem {entries : List Entry} (haborted : Entry.aborted ∉ entries)
    (hlimited : Entry.rateLimited ∉ entries) : Nested entries := by
  have hnone : entries.countP Tally.aborted.counts = 0 := by
    refine List.countP_eq_zero.2 fun entry hmem hcounts => ?_
    cases entry with
    | aborted => exact haborted hmem
    | _ => cases hcounts
  have hnone' : entries.countP Tally.rateLimited.counts = 0 := by
    refine List.countP_eq_zero.2 fun entry hmem hcounts => ?_
    cases entry with
    | rateLimited => exact hlimited hmem
    | _ => cases hcounts
  constructor <;> omega

theorem consistent_empty : Consistent {} where
  toBalanced := balanced_empty
  rateLimited_le := Nat.le_refl _
  aborted_le := Nat.le_refl _
  blocked_le := Nat.le_refl _

theorem Consistent.enterAll {collector : Collector} (h : collector.current.Consistent)
    {entries : List Entry} (hentries : Nested entries) :
    (collector.enterAll entries).current.Consistent where
  toBalanced := h.toBalanced.enterAll entries
  rateLimited_le := by
    have haborted := collector.count_enterAll entries .aborted
    have hlimited := collector.count_enterAll entries .rateLimited
    have hold := h.rateLimited_le
    have hnew := hentries.rateLimited_le
    simp only [count] at haborted hlimited
    omega
  aborted_le := by
    have hrequests := collector.count_enterAll entries .requests
    have haborted := collector.count_enterAll entries .aborted
    have hold := h.aborted_le
    have hnew := hentries.aborted_le
    simp only [count] at hrequests haborted
    omega
  blocked_le := (h.toBalanced.enterAll entries).blocked_le

end Stats

end RequestGuard
