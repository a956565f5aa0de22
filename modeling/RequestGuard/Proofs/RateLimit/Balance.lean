import Mathlib.Algebra.GroupWithZero.Nat
import RequestGuard.RateLimit.Counter

/-!
# Counters that are in balance

The total of a counter stays the sum of its numbers, and there are never more of them than the window
has minutes (`Counter.Balanced`), whatever is counted and however the minutes pass. Read from the
current minute back, the numbers are a list that gets a new head with each minute and is cut off at
the length of the window (`Counter.Balanced.minutes_advance`).
-/

namespace RequestGuard.RateLimit.Counter

/-- The requests of each minute, the current one first. -/
def minutes (counter : Counter) : List Nat := counter.buckets.reverse

/-- The total is that of the minutes kept, of which there are no more than the window has. -/
structure Balanced (window : Nat) (counter : Counter) : Prop where
  total_eq : counter.total = counter.buckets.sum
  ne_nil : counter.buckets ≠ []
  length_le : counter.buckets.length ≤ window

variable {window : Nat} {counter : Counter}

theorem Balanced.total_eq_sum_minutes (h : counter.Balanced window) :
    counter.total = counter.minutes.sum := by
  rw [h.total_eq, minutes, List.sum_reverse]

theorem Balanced.length_minutes_le (h : counter.Balanced window) :
    counter.minutes.length ≤ window := by
  rw [minutes, List.length_reverse]
  exact h.length_le

theorem balanced_fresh (h : 0 < window) : ({} : Counter).Balanced window :=
  ⟨rfl, List.cons_ne_nil _ _, h⟩

theorem Balanced.eq_concat (h : counter.Balanced window) :
    ∃ past current, counter.buckets = past ++ [current] :=
  ⟨counter.buckets.dropLast, counter.buckets.getLast h.ne_nil,
    (List.dropLast_concat_getLast h.ne_nil).symm⟩

theorem buckets_increment {past : List Nat} {current : Nat}
    (h : counter.buckets = past ++ [current]) :
    counter.increment.buckets = past ++ [current + 1] := by
  simp [increment, h]

theorem Balanced.increment (h : counter.Balanced window) : counter.increment.Balanced window := by
  obtain ⟨past, current, hbuckets⟩ := h.eq_concat
  have hnext := buckets_increment hbuckets
  have htotal : counter.increment.total = counter.total + 1 := rfl
  refine ⟨?_, by simp [hnext], ?_⟩
  · rw [htotal, h.total_eq, hbuckets, hnext, List.sum_append_nat, List.sum_append_nat]
    simp only [List.sum_cons, List.sum_nil]
    omega
  · have hlength := h.length_le
    rw [hbuckets, List.length_append] at hlength
    rw [hnext, List.length_append]
    exact hlength

theorem Balanced.minutes_increment (h : counter.Balanced window) :
    ∃ current past, counter.minutes = current :: past
      ∧ counter.increment.minutes = (current + 1) :: past := by
  obtain ⟨past, current, hbuckets⟩ := h.eq_concat
  refine ⟨current, past.reverse, ?_, ?_⟩
  · rw [minutes, hbuckets, List.reverse_concat]
  · rw [minutes, buckets_increment hbuckets, List.reverse_concat]

theorem Balanced.total_dropOldest (h : counter.Balanced window) :
    (counter.dropOldest window).total = (counter.dropOldest window).buckets.sum := by
  obtain ⟨oldest, later, hbuckets⟩ := List.exists_cons_of_ne_nil h.ne_nil
  have htotal := h.total_eq
  rw [hbuckets, List.sum_cons] at htotal
  simp only [dropOldest, hbuckets]
  split
  · simp only [htotal]
    omega
  · exact h.total_eq

/-- A window has room for a new minute when the oldest one has gone: of the others the latest are
kept. -/
theorem Balanced.buckets_dropOldest (h : counter.Balanced window) :
    (counter.dropOldest window).buckets = (counter.minutes.take (window - 1)).reverse := by
  obtain ⟨oldest, later, hbuckets⟩ := List.exists_cons_of_ne_nil h.ne_nil
  have hlength := h.length_le
  rw [hbuckets, List.length_cons] at hlength
  rw [minutes, hbuckets, List.reverse_cons, dropOldest, hbuckets]
  by_cases hfull : window ≤ later.length + 1
  · obtain rfl : window = later.length + 1 := by omega
    simp
  · rw [List.take_of_length_le (by simp; omega)]
    simp [hbuckets, hfull]

theorem Balanced.advance (h : counter.Balanced window) :
    (counter.advance window).Balanced window := by
  have hpos : 0 < window := Nat.lt_of_lt_of_le (List.length_pos_iff.2 h.ne_nil) h.length_le
  refine ⟨?_, by simp [Counter.advance], ?_⟩
  · have htotal : (counter.advance window).total = (counter.dropOldest window).total := rfl
    rw [htotal, h.total_dropOldest]
    simp [Counter.advance]
  · simp only [Counter.advance, h.buckets_dropOldest, List.length_append, List.length_reverse,
      List.length_take, List.length_singleton]
    omega

/-- A new minute comes first, and none is kept that the window does not reach. -/
theorem Balanced.minutes_advance (h : counter.Balanced window) :
    (counter.advance window).minutes = 0 :: counter.minutes.take (window - 1) := by
  rw [minutes, Counter.advance, List.reverse_concat, h.buckets_dropOldest, List.reverse_reverse]

end RequestGuard.RateLimit.Counter
