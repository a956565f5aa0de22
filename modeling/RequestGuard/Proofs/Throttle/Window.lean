import Mathlib.Data.List.Induction
import RequestGuard.Throttle

/-!
# No window holds too many events

A run of the throttle is a list of times at which it was asked to record an event, and
`recordedTimes` are those of them at which it did. What the throttle stores is an end of that list
(`recorded_recordAll_suffix`): it forgets old events, and only from the front.

As long as the time does not go back, all that it has forgotten lies a whole window back, so that
what it stores of the current window is all that was recorded in it (`length_purge_recordAll`).
Therefore it records an event exactly if the window has room, and no window has more than `max`
events (`caps_every_window`).
-/

namespace RequestGuard.Throttle

def recordAll (throttle : Throttle) (times : List Nat) : Throttle :=
  times.foldl (fun throttle now => (throttle.record now).2) throttle

def recordedTimes (throttle : Throttle) : List Nat → List Nat
  | [] => []
  | now :: rest =>
    if (throttle.record now).1 then now :: (throttle.record now).2.recordedTimes rest
    else (throttle.record now).2.recordedTimes rest

theorem recordAll_concat (throttle : Throttle) (times : List Nat) (now : Nat) :
    throttle.recordAll (times ++ [now]) = ((throttle.recordAll times).record now).2 := by
  simp [recordAll, List.foldl_append]

theorem recordedTimes_concat (throttle : Throttle) (times : List Nat) (now : Nat) :
    throttle.recordedTimes (times ++ [now])
      = throttle.recordedTimes times
        ++ if ((throttle.recordAll times).record now).1 then [now] else [] := by
  induction times generalizing throttle with
  | nil =>
    show throttle.recordedTimes [now] = if (throttle.record now).1 then [now] else []
    simp [recordedTimes]
  | cons first rest ih =>
    have hrest := ih (throttle.record first).2
    rw [List.cons_append, recordedTimes, recordedTimes, hrest]
    split
    · rw [List.cons_append]
      rfl
    · rfl

theorem recordedTimes_sublist (throttle : Throttle) (times : List Nat) :
    (throttle.recordedTimes times).Sublist times := by
  induction times generalizing throttle with
  | nil => exact List.Sublist.slnil
  | cons now rest ih =>
    rw [recordedTimes]
    split
    · exact (ih _).cons_cons now
    · exact (ih _).cons now

/-! ### One attempt -/

/-- An attempt leaves the limits alone. Of the stored events it leaves those that `purge` does, and
the new one if there is room for it. -/
theorem record_eq (throttle : Throttle) (now : Nat) :
    throttle.record now
      = (decide ((throttle.purge now).recorded.length < throttle.max),
          { throttle with
            recorded := (throttle.purge now).recorded
              ++ if (throttle.purge now).recorded.length < throttle.max then [now] else [] }) := by
  have hmax : (throttle.purge now).max = throttle.max := rfl
  rw [record, hmax]
  split
  · rename_i hroom
    rw [decide_eq_true hroom]
    rfl
  · rename_i hfull
    rw [decide_eq_false hfull, List.append_nil]
    rfl

theorem recorded_purge_suffix (throttle : Throttle) (now : Nat) :
    (throttle.purge now).recorded <:+ throttle.recorded :=
  List.dropWhile_suffix _

/-- What is forgotten lies a whole window back. -/
theorem exists_recorded_eq_append_purge (throttle : Throttle) (now : Nat) :
    ∃ forgotten, throttle.recorded = forgotten ++ (throttle.purge now).recorded
      ∧ ∀ time ∈ forgotten, throttle.window ≤ now - time := by
  refine ⟨throttle.recorded.takeWhile fun time => throttle.window ≤ now - time, ?_, ?_⟩
  · exact List.takeWhile_append_dropWhile.symm
  · intro time htime
    exact of_decide_eq_true (List.all_eq_true.1 List.all_takeWhile time htime)

/-- If the stored events are in order, `purge` leaves exactly those of the window that ends now. -/
theorem recorded_purge_of_pairwise {throttle : Throttle} (h : throttle.recorded.Pairwise (· ≤ ·))
    (now : Nat) :
    (throttle.purge now).recorded
      = throttle.recorded.filter fun time => now - time < throttle.window := by
  rw [purge]
  dsimp only
  generalize throttle.recorded = recorded at h
  induction recorded with
  | nil => rfl
  | cons first rest ih =>
    obtain ⟨hfirst, hrest⟩ := List.pairwise_cons.1 h
    by_cases hold : throttle.window ≤ now - first
    · have hdropped : ¬ now - first < throttle.window := by omega
      rw [List.dropWhile_cons_of_pos (by simpa using hold),
        List.filter_cons_of_neg (by simpa using hdropped)]
      exact ih hrest
    · -- The first one is in the window, and therefore all later ones are.
      have hall : ∀ time ∈ first :: rest, now - time < throttle.window := by
        intro time htime
        have hle : first ≤ time := by
          obtain rfl | hlater := List.mem_cons.1 htime
          · exact Nat.le_refl time
          · exact hfirst time hlater
        omega
      rw [List.dropWhile_cons_of_neg (by simpa using hold), eq_comm, List.filter_eq_self]
      intro time htime
      exact decide_eq_true (hall time htime)

/-! ### Runs -/

variable (window max : Nat)

theorem limits_recordAll (throttle : Throttle) (times : List Nat) :
    (throttle.recordAll times).window = throttle.window
      ∧ (throttle.recordAll times).max = throttle.max := by
  induction times using List.reverseRecOn with
  | nil => exact ⟨rfl, rfl⟩
  | append_singleton times now ih =>
    rw [recordAll_concat, record_eq]
    exact ih

/-- There are never more events stored than may be, whatever the times. -/
theorem length_recorded_recordAll_le (times : List Nat) :
    (({ window, max } : Throttle).recordAll times).recorded.length ≤ max := by
  induction times using List.reverseRecOn with
  | nil => exact Nat.zero_le max
  | append_singleton times now ih =>
    have hmax : (({ window, max } : Throttle).recordAll times).max = max :=
      (limits_recordAll { window, max } times).2
    have hkept :=
      (recorded_purge_suffix (({ window, max } : Throttle).recordAll times) now).length_le
    rw [recordAll_concat, record_eq, List.length_append, hmax]
    split
    · rw [List.length_singleton]
      omega
    · rw [List.length_nil]
      omega

/-- What is stored are the last of the recorded events, whatever the times. -/
theorem recorded_recordAll_suffix (times : List Nat) :
    (({ window, max } : Throttle).recordAll times).recorded
      <:+ ({ window, max } : Throttle).recordedTimes times := by
  induction times using List.reverseRecOn with
  | nil => exact List.suffix_rfl
  | append_singleton times now ih =>
    have hkept :=
      (recorded_purge_suffix (({ window, max } : Throttle).recordAll times) now).trans ih
    rw [recordAll_concat, recordedTimes_concat, record_eq]
    simp only [decide_eq_true_eq]
    split
    · exact (List.suffix_append_inj_of_length_eq rfl).2 ⟨hkept, rfl⟩
    · simpa using hkept

/-- What is forgotten of the recorded events lay a whole window back at the time of some attempt. -/
theorem exists_recordedTimes_eq_append (times : List Nat) :
    ∃ forgotten, ({ window, max } : Throttle).recordedTimes times
        = forgotten ++ (({ window, max } : Throttle).recordAll times).recorded
      ∧ ∀ time ∈ forgotten, ∃ now ∈ times, window ≤ now - time := by
  induction times using List.reverseRecOn with
  | nil => exact ⟨[], rfl, by simp⟩
  | append_singleton times now ih =>
    obtain ⟨forgotten, hsplit, hforgotten⟩ := ih
    obtain ⟨older, holder, hold⟩ :=
      exists_recorded_eq_append_purge (({ window, max } : Throttle).recordAll times) now
    rw [(limits_recordAll _ times).1] at hold
    refine ⟨forgotten ++ older, ?_, ?_⟩
    · rw [recordedTimes_concat, recordAll_concat, hsplit, record_eq]
      conv_lhs => rw [holder]
      simp
    · intro time htime
      obtain hbefore | hnow := List.mem_append.1 htime
      · obtain ⟨earlier, hmem, hback⟩ := hforgotten time hbefore
        exact ⟨earlier, List.mem_append_left _ hmem, hback⟩
      · exact ⟨now, List.mem_append_right _ (List.mem_singleton_self now), hold time hnow⟩

/-- As long as the time does not go back, all events of the window that ends now are stored. -/
theorem length_purge_recordAll {times : List Nat} {now : Nat}
    (h : (times ++ [now]).Pairwise (· ≤ ·)) :
    ((({ window, max } : Throttle).recordAll times).purge now).recorded.length
      = (({ window, max } : Throttle).recordedTimes times).countP
        fun time => now - time < window := by
  obtain ⟨htimes, -, hlast⟩ := List.pairwise_append.1 h
  obtain ⟨forgotten, hsplit, hforgotten⟩ := exists_recordedTimes_eq_append window max times
  have hordered : (({ window, max } : Throttle).recordAll times).recorded.Pairwise (· ≤ ·) :=
    (htimes.sublist (recordedTimes_sublist _ times)).sublist
      (recorded_recordAll_suffix window max times).sublist
  have hnone : forgotten.countP (fun time => now - time < window) = 0 := by
    rw [List.countP_eq_zero]
    intro time htime
    obtain ⟨earlier, hmem, hback⟩ := hforgotten time htime
    have hle := hlast earlier hmem now (List.mem_singleton_self now)
    simp only [decide_eq_true_eq]
    omega
  rw [recorded_purge_of_pairwise hordered, (limits_recordAll _ times).1,
    ← List.countP_eq_length_filter, hsplit, List.countP_append, hnone, Nat.zero_add]

theorem record_recordAll_iff {times : List Nat} {now : Nat}
    (h : (times ++ [now]).Pairwise (· ≤ ·)) :
    ((({ window, max } : Throttle).recordAll times).record now).1 = true ↔
      (({ window, max } : Throttle).recordedTimes times).countP (fun time => now - time < window)
        < max := by
  rw [record_eq, decide_eq_true_eq, length_purge_recordAll window max h,
    (limits_recordAll _ times).2]

/-- No window has more than `max` events, wherever it begins. -/
theorem countP_recordedTimes_le {times : List Nat} (h : times.Pairwise (· ≤ ·)) (start : Nat) :
    (({ window, max } : Throttle).recordedTimes times).countP
      (fun time => start ≤ time ∧ time < start + window) ≤ max := by
  induction times using List.reverseRecOn with
  | nil => exact Nat.zero_le max
  | append_singleton times now ih =>
    obtain ⟨htimes, -, hlast⟩ := List.pairwise_append.1 h
    have hbefore := ih htimes
    rw [recordedTimes_concat, List.countP_append]
    by_cases hrecorded : ((({ window, max } : Throttle).recordAll times).record now).1 = true
      ∧ start ≤ now ∧ now < start + window
    · -- The events of this window that came before are in the window that ends now, which had room.
      have hroom := (record_recordAll_iff window max h).1 hrecorded.1
      have hfewer :
        (({ window, max } : Throttle).recordedTimes times).countP
          (fun time => start ≤ time ∧ time < start + window)
          ≤ (({ window, max } : Throttle).recordedTimes times).countP
            fun time => now - time < window := by
        apply List.countP_mono_left
        intro time htime hinside
        simp only [decide_eq_true_eq] at hinside ⊢
        omega
      rw [if_pos hrecorded.1]
      have hone : [now].countP (fun time => decide (start ≤ time ∧ time < start + window)) ≤ 1 :=
        List.countP_le_length
      omega
    · have hnone :
        (if ((({ window, max } : Throttle).recordAll times).record now).1 then [now] else []).countP
          (fun time => decide (start ≤ time ∧ time < start + window)) = 0 := by
        split
        · rename_i hnow
          rw [List.countP_eq_zero]
          intro time htime
          obtain rfl := List.mem_singleton.1 htime
          simpa using fun hstart hend => hrecorded ⟨hnow, hstart, hend⟩
        · rfl
      rw [hnone]
      exact hbefore

/-- As long as the time does not go back, an event is recorded exactly if fewer than `max` were
recorded in the window that ends now, and so no window has more than `max` events. Whatever the
times, there are never more than `max` events stored, and a refused attempt stores none. -/
theorem caps_every_window (times : List Nat) :
    let fresh : Throttle := { window, max }
    (∀ now, (times ++ [now]).Pairwise (· ≤ ·) →
        (((fresh.recordAll times).record now).1 = true ↔
          (fresh.recordedTimes times).countP (fun time => now - time < window) < max))
      ∧ (times.Pairwise (· ≤ ·) → ∀ start,
          (fresh.recordedTimes times).countP (fun time => start ≤ time ∧ time < start + window)
            ≤ max)
      ∧ (fresh.recordAll times).size ≤ max
      ∧ (fresh.recordAll times).recorded <:+ fresh.recordedTimes times
      ∧ ∀ now, ((fresh.recordAll times).record now).1 = false →
          fresh.recordedTimes (times ++ [now]) = fresh.recordedTimes times
            ∧ ((fresh.recordAll times).record now).2.recorded
              <:+ (fresh.recordAll times).recorded := by
  intro fresh
  refine ⟨?_, ?_, length_recorded_recordAll_le window max times,
    recorded_recordAll_suffix window max times, ?_⟩
  · intro now h
    exact record_recordAll_iff window max h
  · intro h start
    exact countP_recordedTimes_le window max h start
  · intro now hrefused
    constructor
    · rw [recordedTimes_concat, hrefused]
      exact List.append_nil _
    · rw [record_eq, decide_eq_false_iff_not] at hrefused
      rw [record_eq, if_neg hrefused, List.append_nil]
      exact recorded_purge_suffix _ now

/-- Two events of one time fill a window, which is over when the time is exactly its length
later. -/
theorem caps_every_window_boundary :
    let fresh : Throttle := { window := 10, max := 2 }
    [3, 3, 12, 13].Pairwise (· ≤ ·) ∧ ([3, 3, 12, 13] ++ [13]).Pairwise (· ≤ ·)
      ∧ ((fresh.recordAll [3, 3, 12]).record 12).1 = false
      ∧ fresh.recordedTimes [3, 3, 12, 13] = [3, 3, 13]
      ∧ (((fresh.recordAll [3, 3, 12, 13]).record 13).1 = true ↔
          (fresh.recordedTimes [3, 3, 12, 13]).countP (fun time => 13 - time < 10) < 2)
      ∧ (fresh.recordedTimes [3, 3, 12, 13]).countP (fun time => 4 ≤ time ∧ time < 4 + 10) ≤ 2
      ∧ fresh.recordedTimes ([3, 3, 12] ++ [12]) = fresh.recordedTimes [3, 3, 12] := by
  intro fresh
  have hordered : [3, 3, 12, 13].Pairwise (· ≤ ·) := by decide
  have hnow : ([3, 3, 12, 13] ++ [13]).Pairwise (· ≤ ·) := by decide
  have hrefused : ((fresh.recordAll [3, 3, 12]).record 12).1 = false := by decide
  obtain ⟨hrecords, hcaps, -, -, -⟩ := caps_every_window 10 2 [3, 3, 12, 13]
  obtain ⟨-, -, -, -, hrefuses⟩ := caps_every_window 10 2 [3, 3, 12]
  exact ⟨hordered, hnow, hrefused,
    by decide, hrecords 13 hnow, hcaps hordered 4, (hrefuses 12 hrefused).1⟩

end RequestGuard.Throttle
