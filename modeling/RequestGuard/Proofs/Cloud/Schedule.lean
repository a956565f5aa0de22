import Mathlib.Data.List.Basic
import Mathlib.Data.List.Induction
import Mathlib.Data.List.TakeWhile
import RequestGuard.Cloud.Heartbeat

/-!
# Which suggestion the heartbeats follow

A run of the schedule is a list of answers to heartbeats. The suggestions that count (`followed`)
are those that are given from the first confirmation on and are not below the floor: the interval is
the last of them, or the initial one if there is none (`follows_last_suggestion`).

One answer either leaves the interval alone or sets it to a suggestion that counts, whether or not
the suggestion is a new one (`snd_answered`); whether it is, is all that the other part of the
result says (`fst_answered`).
-/

namespace RequestGuard.Cloud.Heartbeat

/-- The answer to a heartbeat: the interval that it suggests, if any, and whether it confirms
statistics. -/
structure Answer where
  suggested : Option Nat
  statsReceived : Bool
deriving DecidableEq, Repr

def start (initial floor : Nat) : Heartbeat := { interval := initial, floor }

def answeredAll (beat : Heartbeat) (answers : List Answer) : Heartbeat :=
  answers.foldl (fun beat answer => (beat.answered answer.suggested answer.statsReceived).2) beat

def followed (floor : Nat) (answers : List Answer) : List Nat :=
  ((answers.dropWhile fun answer => !answer.statsReceived).filterMap Answer.suggested).filter
    fun next => floor ≤ next

theorem answeredAll_concat (beat : Heartbeat) (answers : List Answer) (answer : Answer) :
    beat.answeredAll (answers ++ [answer])
      = ((beat.answeredAll answers).answered answer.suggested answer.statsReceived).2 :=
  List.foldl_concat ..

theorem followed_concat (floor : Nat) (answers : List Answer) (answer : Answer) :
    followed floor (answers ++ [answer])
      = followed floor answers ++
          if (answers.any Answer.statsReceived || answer.statsReceived) = true
          then (answer.suggested.filter fun next => floor ≤ next).toList else [] := by
  have hlast : ([answer].filterMap Answer.suggested).filter (fun next => floor ≤ next)
      = (answer.suggested.filter fun next => floor ≤ next).toList := by
    cases hsuggested : answer.suggested with
    | none => simp [hsuggested]
    | some next => by_cases hfloor : floor ≤ next <;> simp [hsuggested, hfloor, Option.filter]
  rw [followed, followed, List.dropWhile_append]
  cases hbefore : answers.any Answer.statsReceived with
  | true =>
    have hconfirmed : (answers.dropWhile fun answer => !answer.statsReceived) ≠ [] := by
      obtain ⟨first, hmem, hfirst⟩ := List.any_eq_true.1 hbefore
      rw [Ne, List.dropWhile_eq_nil_iff]
      intro hnone
      simpa [hfirst] using hnone first hmem
    rw [if_neg (by simpa using hconfirmed), List.filterMap_append, List.filter_append, hlast,
      Bool.true_or, if_pos rfl]
  | false =>
    have hnone : (answers.dropWhile fun answer => !answer.statsReceived) = [] := by
      rw [List.dropWhile_eq_nil_iff]
      intro other hmem
      simpa using List.any_eq_false.1 hbefore other hmem
    rw [hnone, if_pos List.isEmpty_nil, Bool.false_or]
    cases hanswer : answer.statsReceived with
    | false => simp [hanswer]
    | true => simpa [hanswer] using hlast

variable (beat : Heartbeat) (suggested : Option Nat) (statsReceived : Bool)

theorem snd_answered :
    (beat.answered suggested statsReceived).2
      = { beat with
          confirmed := beat.confirmed || statsReceived
          interval :=
            if (beat.confirmed || statsReceived) = true
            then (suggested.filter fun next => beat.floor ≤ next).getD beat.interval
              else beat.interval } := by
  cases suggested with
  | none => simp [answered]
  | some next =>
    rw [answered]
    dsimp only
    cases beat.confirmed || statsReceived with
    | false => simp
    | true =>
      by_cases hfloor : beat.floor ≤ next
      · -- A suggestion that is in force already is not adopted again, which comes to the same.
        by_cases hsame : next = beat.interval
        · simp [← hsame, hfloor, Option.filter]
        · simp [hsame, hfloor, Option.filter]
      · simp [hfloor, Option.filter]

theorem fst_answered :
    (beat.answered suggested statsReceived).1 = true
      ↔ (beat.answered suggested statsReceived).2.interval ≠ beat.interval := by
  cases suggested with
  | none => simp [answered]
  | some next =>
    rw [answered]
    dsimp only
    split
    · rename_i hnew
      simpa using hnew.2.2
    · simp

variable (initial floor : Nat)

theorem floor_answeredAll (answers : List Answer) :
    (beat.answeredAll answers).floor = beat.floor := by
  induction answers using List.reverseRecOn with
  | nil => rfl
  | append_singleton answers answer ih =>
    rw [answeredAll_concat, snd_answered]
    exact ih

theorem confirmed_answeredAll (answers : List Answer) :
    ((start initial floor).answeredAll answers).confirmed = answers.any Answer.statsReceived := by
  induction answers using List.reverseRecOn with
  | nil => rfl
  | append_singleton answers answer ih =>
    rw [answeredAll_concat, snd_answered, List.any_append, ih]
    simp

theorem interval_answeredAll (answers : List Answer) :
    ((start initial floor).answeredAll answers).interval
      = (followed floor answers).getLast?.getD initial := by
  induction answers using List.reverseRecOn with
  | nil => rfl
  | append_singleton answers answer ih =>
    rw [answeredAll_concat, snd_answered, confirmed_answeredAll, floor_answeredAll,
      followed_concat, ih]
    dsimp only
    split
    · change (answer.suggested.filter fun next => decide (floor ≤ next)).getD _ = _
      cases answer.suggested.filter fun next => decide (floor ≤ next) with
      | none => simp
      | some next => simp
    · rw [List.append_nil]

/-- The interval is the last suggestion that was not below the floor and came with or after the
first confirmation, or the initial one. A confirmation is never taken back, and an answer says that
it changed the interval exactly if it did. -/
theorem follows_last_suggestion (answers : List Answer) :
    let fresh := start initial floor
    let beat := fresh.answeredAll answers
    beat.interval = (followed floor answers).getLast?.getD initial
      ∧ (beat.confirmed = true ↔ ∃ answer ∈ answers, answer.statsReceived = true)
      ∧ (∀ later, (fresh.answeredAll (answers ++ later)).confirmed
        = (beat.confirmed || later.any Answer.statsReceived))
      ∧ (∀ next : Answer, (beat.answered next.suggested next.statsReceived).1 = true
          ↔ (fresh.answeredAll (answers ++ [next])).interval ≠ beat.interval)
      ∧ (beat.interval = initial ∨ floor ≤ beat.interval) := by
  intro fresh beat
  have hinterval : beat.interval = (followed floor answers).getLast?.getD initial :=
    interval_answeredAll initial floor answers
  have hconfirmed : beat.confirmed = answers.any Answer.statsReceived :=
    confirmed_answeredAll initial floor answers
  refine ⟨hinterval, ?_, ?_, ?_, ?_⟩
  · rw [hconfirmed, List.any_eq_true]
  · intro later
    rw [confirmed_answeredAll, List.any_append, hconfirmed]
  · intro next
    rw [answeredAll_concat]
    exact fst_answered beat next.suggested next.statsReceived
  · rw [hinterval]
    cases hlast : (followed floor answers).getLast? with
    | none => exact .inl rfl
    | some next =>
      have hmem : next ∈ followed floor answers := List.mem_of_getLast? hlast
      exact .inr (of_decide_eq_true (List.mem_filter.1 hmem).2)

/-- A suggestion before the confirmation, one below the floor, and one that brings nothing new. -/
example : ((start 60 120).answeredAll
    [⟨some 600, false⟩, ⟨some 300, true⟩, ⟨some 30, false⟩, ⟨some 300, false⟩]).interval = 300 := by
  decide

end RequestGuard.Cloud.Heartbeat
