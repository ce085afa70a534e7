import Mathlib.Data.Int.Order.Basic
import Mathlib.Data.List.Chain
import Mathlib.Data.List.Induction
import Mathlib.Tactic.Common

/-!
# Polling with a deadline

At each event of a run a source is polled if its deadline has come, and the deadline is then set to
an interval later. Polls are at least an interval apart, and at every event the last of them is less
than an interval ago.
-/

namespace Lib

variable {A : Type} {time : A → ℤ} {interval deadline : ℤ} {run : List A} {a : A}

/-- The events of a run that poll. -/
def polls (time : A → ℤ) (interval : ℤ) : ℤ → List A → List A
  | _, [] => []
  | deadline, a :: run =>
    if deadline ≤ time a then a :: polls time interval (time a + interval) run
    else polls time interval deadline run

/-- The deadline behind a run. -/
def deadlineAfter (time : A → ℤ) (interval deadline : ℤ) (run : List A) : ℤ :=
  ((polls time interval deadline run).getLast?.map fun poll => time poll + interval).getD deadline

theorem polls_cons_due (h : deadline ≤ time a) (run : List A) :
    polls time interval deadline (a :: run) =
      a :: polls time interval (time a + interval) run := by
  rw [polls, if_pos h]

theorem polls_cons_early (h : ¬ deadline ≤ time a) (run : List A) :
    polls time interval deadline (a :: run) = polls time interval deadline run := by
  rw [polls, if_neg h]

theorem deadlineAfter_cons_due (h : deadline ≤ time a) (run : List A) :
    deadlineAfter time interval deadline (a :: run) =
      deadlineAfter time interval (time a + interval) run := by
  rw [deadlineAfter, polls_cons_due h, List.getLast?_cons, deadlineAfter]
  cases (polls time interval (time a + interval) run).getLast? <;> rfl

theorem deadlineAfter_cons_early (h : ¬ deadline ≤ time a) (run : List A) :
    deadlineAfter time interval deadline (a :: run) =
      deadlineAfter time interval deadline run := by
  rw [deadlineAfter, polls_cons_early h, deadlineAfter]

/-- One more event polls if it is due behind the others. -/
theorem polls_concat (run : List A) (a : A) : polls time interval deadline (run ++ [a]) =
    polls time interval deadline run ++
      if deadlineAfter time interval deadline run ≤ time a then [a] else [] := by
  induction run generalizing deadline with
  | nil =>
    by_cases h : deadline ≤ time a
    · rw [List.nil_append, polls_cons_due h]
      exact (if_pos h).symm
    · rw [List.nil_append, polls_cons_early h]
      exact (if_neg h).symm
  | cons b run ih =>
    rw [List.cons_append]
    by_cases h : deadline ≤ time b
    · rw [polls_cons_due h, polls_cons_due h, deadlineAfter_cons_due h, ih, List.cons_append]
    · rw [polls_cons_early h, polls_cons_early h, deadlineAfter_cons_early h, ih]

theorem deadlineAfter_concat (run : List A) (a : A) :
    deadlineAfter time interval deadline (run ++ [a]) =
      if deadlineAfter time interval deadline run ≤ time a then time a + interval
      else deadlineAfter time interval deadline run := by
  rw [deadlineAfter, polls_concat]
  split
  · rw [List.getLast?_concat]
    rfl
  · rw [List.append_nil, deadlineAfter]

/-- Polls are at least an interval apart. -/
theorem isChain_polls (deadline : ℤ) (run : List A) :
    (polls time interval deadline run).IsChain (fun a b => time a + interval ≤ time b) ∧
      ∀ poll ∈ (polls time interval deadline run).head?, deadline ≤ time poll := by
  induction run generalizing deadline with
  | nil => exact ⟨List.isChain_nil, fun _ hpoll => by cases hpoll⟩
  | cons a run ih =>
    by_cases h : deadline ≤ time a
    · rw [polls_cons_due h]
      refine ⟨List.isChain_cons.mpr ⟨(ih _).2, (ih _).1⟩, ?_⟩
      intro poll hpoll
      exact Option.some.inj hpoll ▸ h
    · rw [polls_cons_early h]
      exact ih deadline

/-- No event is past the deadline behind it. -/
theorem time_lt_deadlineAfter (hinterval : 0 < interval) (run : List A) (a : A) :
    time a < deadlineAfter time interval deadline (run ++ [a]) := by
  rw [deadlineAfter_concat]
  split <;> omega

/-- At an event that is not before the first deadline, the last poll is less than an interval ago. -/
theorem exists_poll (hinterval : 0 < interval) (hstart : deadline ≤ time a) (run : List A) :
    ∃ poll ∈ (polls time interval deadline (run ++ [a])).getLast?,
      time a < time poll + interval := by
  have hlt : time a < deadlineAfter time interval deadline (run ++ [a]) :=
    time_lt_deadlineAfter hinterval run a
  rw [deadlineAfter] at hlt
  cases hlast : (polls time interval deadline (run ++ [a])).getLast? with
  | none =>
    rw [hlast] at hlt
    exact absurd hlt (not_lt.mpr hstart)
  | some poll =>
    rw [hlast] at hlt
    exact ⟨poll, rfl, hlt⟩

/-- An event that polls was due where it stood. -/
theorem exists_of_mem_polls (h : a ∈ polls time interval deadline run) :
    ∃ before, before ++ [a] <+: run ∧ deadlineAfter time interval deadline before ≤ time a := by
  induction run using List.reverseRecOn with
  | nil => cases h
  | append_singleton run b ih =>
    rw [polls_concat] at h
    obtain hold | hnew := List.mem_append.mp h
    · obtain ⟨before, hpart, hdue⟩ := ih hold
      exact ⟨before, hpart.trans (List.prefix_append _ _), hdue⟩
    · split at hnew
      · next hdue =>
        obtain rfl := List.mem_singleton.mp hnew
        exact ⟨run, List.prefix_rfl, hdue⟩
      · cases hnew

end Lib
