import AxisMetrics.Lib.Runs
import Mathlib.Data.Option.Basic

/-!
# Machines in lock step

Two machines that take the same events. Where on each allowed event both step to related states or
neither steps, so do their runs (`LockStep.run`), and an invariant of the second holds of what the
first is related to (`LockStep.always`).
-/

namespace Lib

variable {S A E : Type}

/-- On each allowed event both machines step to related states, or neither steps. -/
def LockStep (step : S → E → Option S) (astep : A → E → Option A) (allowed : E → Prop)
    (related : S → A → Prop) : Prop :=
  ∀ s a e, related s a → allowed e → Option.Rel related (step s e) (astep a e)

variable {step : S → E → Option S} {astep : A → E → Option A} {allowed : E → Prop}
  {related : S → A → Prop} {start : S} {astart : A} {events : List E}

/-- The machines run in lock step. -/
theorem LockStep.run (h : LockStep step astep allowed related) (hstart : related start astart)
    (hallowed : ∀ e ∈ events, allowed e) :
    Option.Rel related (runFrom step start events) (runFrom astep astart events) := by
  induction events generalizing start astart with
  | nil => exact Option.Rel.some hstart
  | cons e events ih =>
    obtain ⟨he, hrest⟩ := List.forall_mem_cons.mp hallowed
    have hstep := h start astart e hstart he
    rw [runFrom, runFrom]
    revert hstep
    generalize step start e = result
    generalize astep astart e = aresult
    intro hstep
    cases hstep with
    | none => exact Option.Rel.none
    | some hnext => exact ih hnext hrest

/-- What always holds of the second machine holds of a state that the first is related to. -/
theorem LockStep.always (h : LockStep step astep allowed related) (hstart : related start astart)
    (hallowed : ∀ e ∈ events, allowed e) {p : A → Prop} (hp : Always astep astart events p) :
    Always step start events fun s => ∃ a, related s a ∧ p a := by
  intro done s hdone hrun
  have hboth := h.run hstart fun e he => hallowed e (hdone.subset he)
  rw [hrun] at hboth
  cases harun : runFrom astep astart done with
  | none =>
    rw [harun] at hboth
    cases hboth
  | some a =>
    rw [harun] at hboth
    cases hboth with
    | some hrelated => exact ⟨a, hrelated, hp done a hdone harun⟩

/-- Where related states show the same, so do the runs. -/
theorem map_eq_of_rel {α : Type} {f : S → α} {g : A → α} (hshow : ∀ s a, related s a → f s = g a)
    {s : Option S} {a : Option A} (h : Option.Rel related s a) : s.map f = a.map g := by
  cases h with
  | none => rfl
  | some hrelated => exact congrArg some (hshow _ _ hrelated)

end Lib
