import AxisMetrics.Lib.Observe
import Mathlib.Data.Option.Basic

/-!
# Events that leave no trace

A machine with two kinds of events: hidden ones, which always succeed, have no effect that is
noticed and leave the state related to what it was, and the others, which related states take
alike. Then nothing that is noticed of a run changes when the hidden events are left out of it
(`noticed_purge`), and the run ends in a related state (`runFrom_purge`).
-/

namespace Lib

variable {S E F : Type} {step : S → E → Option (S × List F)} {s s' t : S} {e : E}

/-- A state in which the hidden events leave no trace, for the rest of a run. -/
structure Unnoticed (step : S → E → Option (S × List F)) (hidden : E → Bool) (notice : F → Bool)
    (related : S → S → Prop) : Prop where
  /-- A hidden event succeeds, and shows only in a related state. -/
  hide : ∀ s s' e, related s s' → hidden e = true →
    ∃ t effects, step s e = some (t, effects) ∧ effects.filter notice = [] ∧ related t s'
  /-- Related states take the other events alike. -/
  visible : ∀ s s' e, related s s' → hidden e = false → Alike related (step s e) (step s' e)

/-- What is noticed of a run. -/
def noticed (step : S → E → Option (S × List F)) (notice : F → Bool) (s : S) (events : List E) :
    List F :=
  (outputs step s events).flatten.filter notice

/-- The events that are not hidden. -/
def purge (hidden : E → Bool) (events : List E) : List E := events.filter fun e => !hidden e

variable {hidden : E → Bool} {notice : F → Bool} {related : S → S → Prop}

theorem purge_cons_hidden (h : hidden e = true) (events : List E) :
    purge hidden (e :: events) = purge hidden events := by
  rw [purge, List.filter_cons_of_neg (by simp [h])]
  rfl

theorem purge_cons_visible (h : hidden e = false) (events : List E) :
    purge hidden (e :: events) = e :: purge hidden events := by
  rw [purge, List.filter_cons_of_pos (by simp [h])]
  rfl

theorem noticed_cons {effects : List F} (h : step s e = some (t, effects)) (events : List E) :
    noticed step notice s (e :: events) =
      effects.filter notice ++ noticed step notice t events := by
  rw [noticed, outputs, h, List.flatten_cons, List.filter_append]
  rfl

theorem noticed_cons_none (h : step s e = none) (events : List E) :
    noticed step notice s (e :: events) = [] := by
  rw [noticed, outputs, h]
  rfl

/-- Leaving out the hidden events changes nothing that is noticed. -/
theorem noticed_purge (h : Unnoticed step hidden notice related) (hstart : related s s')
    (events : List E) :
    noticed step notice s events = noticed step notice s' (purge hidden events) := by
  induction events generalizing s s' with
  | nil => rfl
  | cons e events ih =>
    cases he : hidden e with
    | true =>
      obtain ⟨t, effects, hstep, hnone, hrelated⟩ := h.hide s s' e hstart he
      rw [purge_cons_hidden he, noticed_cons hstep, hnone]
      exact ih hrelated
    | false =>
      rw [purge_cons_visible he]
      rcases h.visible s s' e hstart he with ⟨hs, hs'⟩ | ⟨t, t', effects, hs, hs', hrelated⟩
      · rw [noticed_cons_none hs, noticed_cons_none hs']
      · rw [noticed_cons hs, noticed_cons hs', ih hrelated]

/-- The states that steps lead to, without their effects. -/
def nextState (step : S → E → Option (S × List F)) (s : S) (e : E) : Option S :=
  (step s e).map Prod.fst

/-- Leaving out the hidden events leads to a related state, and crashes when the run does. -/
theorem runFrom_purge (h : Unnoticed step hidden notice related) (hstart : related s s')
    (events : List E) :
    Option.Rel related (runFrom (nextState step) s events)
      (runFrom (nextState step) s' (purge hidden events)) := by
  induction events generalizing s s' with
  | nil => exact Option.Rel.some hstart
  | cons e events ih =>
    cases he : hidden e with
    | true =>
      obtain ⟨t, effects, hstep, -, hrelated⟩ := h.hide s s' e hstart he
      rw [purge_cons_hidden he, runFrom, nextState, hstep]
      exact ih hrelated
    | false =>
      rw [purge_cons_visible he, runFrom, runFrom, nextState, nextState]
      rcases h.visible s s' e hstart he with ⟨hs, hs'⟩ | ⟨t, t', effects, hs, hs', hrelated⟩
      · rw [hs, hs']
        exact Option.Rel.none
      · rw [hs, hs']
        exact ih hrelated

end Lib
