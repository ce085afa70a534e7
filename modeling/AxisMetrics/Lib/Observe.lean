import AxisMetrics.Lib.Runs

/-!
# What an observer sees

A machine whose steps have outputs, and two runs of it side by side. Where a relation of the two
states is kept by each pair of steps, and related states give the same output, an observer of the
outputs cannot tell the runs apart.
-/

namespace Lib

variable {S E O : Type} {step : S → E → Option (S × O)} {s s' : S}

/-- The outputs of a run, up to a step that fails. -/
def outputs (step : S → E → Option (S × O)) : S → List E → List O
  | _, [] => []
  | s, e :: events =>
    match step s e with
    | none => []
    | some (s', output) => output :: outputs step s' events

/-- Two steps fail together, or give the same output and related states. -/
def Alike (related : S → S → Prop) (r r' : Option (S × O)) : Prop :=
  (r = none ∧ r' = none) ∨
    ∃ s s' output, r = some (s, output) ∧ r' = some (s', output) ∧ related s s'

/-- Runs whose events come in pairs, where each pair is allowed in the state of the first run. -/
theorem outputs_congr {related : S → S → Prop} {allowed : S → E × E → Prop}
    (hstep : ∀ s s' e, related s s' → allowed s e →
      Alike related (step s e.1) (step s' e.2)) (hstart : related s s') {events : List (E × E)}
    (hallowed : Throughout (fun s e => (step s e.1).map Prod.fst) s events allowed) :
    outputs step s (events.map Prod.fst) = outputs step s' (events.map Prod.snd) := by
  induction events generalizing s s' with
  | nil => rfl
  | cons e events ih =>
    obtain ⟨he, hrest⟩ := throughout_cons.mp hallowed
    rw [List.map_cons, List.map_cons, outputs, outputs]
    rcases hstep s s' e hstart he with ⟨h, h'⟩ | ⟨t, t', output, h, h', hrelated⟩
    · rw [h, h']
    · rw [h, h']
      exact congrArg (output :: ·) (ih hrelated (hrest t (by rw [h]; rfl)))

/-- Runs of the same events. -/
theorem outputs_congr_same {related : S → S → Prop}
    (hstep : ∀ s s' e, related s s' → Alike related (step s e) (step s' e))
    (hstart : related s s') (events : List E) : outputs step s events = outputs step s' events := by
  have hsame : Throughout (fun s e => (step s e.1).map Prod.fst) s (events.map fun e => (e, e))
      fun _ e => e.1 = e.2 := by
    intro done e _ hdone _
    have hmem := hdone.subset (List.mem_append_right done (List.mem_singleton_self e))
    obtain ⟨_, -, rfl⟩ := List.mem_map.mp hmem
    rfl
  have h := outputs_congr (fun s s' e hrelated he => by
    rw [← he]
    exact hstep s s' e.1 hrelated) hstart hsame
  simpa [Function.comp_def] using h

end Lib
