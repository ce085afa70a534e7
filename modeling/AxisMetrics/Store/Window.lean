import AxisMetrics.Store.Shape

/-!
# Which tier answers a window

`storeTierForWindow` looks at the points of a window only, while the history a tier can
supply is its interval times its capacity. The two disagree in two ranges of windows, and
`storeTierForWindow_covers_iff` says which.
-/

namespace AxisMetrics

open Lib (ascii)

variable {V D : Type} [SampleArith V D] {registry : MetricRegistry}
variable {baseIntervalS memory : ℕ} {store : Store V D registry}

/-- The fine tier never spans more than 3000 seconds at the intervals in use. -/
theorem fine_span_le {b : ℕ} (hb : 1 ≤ b) (hb' : b ≤ 10) :
    fineInterval b * wantedCapacity b 0 ≤ 3000 := by
  rw [wantedCapacity_zero, fineInterval, max_eq_right hb]
  have hdiv : b * (1800 / b) ≤ 1800 := Nat.mul_div_le 1800 b
  rcases max_choice 300 (1800 / b) with hm | hm <;> rw [hm] <;> omega

omit [SampleArith V D] in
/-- The choice as a cascade over the tiers. -/
theorem storeTierForWindow_eq (store : Store V D registry) (w : ℕ) :
    storeTierForWindow store w =
      if w / (store.tiers 0).intervalS ≤ 2000 then 0
      else if w / (store.tiers 1).intervalS ≤ 2000 then 1 else 2 := by
  have hf : List.finRange STORE_TIERS = [0, 1, 2] := rfl
  unfold storeTierForWindow
  rw [hf]
  simp only [List.find?_cons, List.find?_nil]
  by_cases h0 : w / (store.tiers 0).intervalS ≤ 2000
  · simp [h0]
  · by_cases h1 : w / (store.tiers 1).intervalS ≤ 2000
    · simp [h0, h1]
    · by_cases h2 : w / (store.tiers 2).intervalS ≤ 2000 <;> simp [h0, h1, h2]

/-- A window is answered from a tier that covers it. -/
def WindowCovered (store : Store V D registry) (w : ℕ) : Prop :=
  (∃ i, w ≤ storeTierSpanS store i) → w ≤ storeTierSpanS store (storeTierForWindow store w)

/-- The windows that are short enough in points for a tier too short in time: those between
the fine span and 2001 sample intervals, and those between the medium span and 2001 medium
intervals that the fine tier does not take. -/
theorem storeTierForWindow_covers_iff (h : StoreReachable registry baseIntervalS memory store)
    (hb : 1 ≤ baseIntervalS) (hb' : baseIntervalS ≤ 10) (w : ℕ) :
    WindowCovered store w ↔
      (w ≤ storeTierSpanS store 0 ∨ 2001 * baseIntervalS ≤ w) ∧
      (w ≤ storeTierSpanS store 1 ∨ w < 2001 * baseIntervalS ∨ 30015 ≤ w) := by
  have hi0 : (store.tiers 0).intervalS = baseIntervalS := by
    rw [(h.shape 0).1]
    exact max_eq_right hb
  have hi1 : (store.tiers 1).intervalS = 15 := (h.shape 1).1
  -- the spans, bounded from the capacities
  have hs0 : storeTierSpanS store 0 ≤ 3000 := by
    rw [h.storeTierSpanS_eq]
    exact (Nat.mul_le_mul_left _ (tierCapacity_le_wantedCapacity _ _ _ _)).trans
      (fine_span_le hb hb')
  have hs1 : storeTierSpanS store 1 ≤ 43200 := by
    rw [h.storeTierSpanS_eq]
    exact Nat.mul_le_mul_left 15 (tierCapacity_le_wantedCapacity _ _ _ 1)
  have hs2 : 172800 ≤ storeTierSpanS store 2 := by
    rw [h.storeTierSpanS_eq]
    exact Nat.mul_le_mul_left 300 (tierMinCapacity_le_tierCapacity _ _ _ 2)
  -- the choice, as a cascade on the window itself
  have h0 : w / (store.tiers 0).intervalS ≤ 2000 ↔ w < 2001 * baseIntervalS := by
    rw [hi0, ← Nat.lt_succ_iff, Nat.div_lt_iff_lt_mul hb]
  have h1 : w / (store.tiers 1).intervalS ≤ 2000 ↔ w < 30015 := by
    rw [hi1]
    omega
  have hex : (∃ i, w ≤ storeTierSpanS store i) ↔ w ≤ storeTierSpanS store 2 := by
    constructor
    · rintro ⟨i, hi⟩
      match i, hi with
      | 0, hi => omega
      | 1, hi => omega
      | 2, hi => omega
    · exact fun hw => ⟨2, hw⟩
  rw [WindowCovered, hex, storeTierForWindow_eq, if_congr h0 rfl (if_congr h1 rfl rfl)]
  by_cases hw0 : w < 2001 * baseIntervalS
  · rw [if_pos hw0]
    omega
  · rw [if_neg hw0]
    by_cases hw1 : w < 30015
    · rw [if_pos hw1]
      omega
    · rw [if_neg hw1]
      omega

/-- At the default interval the one-hour chart is covered. -/
theorem windowCovered_hour_of_one :
    WindowCovered (storeNew (V := CFloat) (.registerAll [ascii "cpu.usage"]) 1 (2 ^ 30)) 3600 :=
  (storeTierForWindow_covers_iff .new (by decide) (by decide) 3600).mpr (by decide)

/-- Sampling every two seconds, the one-hour chart is answered with half an hour of history
while the medium tier holds twelve hours. -/
theorem not_windowCovered_hour_of_two :
    ¬ WindowCovered (storeNew (V := CFloat) (.registerAll [ascii "cpu.usage"]) 2 (2 ^ 30)) 3600 := by
  intro h
  exact absurd (h ⟨1, by decide⟩) (by decide)

end AxisMetrics
