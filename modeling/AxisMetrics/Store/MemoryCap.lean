import AxisMetrics.Api.Documents
import AxisMetrics.Store.Downsample
import AxisMetrics.Lib.Shares
import Mathlib.Algebra.BigOperators.Fin
import Mathlib.Algebra.Order.Field.Rat
import Mathlib.Data.Rat.Floor
import Mathlib.Tactic.Linarith

/-!
# The memory cap

`store_new` scales all tiers by one factor to the budget and then raises each to its own minimum.
Where some tiers are raised and others are not, what the first gain is not taken from the others.
-/

namespace AxisMetrics

open Lib (ascii decimal strlcpy shortfall)

variable {V D : Type} [SampleArith V D]

/-- `wanted`: the bytes of all tiers before they are scaled. -/
def wantedBytes (nMetrics baseIntervalS : ℕ) : ℕ :=
  ∑ i, wantedCapacity baseIntervalS i * perSample nMetrics

/-- The bytes of all tiers at their minimum capacities. -/
def minimumBytes (nMetrics : ℕ) : ℕ := ∑ i, TIER_MIN_CAPACITY i * perSample nMetrics

/-- The history keeps to its share of the memory, unless the minimum capacities alone exceed it. -/
def MemoryCapped (V D : Type) [SampleArith V D] (registry : MetricRegistry)
    (baseIntervalS memory : ℕ) : Prop :=
  (storeBytes (storeNew (V := V) (D := D) registry baseIntervalS memory) : ℚ) ≤
    max ((memory : ℚ) * (15 / 1000)) (minimumBytes registry.count)

/-- The rows of a tier in proportion to its capacity, where all tiers share the budget. -/
def proportionalRows (nMetrics baseIntervalS memory : ℕ) (i : Fin STORE_TIERS) : ℕ :=
  wantedCapacity baseIntervalS i * memoryBudget memory / wantedBytes nMetrics baseIntervalS

/-- The rows that fit in the budget. -/
def budgetRows (nMetrics memory : ℕ) : ℕ := memoryBudget memory / perSample nMetrics

/-- No tier has more than its minimum in proportion, or what rounding leaves is enough for those
that have less. -/
def MinimaFit (nMetrics baseIntervalS memory : ℕ) : Prop :=
  (∀ i, proportionalRows nMetrics baseIntervalS memory i ≤ TIER_MIN_CAPACITY i) ∨
    shortfall TIER_MIN_CAPACITY (proportionalRows nMetrics baseIntervalS memory) ≤
      budgetRows nMetrics memory - ∑ i, proportionalRows nMetrics baseIntervalS memory i

instance (nMetrics baseIntervalS memory : ℕ) :
    Decidable (MinimaFit nMetrics baseIntervalS memory) :=
  inferInstanceAs (Decidable (_ ∨ _))

theorem metricIdMax_pos : 0 < METRIC_ID_MAX := by decide

theorem perSample_pos (nMetrics : ℕ) : 0 < perSample nMetrics := Nat.succ_pos _

theorem storeBytes_storeNew (registry : MetricRegistry) (baseIntervalS memory : ℕ) :
    storeBytes (storeNew (V := V) (D := D) registry baseIntervalS memory) =
      (∑ i, tierCapacity registry.count baseIntervalS memory i) * perSample registry.count := by
  rw [Finset.sum_mul, Fin.sum_univ_def]
  rfl

/-- The loop that sums up `wanted`. -/
theorem foldl_wanted (nMetrics baseIntervalS : ℕ) : (List.finRange STORE_TIERS).foldl
    (fun sum i => sum + wantedCapacity baseIntervalS i * perSample nMetrics) 0 =
      wantedBytes nMetrics baseIntervalS := by
  rw [wantedBytes, Fin.sum_univ_def, List.sum_eq_foldl, List.foldl_map]

theorem tierCapacity_eq (nMetrics baseIntervalS memory : ℕ) (i : Fin STORE_TIERS) :
    tierCapacity nMetrics baseIntervalS memory i =
      if 0 < memory ∧ memoryBudget memory < wantedBytes nMetrics baseIntervalS then
        max (TIER_MIN_CAPACITY i) (proportionalRows nMetrics baseIntervalS memory i)
      else wantedCapacity baseIntervalS i := by
  unfold tierCapacity proportionalRows
  rw [foldl_wanted]

section Shares

variable (nMetrics baseIntervalS memory : ℕ)

theorem wantedCapacity_ge (i : Fin STORE_TIERS) :
    TIER_MIN_CAPACITY i ≤ wantedCapacity baseIntervalS i :=
  (tierMinCapacity_le_tierCapacity 0 baseIntervalS 0 i).trans
    (tierCapacity_le_wantedCapacity 0 baseIntervalS 0 i)

theorem sum_wantedCapacity_pos : 0 < ∑ i, wantedCapacity baseIntervalS i :=
  (tierMinCapacity_pos 0).trans_le ((wantedCapacity_ge baseIntervalS 0).trans
    (Finset.single_le_sum (f := wantedCapacity baseIntervalS) (fun _ _ => Nat.zero_le _)
      (Finset.mem_univ 0)))

theorem wantedBytes_eq : wantedBytes nMetrics baseIntervalS =
    (∑ i, wantedCapacity baseIntervalS i) * perSample nMetrics :=
  (Finset.sum_mul _ _ _).symm

theorem wantedBytes_pos : 0 < wantedBytes nMetrics baseIntervalS := by
  rw [wantedBytes_eq]
  exact Nat.mul_pos (sum_wantedCapacity_pos baseIntervalS) (perSample_pos nMetrics)

/-- In proportion the tiers use up the budget, but for rounding. -/
theorem sum_proportionalRows :
    ∑ i, proportionalRows nMetrics baseIntervalS memory i ≤ budgetRows nMetrics memory ∧
      budgetRows nMetrics memory <
        ∑ i, proportionalRows nMetrics baseIntervalS memory i + STORE_TIERS := by
  have hwhole : (∑ i, wantedCapacity baseIntervalS i * memoryBudget memory) /
      wantedBytes nMetrics baseIntervalS = budgetRows nMetrics memory := by
    rw [← Finset.sum_mul, wantedBytes_eq, Nat.mul_div_mul_left _ _ (sum_wantedCapacity_pos _),
      budgetRows]
  rw [← hwhole]
  exact ⟨Lib.sum_div_le _ (wantedBytes_pos _ _), Lib.div_sum_lt _ (wantedBytes_pos _ _)⟩

/-- A budget for all of the wanted rows leaves no tier short. -/
theorem shortfall_of_wanted (h : wantedBytes nMetrics baseIntervalS ≤ memoryBudget memory) :
    shortfall TIER_MIN_CAPACITY (proportionalRows nMetrics baseIntervalS memory) = 0 := by
  apply Finset.sum_eq_zero
  intro i _
  apply Nat.sub_eq_zero_of_le
  apply (wantedCapacity_ge baseIntervalS i).trans
  rw [proportionalRows, Nat.le_div_iff_mul_le (wantedBytes_pos _ _)]
  exact Nat.mul_le_mul_left _ h

end Shares

/-- Bytes are below a share of the memory just if they are below the budget in whole bytes. -/
theorem cast_le_share_iff (bytes memory least : ℕ) :
    (bytes : ℚ) ≤ max ((memory : ℚ) * (15 / 1000)) least ↔
      bytes ≤ max (memoryBudget memory) least := by
  rw [le_max_iff, le_max_iff, Nat.cast_le, memoryBudget]
  apply or_congr_left
  rw [Nat.le_div_iff_mul_le (by decide), ← Nat.cast_le (α := ℚ)]
  push_cast
  constructor <;> intro h <;> linarith

/-- The history keeps to its share of the memory just if the minima fit in. -/
theorem memoryCapped_iff (registry : MetricRegistry) (baseIntervalS memory : ℕ)
    (hmemory : 0 < memory) :
    MemoryCapped V D registry baseIntervalS memory ↔
      MinimaFit registry.count baseIntervalS memory := by
  obtain ⟨hle, -⟩ := sum_proportionalRows registry.count baseIntervalS memory
  rw [MemoryCapped, cast_le_share_iff, storeBytes_storeNew, MinimaFit,
    ← Lib.sum_max_le_max_iff hle]
  have hper := perSample_pos registry.count
  have hleast : minimumBytes registry.count =
      (∑ i, TIER_MIN_CAPACITY i) * perSample registry.count := (Finset.sum_mul _ _ _).symm
  by_cases hscaled : memoryBudget memory < wantedBytes registry.count baseIntervalS
  · -- what keeps to the budget in bytes keeps to it in whole rows
    simp only [tierCapacity_eq, if_pos (And.intro hmemory hscaled)]
    rw [hleast, le_max_iff, le_max_iff, budgetRows, Nat.le_div_iff_mul_le hper,
      Nat.mul_le_mul_right_iff hper]
  · simp only [tierCapacity_eq, if_neg fun h => hscaled (And.right h)]
    rw [← wantedBytes_eq, Lib.sum_max_le_max_iff hle]
    have hfits := shortfall_of_wanted _ _ _ (not_lt.mp hscaled)
    apply iff_of_true
    · exact (not_lt.mp hscaled).trans (le_max_left _ _)
    · rw [hfits]
      exact .inr (Nat.zero_le _)

/-- Where some tier has more than its minimum, what the others are short of is less than a row for
each tier. -/
theorem shortfall_lt_of_minimaFit {nMetrics baseIntervalS memory : ℕ}
    (h : MinimaFit nMetrics baseIntervalS memory) {i : Fin STORE_TIERS}
    (hi : TIER_MIN_CAPACITY i < proportionalRows nMetrics baseIntervalS memory i) :
    shortfall TIER_MIN_CAPACITY (proportionalRows nMetrics baseIntervalS memory) < STORE_TIERS := by
  obtain ⟨hle, hlt⟩ := sum_proportionalRows nMetrics baseIntervalS memory
  rcases h with hnone | hfits
  · exact absurd (hnone i) (not_le.mpr hi)
  · omega

/-- A metric by its number. -/
def numberedMetric (n : ℕ) : MetricDef where
  id := strlcpy METRIC_ID_MAX (ascii "disk." ++ decimal n)
  label := []
  unit := []
  group := ascii "other"
  id_lt := Lib.length_strlcpy_lt metricIdMax_pos _
  zero_notMem_id := Lib.zero_notMem_strlcpy _ _

/-- A device with a hundred of them. -/
def numberedRegistry : MetricRegistry := ⟨(List.range 100).map numberedMetric⟩

theorem count_numberedRegistry : numberedRegistry.count = 100 := by
  rw [numberedRegistry, MetricRegistry.count, List.length_map, List.length_range]

/-- With a sample every second and 256 MB its tiers are all scaled, and stay within the budget. -/
theorem memoryCapped_scaled :
    (∀ i, TIER_MIN_CAPACITY i < tierCapacity numberedRegistry.count 1 268435456 i ∧
      tierCapacity numberedRegistry.count 1 268435456 i < wantedCapacity 1 i) ∧
    MemoryCapped (Option ℚ) ℚ numberedRegistry 1 268435456 := by
  refine ⟨?_, (memoryCapped_iff numberedRegistry 1 268435456 (by decide)).mpr ?_⟩
  · rw [count_numberedRegistry]
    decide
  · rw [count_numberedRegistry]
    decide

/-- With a hundred metrics and a sample every ten seconds, a camera with 256 MB exceeds its budget,
though the minimum capacities would fit. -/
theorem not_memoryCapped_camera :
    storeBytes (storeNew (V := Option ℚ) (D := ℚ) numberedRegistry 10 268435456) = 4046136 ∧
      memoryBudget 268435456 = 4026531 ∧ minimumBytes 100 = 651168 ∧
      ¬ MemoryCapped (Option ℚ) ℚ numberedRegistry 10 268435456 := by
  have hbytes : storeBytes (storeNew (V := Option ℚ) (D := ℚ) numberedRegistry 10 268435456) =
      4046136 := by
    rw [storeBytes_storeNew, count_numberedRegistry]
    decide
  refine ⟨hbytes, by decide, by decide, ?_⟩
  rw [MemoryCapped, cast_le_share_iff, hbytes, count_numberedRegistry]
  decide

end AxisMetrics
