import AxisMetrics.Store.Rows

/-!
# The shape of a store

No operation changes a tier's interval or capacity, so every reachable store has the ones
`store_new` chose, and the bounds on those hold in every run.
-/

namespace AxisMetrics

variable {V D : Type} [SampleArith V D] {registry : MetricRegistry}
variable {baseIntervalS memory : ℕ} {store : Store V D registry}

theorem tierPush_intervalS (i : Fin STORE_TIERS) (tier : StoreTier V D registry.count)
    (row : Row V registry.count) : (tierPush i tier row).1.intervalS = tier.intervalS := by
  unfold tierPush coarsePush
  dsimp only
  split
  · rfl
  · split <;> rfl

theorem tierPush_capacity (i : Fin STORE_TIERS) (tier : StoreTier V D registry.count)
    (row : Row V registry.count) :
    (tierPush i tier row).1.ring.capacity = tier.ring.capacity := by
  unfold tierPush coarsePush
  dsimp only
  split
  · rfl
  · split <;> rfl

/-- The interval `store_new` gives tier `i`. -/
def tierInterval (baseIntervalS : ℕ) (i : Fin STORE_TIERS) : ℕ :=
  if i = 0 then fineInterval baseIntervalS else TIER_INTERVAL i

/-- Intervals and capacities stay what `store_new` made them. -/
theorem StoreReachable.shape (h : StoreReachable registry baseIntervalS memory store)
    (i : Fin STORE_TIERS) :
    (store.tiers i).intervalS = tierInterval baseIntervalS i ∧
      (store.tiers i).ring.capacity = tierCapacity registry.count baseIntervalS memory i := by
  induction h with
  | new => exact ⟨rfl, rfl⟩
  | push row _ ih =>
    exact ⟨(tierPush_intervalS i _ row).trans ih.1, (tierPush_capacity i _ row).trans ih.2⟩
  | restore j row _ ih =>
    rw [storeRestore, Store.setTier_tiers]
    split
    · next hij => subst hij; exact ih
    · exact ih
  | setCallback j callback _ ih =>
    rw [storeSetTierCallback, Store.setTier_tiers]
    split
    · next hij => subst hij; exact ih
    · exact ih

theorem StoreReachable.storeTierSpanS_eq (h : StoreReachable registry baseIntervalS memory store)
    (i : Fin STORE_TIERS) : storeTierSpanS store i =
      tierInterval baseIntervalS i * tierCapacity registry.count baseIntervalS memory i := by
  rw [storeTierSpanS, (h.shape i).1, (h.shape i).2]

/-- Scaling to the memory never makes a tier longer. -/
theorem tierCapacity_le_wantedCapacity (nMetrics baseIntervalS memory : ℕ) (i : Fin STORE_TIERS) :
    tierCapacity nMetrics baseIntervalS memory i ≤ wantedCapacity baseIntervalS i := by
  have hmin : TIER_MIN_CAPACITY i ≤ wantedCapacity baseIntervalS i := by
    unfold wantedCapacity
    split
    · next hi => exact hi ▸ le_max_left _ _
    · exact tierMinCapacity_le i
  unfold tierCapacity
  dsimp only
  split
  · next h =>
    refine max_le hmin ?_
    rw [Nat.div_le_iff_le_mul_add_pred (by omega)]
    calc wantedCapacity baseIntervalS i * memoryBudget memory
        ≤ wantedCapacity baseIntervalS i * _ := Nat.mul_le_mul_left _ h.2.le
      _ ≤ _ := by rw [Nat.mul_comm]; exact Nat.le_add_right _ _
  · exact le_rfl

theorem wantedCapacity_zero (baseIntervalS : ℕ) :
    wantedCapacity baseIntervalS 0 = max 300 (1800 / fineInterval baseIntervalS) := rfl

theorem wantedCapacity_le (baseIntervalS : ℕ) (i : Fin STORE_TIERS) :
    wantedCapacity baseIntervalS i ≤ 8640 := by
  match i with
  | 0 =>
    rw [wantedCapacity_zero]
    exact max_le (by decide) ((Nat.div_le_self _ _).trans (by decide))
  | 1 => exact show 2880 ≤ 8640 by decide
  | 2 => exact le_rfl

/-- A tier holds at least 300 and at most 8640 rows. -/
theorem StoreReachable.capacity_bounds (h : StoreReachable registry baseIntervalS memory store)
    (i : Fin STORE_TIERS) :
    300 ≤ (store.tiers i).ring.capacity ∧ (store.tiers i).ring.capacity ≤ 8640 := by
  have hmin : 300 ≤ TIER_MIN_CAPACITY i := by
    revert i
    decide
  rw [(h.shape i).2]
  exact ⟨hmin.trans (tierMinCapacity_le_tierCapacity _ _ _ i),
    (tierCapacity_le_wantedCapacity _ _ _ i).trans (wantedCapacity_le _ i)⟩

/-- An interval fits a `guint` when the base interval does. -/
theorem StoreReachable.intervalS_lt (h : StoreReachable registry baseIntervalS memory store)
    (hbase : baseIntervalS < 2 ^ 32) (i : Fin STORE_TIERS) :
    (store.tiers i).intervalS < 2 ^ 32 := by
  rw [(h.shape i).1]
  match i with
  | 0 => exact max_lt (by decide) hbase
  | 1 => exact show 15 < 2 ^ 32 by decide
  | 2 => exact show 300 < 2 ^ 32 by decide

end AxisMetrics
