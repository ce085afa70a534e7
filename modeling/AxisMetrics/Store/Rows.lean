import AxisMetrics.Store.Defs

/-!
# A tier as a bounded list of rows

Whatever a store does, a tier holds the end of the list of rows appended to it.
-/

namespace AxisMetrics

open Lib (RingBuffer)

variable {V D : Type} {n : ℕ} {registry : MetricRegistry}

@[simp] theorem tierRows_tierAppend (tier : StoreTier V D n) (row : Row V n) :
    tierRows (tierAppend tier row) = (tierRows tier ++ [row]).rtake tier.ring.capacity :=
  RingBuffer.toList_push _ _

theorem length_tierRows (tier : StoreTier V D n) : (tierRows tier).length = tier.ring.count :=
  RingBuffer.length_toList _

theorem length_tierRows_le (tier : StoreTier V D n) :
    (tierRows tier).length ≤ tier.ring.capacity := by
  rw [length_tierRows]
  exact tier.ring.count_le

/-- Reading rows one by one until there is none gives the rows the tier holds. -/
theorem filterMap_storeTierSample (store : Store V D registry) (i : Fin STORE_TIERS) :
    (List.range (storeTierCount store i)).filterMap (storeTierSample store i) =
      tierRows (store.tiers i) := by
  rw [tierRows_eq_map, ← List.filterMap_eq_map]
  refine List.filterMap_congr fun k hk => ?_
  exact if_pos (List.mem_range.mp hk)

theorem Store.setTier_tiers (store : Store V D registry) (i j : Fin STORE_TIERS)
    (tier : StoreTier V D registry.count) :
    (store.setTier i tier).tiers j = if j = i then tier else store.tiers j := by
  by_cases h : j = i
  · subst h
    simp
  · simp [Store.setTier, h]

/-- Append a list of rows straight into one tier. -/
def restoreAll (store : Store V D registry) (i : Fin STORE_TIERS)
    (rows : List (Row V registry.count)) : Store V D registry :=
  rows.foldl (fun store row => storeRestore store i row) store

theorem restoreAll_tier (store : Store V D registry) (i : Fin STORE_TIERS)
    (rows : List (Row V registry.count)) :
    (restoreAll store i rows).tiers i =
      { store.tiers i with ring := (store.tiers i).ring.pushAll rows } := by
  induction rows generalizing store with
  | nil => rfl
  | cons row rows ih =>
    rw [restoreAll, List.foldl_cons, ← restoreAll, ih, storeRestore, Store.setTier_self]
    rfl

/-- The other tiers are left as they are. -/
theorem restoreAll_of_ne {i j : Fin STORE_TIERS} (h : j ≠ i) (store : Store V D registry)
    (rows : List (Row V registry.count)) : (restoreAll store i rows).tiers j = store.tiers j := by
  induction rows generalizing store with
  | nil => rfl
  | cons row rows ih =>
    rw [restoreAll, List.foldl_cons, ← restoreAll, ih, storeRestore, Store.setTier_tiers, if_neg h]

/-- After a list of rows is restored, a tier holds the end of all it was given. -/
theorem tierRows_restoreAll (store : Store V D registry) (i : Fin STORE_TIERS)
    (rows : List (Row V registry.count)) :
    tierRows ((restoreAll store i rows).tiers i) =
      (tierRows (store.tiers i) ++ rows).rtake (store.tiers i).ring.capacity := by
  rw [restoreAll_tier]
  exact RingBuffer.toList_pushAll _ _

variable [SampleArith V D] {baseIntervalS memory : ℕ}

theorem StoreReachable.restoreAll {store : Store V D registry}
    (h : StoreReachable registry baseIntervalS memory store) (i : Fin STORE_TIERS)
    (rows : List (Row V registry.count)) :
    StoreReachable registry baseIntervalS memory (AxisMetrics.restoreAll store i rows) := by
  induction rows generalizing store with
  | nil => exact h
  | cons row rows ih => exact ih (h.restore i row)

theorem tierRows_storeNew (i : Fin STORE_TIERS) :
    tierRows ((storeNew (V := V) registry baseIntervalS memory).tiers i) = [] := rfl

/-- A push appends to a tier the row it passes on, if it passes one on. -/
theorem tierRows_tierPush (i : Fin STORE_TIERS) (tier : StoreTier V D n) (row : Row V n) :
    tierRows (tierPush i tier row).1 =
      (tierRows tier ++ (tierPush i tier row).2.toList).rtake tier.ring.capacity := by
  have hkeep : (tierRows tier).rtake tier.ring.capacity = tierRows tier :=
    Lib.rtake_of_length_le (length_tierRows_le tier)
  unfold tierPush coarsePush
  dsimp only
  split
  · exact tierRows_tierAppend _ _
  · split
    · exact tierRows_tierAppend _ _
    · rw [Option.toList_none, List.append_nil, hkeep]
      rfl

end AxisMetrics
