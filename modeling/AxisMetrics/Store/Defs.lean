import AxisMetrics.Lib.RingBuffer
import AxisMetrics.Metrics
import AxisMetrics.Sample
import Mathlib.Data.Fin.VecNotation
import Mathlib.Data.Fintype.Pi

/-!
# The history store

Three fixed-size ring buffers: fine (live view), medium (12 h) and coarse (30 days).
Coarser tiers average the samples that land in each bucket.

The store is generic in the sample type `V` (a C `float`) and in the type `D` of the
running sums (a C `double`); `SampleArith` lists the operations it uses on them.
-/

namespace AxisMetrics

open Lib (RingBuffer)

abbrev STORE_TIERS : ℕ := 3

instance : NeZero STORE_TIERS := ⟨by decide⟩

variable {V D : Type}

/-- One sample: its time and one value for each registered metric. -/
structure Row (V : Type) (n : ℕ) where
  timestamp : Int64
  values : Fin n → V

/-- `StoreTier`. The ring carries the source's `capacity`, `count` and `head`, and each of
its slots is one timestamp with its row of `data`. -/
structure StoreTier (V D : Type) (n : ℕ) where
  intervalS : ℕ
  ring : RingBuffer (Row V n)
  /-- Coarse tiers are means of the samples that fell in the bucket. -/
  acc : Fin n → D
  accN : Fin n → ℕ
  accStart : Int64
  /-- Whether a listener is set; it is called with the tier's own index. -/
  callback : Bool

/-- `Store`, for one registry. -/
structure Store (V D : Type) (registry : MetricRegistry) where
  tiers : Fin STORE_TIERS → StoreTier V D registry.count
  latest : Row V registry.count
  hasLatest : Bool

/-- 30 minutes, 12 hours and 30 days. -/
def TIER_INTERVAL : Fin STORE_TIERS → ℕ := ![1, 15, 300]
def TIER_CAPACITY : Fin STORE_TIERS → ℕ := ![1800, 2880, 8640]
def TIER_MIN_CAPACITY : Fin STORE_TIERS → ℕ := ![300, 720, 576]

/-- The fine tier follows the sample interval. -/
def fineInterval (baseIntervalS : ℕ) : ℕ := max 1 baseIntervalS

/-- `capacity[]` before it is scaled to the memory. -/
def wantedCapacity (baseIntervalS : ℕ) (i : Fin STORE_TIERS) : ℕ :=
  if i = 0 then max (TIER_MIN_CAPACITY 0) (TIER_CAPACITY 0 / fineInterval baseIntervalS)
  else TIER_CAPACITY i

/-- `MEMORY_BUDGET_FRACTION` of the RAM, rounded down. -/
def memoryBudget (memory : ℕ) : ℕ := memory * 15 / 1000

/-- `n_metrics * sizeof(float) + sizeof(gint64)`. -/
def perSample (nMetrics : ℕ) : ℕ := nMetrics * 4 + 8

/-- The capacities `store_new` settles on; a `memory` of zero means that the RAM is not known.
The scale factor is kept as an exact fraction. -/
def tierCapacity (nMetrics baseIntervalS memory : ℕ) (i : Fin STORE_TIERS) : ℕ :=
  let wanted := (List.finRange STORE_TIERS).foldl
    (fun sum i => sum + wantedCapacity baseIntervalS i * perSample nMetrics) 0
  if 0 < memory ∧ memoryBudget memory < wanted then
    max (TIER_MIN_CAPACITY i) (wantedCapacity baseIntervalS i * memoryBudget memory / wanted)
  else wantedCapacity baseIntervalS i

theorem tierMinCapacity_le (i : Fin STORE_TIERS) : TIER_MIN_CAPACITY i ≤ TIER_CAPACITY i := by
  revert i
  decide

theorem tierMinCapacity_pos (i : Fin STORE_TIERS) : 0 < TIER_MIN_CAPACITY i := by
  revert i
  decide

theorem tierMinCapacity_le_tierCapacity (nMetrics baseIntervalS memory : ℕ)
    (i : Fin STORE_TIERS) : TIER_MIN_CAPACITY i ≤ tierCapacity nMetrics baseIntervalS memory i := by
  have hwanted : TIER_MIN_CAPACITY i ≤ wantedCapacity baseIntervalS i := by
    unfold wantedCapacity
    split
    · next hi => exact hi ▸ le_max_left _ _
    · exact tierMinCapacity_le i
  unfold tierCapacity
  dsimp only
  split
  · exact le_max_left _ _
  · exact hwanted

theorem tierCapacity_pos (nMetrics baseIntervalS memory : ℕ) (i : Fin STORE_TIERS) :
    0 < tierCapacity nMetrics baseIntervalS memory i :=
  lt_of_lt_of_le (tierMinCapacity_pos i) (tierMinCapacity_le_tierCapacity _ _ _ i)

variable [SampleArith V D]

/-- A row of freshly allocated memory. -/
def zeroRow (n : ℕ) : Row V n := ⟨0, fun _ => SampleArith.zero⟩

/-- `store_new`. -/
def storeNew (registry : MetricRegistry) (baseIntervalS memory : ℕ) : Store V D registry where
  tiers i := {
    intervalS := if i = 0 then fineInterval baseIntervalS else TIER_INTERVAL i
    ring := RingBuffer.empty (tierCapacity registry.count baseIntervalS memory i)
      (fun _ => zeroRow registry.count) (tierCapacity_pos _ _ _ i)
    acc := fun _ => SampleArith.accZero V
    accN := fun _ => 0
    accStart := 0
    callback := false }
  latest := zeroRow registry.count
  hasLatest := false

variable {n : ℕ} {registry : MetricRegistry}

/-- `tier_append`. -/
def tierAppend (tier : StoreTier V D n) (row : Row V n) : StoreTier V D n :=
  { tier with ring := tier.ring.push row }

/-- Add a sample to the bucket of a coarse tier. -/
def tierAccumulate (tier : StoreTier V D n) (row : Row V n) : StoreTier V D n :=
  { tier with
    accStart := if tier.accStart = 0 then row.timestamp else tier.accStart
    acc := fun m => if SampleArith.isnan (row.values m) then tier.acc m
      else SampleArith.accAdd (tier.acc m) (row.values m)
    accN := fun m => if SampleArith.isnan (row.values m) then tier.accN m else tier.accN m + 1 }

/-- The row a bucket closes with: the mean of each metric, or NaN where it had none. -/
def bucketRow (tier : StoreTier V D n) (timestamp : Int64) : Row V n :=
  ⟨timestamp, fun m => if tier.accN m = 0 then SampleArith.nan
    else SampleArith.mean (tier.acc m) (tier.accN m)⟩

/-- The part of `store_push` for one coarse tier: the tier and the row it appended. -/
def coarsePush (tier : StoreTier V D n) (row : Row V n) : StoreTier V D n × Option (Row V n) :=
  let tier := tierAccumulate tier row
  if (tier.intervalS : ℤ) ≤ row.timestamp.toInt - tier.accStart.toInt then
    ({ tierAppend tier (bucketRow tier row.timestamp) with
        acc := fun _ => SampleArith.accZero V
        accN := fun _ => 0
        accStart := row.timestamp },
      some (bucketRow tier row.timestamp))
  else (tier, none)

/-- The part of `store_push` for tier `i`. -/
def tierPush (i : Fin STORE_TIERS) (tier : StoreTier V D n) (row : Row V n) :
    StoreTier V D n × Option (Row V n) :=
  if i = 0 then (tierAppend tier row, some row) else coarsePush tier row

/-- `store_push`: the store, and the listener calls it makes, in tier order. -/
def storePush (store : Store V D registry) (row : Row V registry.count) :
    Store V D registry × List (Fin STORE_TIERS × Row V registry.count) :=
  ({ tiers := fun i => (tierPush i (store.tiers i) row).1
     latest := row
     hasLatest := true },
    (List.finRange STORE_TIERS).filterMap fun i =>
      if (store.tiers i).callback then (tierPush i (store.tiers i) row).2.map (i, ·) else none)

/-- Replace one tier. -/
def Store.setTier (store : Store V D registry) (i : Fin STORE_TIERS)
    (tier : StoreTier V D registry.count) : Store V D registry :=
  { store with tiers := Function.update store.tiers i tier }

omit [SampleArith V D] in
@[simp] theorem Store.setTier_self (store : Store V D registry) (i : Fin STORE_TIERS)
    (tier : StoreTier V D registry.count) : (store.setTier i tier).tiers i = tier := by
  simp [Store.setTier]

/-- `store_restore`: append straight into one tier, bypassing downsampling. -/
def storeRestore (store : Store V D registry) (i : Fin STORE_TIERS)
    (row : Row V registry.count) : Store V D registry :=
  store.setTier i (tierAppend (store.tiers i) row)

/-- `store_set_tier_callback`. -/
def storeSetTierCallback (store : Store V D registry) (i : Fin STORE_TIERS) (callback : Bool) :
    Store V D registry :=
  store.setTier i { store.tiers i with callback := callback }

/-- `store_tier_span_s`. -/
def storeTierSpanS (store : Store V D registry) (i : Fin STORE_TIERS) : ℕ :=
  (store.tiers i).intervalS * (store.tiers i).ring.capacity

/-- `store_tier_count`. -/
def storeTierCount (store : Store V D registry) (i : Fin STORE_TIERS) : ℕ :=
  (store.tiers i).ring.count

/-- The slot of the row at `index`, oldest first. -/
def tierSlot (tier : StoreTier V D n) (index : ℕ) : ℕ :=
  let start := (tier.ring.head + tier.ring.capacity - tier.ring.count) % tier.ring.capacity
  (start + index) % tier.ring.capacity

/-- `store_tier_sample`: one whole sample row, oldest first. -/
def storeTierSample (store : Store V D registry) (i : Fin STORE_TIERS) (index : ℕ) :
    Option (Row V registry.count) :=
  if index < (store.tiers i).ring.count then
    some ((store.tiers i).ring.slots (tierSlot (store.tiers i) index))
  else none

/-- `store_tier_for_window`: the finest tier with at most ~2000 points, else the coarsest. -/
def storeTierForWindow (store : Store V D registry) (windowS : ℕ) : Fin STORE_TIERS :=
  ((List.finRange STORE_TIERS).find? fun i => windowS / (store.tiers i).intervalS ≤ 2000).getD 2

/-- The loop of `store_series` over the row indices still to come. -/
def seriesLoop (tier : StoreTier V D n) (metric : Fin n) (since : ℤ) (maxPoints : ℕ) :
    List ℕ → List (Int64 × V) → List (Int64 × V)
  | [], written => written
  | i :: rest, written =>
    if maxPoints ≤ written.length then written
    else
      let row := tier.ring.slots (tierSlot tier i)
      if row.timestamp.toInt < since then seriesLoop tier metric since maxPoints rest written
      else seriesLoop tier metric since maxPoints rest
        (written ++ [(row.timestamp, row.values metric)])

/-- `store_series`: up to `maxPoints` samples of one metric, oldest first. -/
def storeSeries (store : Store V D registry) (i : Fin STORE_TIERS) (metric : Fin registry.count)
    (since : ℤ) (maxPoints : ℕ) : List (Int64 × V) :=
  seriesLoop (store.tiers i) metric since maxPoints (List.range (store.tiers i).ring.count) []

/-- The rows a tier holds, oldest first. -/
def tierRows (tier : StoreTier V D n) : List (Row V n) := tier.ring.toList

omit [SampleArith V D] in
theorem tierRows_eq_map (tier : StoreTier V D n) :
    tierRows tier = (List.range tier.ring.count).map fun i => tier.ring.slots (tierSlot tier i) :=
  rfl

/-- The states of a store between `store_new` and `store_free`. -/
inductive StoreReachable (registry : MetricRegistry) (baseIntervalS memory : ℕ) :
    Store V D registry → Prop where
  | new : StoreReachable registry baseIntervalS memory (storeNew registry baseIntervalS memory)
  | push {store : Store V D registry} (row : Row V registry.count) :
      StoreReachable registry baseIntervalS memory store →
      StoreReachable registry baseIntervalS memory (storePush store row).1
  | restore {store : Store V D registry} (i : Fin STORE_TIERS) (row : Row V registry.count) :
      StoreReachable registry baseIntervalS memory store →
      StoreReachable registry baseIntervalS memory (storeRestore store i row)
  | setCallback {store : Store V D registry} (i : Fin STORE_TIERS) (callback : Bool) :
      StoreReachable registry baseIntervalS memory store →
      StoreReachable registry baseIntervalS memory (storeSetTierCallback store i callback)

end AxisMetrics
