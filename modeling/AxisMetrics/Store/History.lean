import AxisMetrics.Api.Series

/-!
# What a tier was given and what it shows

A store takes samples and, after a restart, saved rows. `appendedRows` is the list of rows a
tier appends along such a run; its readers show the end of that list, oldest first, whatever
the ring buffer has wrapped to.
-/

namespace AxisMetrics

open Lib (Bytes RingBuffer guint guintSub)

variable {V D : Type} {n : ℕ} {registry : MetricRegistry}

/-- A call that appends rows. -/
inductive StoreEvent (V : Type) (n : ℕ) where
  | push (row : Row V n)
  | restore (i : Fin STORE_TIERS) (row : Row V n)

section Run

variable [SampleArith V D]

def storeStep (store : Store V D registry) : StoreEvent V registry.count → Store V D registry
  | .push row => (storePush store row).1
  | .restore i row => storeRestore store i row

/-- The rows that one call appends to tier `i`. -/
def stepRows (store : Store V D registry) (i : Fin STORE_TIERS) :
    StoreEvent V registry.count → List (Row V registry.count)
  | .push row => (tierPush i (store.tiers i) row).2.toList
  | .restore j row => if i = j then [row] else []

def storeRun (store : Store V D registry) (events : List (StoreEvent V registry.count)) :
    Store V D registry :=
  events.foldl storeStep store

/-- The rows that a run appends to tier `i`, in order. -/
def appendedRows (i : Fin STORE_TIERS) (store : Store V D registry) :
    List (StoreEvent V registry.count) → List (Row V registry.count)
  | [] => []
  | event :: events => stepRows store i event ++ appendedRows i (storeStep store event) events

variable {store : Store V D registry} {i : Fin STORE_TIERS}

@[simp] theorem storeRun_nil (store : Store V D registry) : storeRun store [] = store := rfl

@[simp] theorem storeRun_cons (store : Store V D registry) (event : StoreEvent V registry.count)
    (events : List (StoreEvent V registry.count)) :
    storeRun store (event :: events) = storeRun (storeStep store event) events := rfl

theorem capacity_storeStep (store : Store V D registry) (i : Fin STORE_TIERS)
    (event : StoreEvent V registry.count) :
    ((storeStep store event).tiers i).ring.capacity = (store.tiers i).ring.capacity := by
  cases event with
  | push row => exact tierPush_capacity i _ row
  | restore j row =>
    simp only [storeStep, storeRestore, Store.setTier_tiers]
    split
    · next hij =>
      subst hij
      rfl
    · rfl

/-- One call appends its rows, and drops from the front what no longer fits. -/
theorem tierRows_storeStep (store : Store V D registry) (i : Fin STORE_TIERS)
    (event : StoreEvent V registry.count) :
    tierRows ((storeStep store event).tiers i) =
      (tierRows (store.tiers i) ++ stepRows store i event).rtake
        (store.tiers i).ring.capacity := by
  cases event with
  | push row => exact tierRows_tierPush i _ row
  | restore j row =>
    simp only [storeStep, storeRestore, Store.setTier_tiers, stepRows]
    split
    · next hij =>
      subst hij
      exact tierRows_tierAppend _ _
    · rw [List.append_nil]
      exact (Lib.rtake_of_length_le (length_tierRows_le _)).symm

/-- A run appends its rows, and a tier keeps the last ones. -/
theorem tierRows_storeRun (store : Store V D registry) (i : Fin STORE_TIERS)
    (events : List (StoreEvent V registry.count)) :
    tierRows ((storeRun store events).tiers i) =
      (tierRows (store.tiers i) ++ appendedRows i store events).rtake
        (store.tiers i).ring.capacity := by
  induction events generalizing store with
  | nil =>
    rw [storeRun_nil, appendedRows, List.append_nil]
    exact (Lib.rtake_of_length_le (length_tierRows_le _)).symm
  | cons event events ih =>
    rw [storeRun_cons, ih, capacity_storeStep, tierRows_storeStep, Lib.rtake_rtake_append,
      appendedRows, List.append_assoc]

theorem StoreReachable.storeRun {baseIntervalS memory : ℕ}
    (h : StoreReachable registry baseIntervalS memory store)
    (events : List (StoreEvent V registry.count)) :
    StoreReachable registry baseIntervalS memory (AxisMetrics.storeRun store events) := by
  induction events generalizing store with
  | nil => exact h
  | cons event events ih =>
    rw [storeRun_cons]
    cases event with
    | push row => exact ih (h.push row)
    | restore i row => exact ih (h.restore i row)

end Run

/-- The readers of tier `i` show the rows of a list. -/
structure ShowsRows (store : Store V D registry) (i : Fin STORE_TIERS)
    (rows : List (Row V registry.count)) : Prop where
  sample : ∀ k, storeTierSample store i k = rows[k]?
  count : storeTierCount store i = rows.length
  series : ∀ metric since maxPoints, storeSeries store i metric since maxPoints =
    ((rows.filter fun row => since ≤ row.timestamp.toInt).take maxPoints).map
      fun row => (row.timestamp, row.values metric)

/-- In a series response, every metric has its values from the rows whose timestamps the response
has. -/
def SharesClock (store : Store V D registry) (now : ℤ) (query : Bytes)
    (rows : List (Row V registry.count)) : Prop :=
  (apiSeriesJson store now query).series =
      ((List.finRange registry.count).filter fun i => seriesWanted query (registry.id i)).map
        (fun i => (registry.id i, rows.map (·.values i))) ∧
    ∀ i, seriesWanted query (registry.id i) →
      (apiSeriesJson store now query).timestamps = rows.map (·.timestamp)

theorem showsRows_tierRows (store : Store V D registry) (i : Fin STORE_TIERS) :
    ShowsRows store i (tierRows (store.tiers i)) where
  sample k := by
    rw [tierRows_eq_map, List.getElem?_map]
    unfold storeTierSample
    split
    · next hk => rw [List.getElem?_range hk, Option.map_some]
    · next hk => rw [List.getElem?_eq_none (by simpa using hk), Option.map_none]
  count := (length_tierRows _).symm
  series metric since maxPoints := storeSeries_eq store i metric since maxPoints

theorem sharesClock_requestedRows (store : Store V D registry) (now : ℤ) (query : Bytes) :
    SharesClock store now query ((requestedRows store now query).take MAX_SERIES_POINTS) := by
  refine ⟨List.map_congr_left fun i _ => ?_, fun i hi => apiSeriesJson_timestamps store now query hi⟩
  dsimp only
  rw [storeSeries_eq, List.map_map]
  rfl

variable [SampleArith V D]

/-- After any run, each tier shows the last rows appended to it, as many as fit, and a series
response reads timestamps and values from the same rows of the tier that answers. -/
theorem showsRows_storeRun (registry : MetricRegistry) (baseIntervalS memory : ℕ)
    (events : List (StoreEvent V registry.count)) (i : Fin STORE_TIERS) :
    let store := storeRun (storeNew registry baseIntervalS memory) events
    let rows := (appendedRows i (storeNew registry baseIntervalS memory) events).rtake
      (tierCapacity registry.count baseIntervalS memory i)
    ShowsRows store i rows ∧ ∀ now query, (apiSeriesJson store now query).tier = i →
      SharesClock store now query ((rows.filter fun row =>
        now - seriesWindow query ≤ row.timestamp.toInt).take MAX_SERIES_POINTS) := by
  intro store rows
  have hrows : tierRows (store.tiers i) = rows := by
    have hrun := tierRows_storeRun (storeNew registry baseIntervalS memory) i events
    rwa [tierRows_storeNew, List.nil_append] at hrun
  refine ⟨hrows ▸ showsRows_tierRows store i, fun now query htier => ?_⟩
  have hclock := sharesClock_requestedRows store now query
  rwa [requestedRows, rowsSince, show storeTierForWindow store (seriesWindow query) = i from htier,
    hrows] at hclock

end AxisMetrics
