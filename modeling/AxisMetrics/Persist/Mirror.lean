import AxisMetrics.Persist.Disk

/-!
# The history file mirrors the tier

The tier in memory and its file are two circular buffers that start at different heads.
Every row the tier takes is appended to both, so at a close they hold the same rows, and
a load under any registry restores the newest of them that fit, carried over by id.
-/

namespace AxisMetrics

open Lib (Bytes ByteFile FileOp RingBuffer ascii)

variable {D : Type} {registry : MetricRegistry}

section Recorded

variable [SampleArith CFloat D]

/-- The listener of a tier hears exactly the row its push appended. -/
theorem storePush_calls (store : Store CFloat D registry) (i : Fin STORE_TIERS)
    (row : Row CFloat registry.count) (hlisten : (store.tiers i).callback = true) :
    ((storePush store row).2.filterMap fun (j, row) => if j = i then some row else none) =
      (tierPush i (store.tiers i) row).2.toList := by
  have hcall : ∀ j : Fin STORE_TIERS, (Option.bind
      (if (store.tiers j).callback then (tierPush j (store.tiers j) row).2.map (j, ·) else none)
      fun (j, row) => if j = i then some row else none) =
        if j = i then (tierPush i (store.tiers i) row).2 else none := by
    intro j
    by_cases hj : j = i
    · subst hj
      rw [if_pos hlisten, if_pos rfl]
      cases (tierPush j (store.tiers j) row).2 <;> simp
    · rw [if_neg hj]
      split
      · cases (tierPush j (store.tiers j) row).2 <;> simp [hj]
      · rfl
  rw [storePush, List.filterMap_filterMap, List.filterMap_congr fun j _ => hcall j]
  have hf : List.finRange STORE_TIERS = [0, 1, 2] := rfl
  rw [hf]
  match i with
  | 0 => cases (tierPush 0 (store.tiers 0) row).2 <;> rfl
  | 1 => cases (tierPush 1 (store.tiers 1) row).2 <;> rfl
  | 2 => cases (tierPush 2 (store.tiers 2) row).2 <;> rfl

theorem tierPush_callback (i : Fin STORE_TIERS) (tier : StoreTier CFloat D registry.count)
    (row : Row CFloat registry.count) : (tierPush i tier row).1.callback = tier.callback := by
  unfold tierPush coarsePush
  dsimp only
  split
  · rfl
  · split <;> rfl

omit [SampleArith CFloat D] in
theorem tierRows_setCallback (store : Store CFloat D registry) (i : Fin STORE_TIERS)
    (callback : Bool) :
    tierRows ((storeSetTierCallback store i callback).tiers i) = tierRows (store.tiers i) := by
  rw [storeSetTierCallback, Store.setTier_self]
  rfl

/-- A run of recorded pushes appends to the file just what it appends to the tier. -/
theorem pushAllRecorded_spec (i : Fin STORE_TIERS) (store : Store CFloat D registry)
    (persist : Persist registry) (rows : List (Row CFloat registry.count))
    (hlisten : (store.tiers i).callback = true) :
    ∃ appended : List (Row CFloat registry.count),
      (pushAllRecorded i store persist rows).2 = persistAppends persist appended ∧
      tierRows ((pushAllRecorded i store persist rows).1.tiers i) =
        (tierRows (store.tiers i) ++ appended).rtake (store.tiers i).ring.capacity := by
  induction rows generalizing store persist with
  | nil =>
    refine ⟨[], rfl, ?_⟩
    rw [List.append_nil, Lib.rtake_of_length_le (length_tierRows_le _)]
    rfl
  | cons row rows ih =>
    set here := (tierPush i (store.tiers i) row).2.toList with hhere
    obtain ⟨later, hops, hrows⟩ := ih (storePush store row).1 (persistAppends persist here).1
      ((tierPush_callback i _ row).trans hlisten)
    have hcalls := storePush_calls store i row hlisten
    refine ⟨here ++ later, ?_, ?_⟩
    · rw [persistAppends_append, ← hops]
      simp only [pushAllRecorded, pushRecorded, hcalls, ← hhere]
    · have hpush : tierRows ((storePush store row).1.tiers i) =
          (tierRows (store.tiers i) ++ here).rtake (store.tiers i).ring.capacity :=
        tierRows_tierPush i (store.tiers i) row
      have hcap : ((storePush store row).1.tiers i).ring.capacity =
          (store.tiers i).ring.capacity := tierPush_capacity i (store.tiers i) row
      rw [hpush, hcap, Lib.rtake_rtake_append, List.append_assoc] at hrows
      rw [← hrows]
      simp only [pushAllRecorded, pushRecorded, hcalls, ← hhere]

/-- The fine tier takes every sample. -/
theorem tierRows_pushAllRecorded_fine (store : Store CFloat D registry) (persist : Persist registry)
    (rows : List (Row CFloat registry.count)) :
    tierRows ((pushAllRecorded 0 store persist rows).1.tiers 0) =
      (tierRows (store.tiers 0) ++ rows).rtake (store.tiers 0).ring.capacity := by
  induction rows generalizing store persist with
  | nil =>
    rw [List.append_nil, Lib.rtake_of_length_le (length_tierRows_le _)]
    rfl
  | cons row rows ih =>
    have hpush : tierRows ((storePush store row).1.tiers 0) =
        (tierRows (store.tiers 0) ++ [row]).rtake (store.tiers 0).ring.capacity :=
      tierRows_tierPush 0 (store.tiers 0) row
    have hcap : ((storePush store row).1.tiers 0).ring.capacity = (store.tiers 0).ring.capacity :=
      tierPush_capacity 0 (store.tiers 0) row
    have hlater := ih (storePush store row).1 (pushRecorded 0 store persist row).2.1
    rw [hpush, hcap, Lib.rtake_rtake_append, List.append_assoc, List.singleton_append] at hlater
    exact hlater

theorem tierRows_recordTier_fine (store : Store CFloat D registry) (persist : Persist registry)
    (rows : List (Row CFloat registry.count)) :
    tierRows ((recordTier 0 store persist rows).1.tiers 0) =
      (tierRows (store.tiers 0) ++ rows).rtake (store.tiers 0).ring.capacity := by
  have hself : (storeSetTierCallback store 0 true).tiers 0 =
      { store.tiers 0 with callback := true } := Store.setTier_self _ _ _
  rw [recordTier]
  dsimp only
  rw [tierRows_setCallback, tierRows_pushAllRecorded_fine, tierRows_setCallback, hself]

/-- At a close the file holds the rows of the tier. -/
theorem onDisk_recordTier {baseIntervalS memory : ℕ} {store : Store CFloat D registry}
    (hstore : StoreReachable registry baseIntervalS memory store) (hbase : baseIntervalS < 2 ^ 32)
    (hcount : registry.count ≤ 100000) (i : Fin STORE_TIERS)
    (rows : List (Row CFloat registry.count)) (file : ByteFile) :
    ∃ ring : RingBuffer (Row CFloat registry.count),
      LayoutFits registry (store.tiers i).intervalS ring.capacity ∧
      ring.toList =
        tierRows ((recordTier i store (persistOpen (store.tiers i)) rows).1.tiers i) ∧
      OnDisk registry (store.tiers i).intervalS
        (file.applyAll (recordTier i store (persistOpen (store.tiers i)) rows).2) ring ring := by
  have hbounds := hstore.capacity_bounds i
  have hf : LayoutFits registry (store.tiers i).intervalS (store.tiers i).ring.capacity :=
    ⟨hcount, hstore.intervalS_lt hbase i, by omega⟩
  have hself : (storeSetTierCallback store i true).tiers i =
      { store.tiers i with callback := true } := Store.setTier_self _ _ _
  obtain ⟨appended, hops, hrows⟩ := pushAllRecorded_spec i (storeSetTierCallback store i true)
    (persistSync (persistOpen (store.tiers i)) store i).1 rows (by rw [hself])
  obtain ⟨ring, hcap, hlist, hdisk⟩ := onDisk_close (persistOpen (store.tiers i)) file
    (tierRows (store.tiers i) ++ appended) (show 0 < (store.tiers i).ring.capacity by omega) hf
  refine ⟨ring, ?_, ?_, ?_⟩
  · rwa [hcap]
  · rw [hself] at hrows
    rw [hlist, recordTier]
    dsimp only
    rw [tierRows_setCallback, hrows]
    rfl
  · rw [persistAppends_append] at hdisk
    rw [persistSync_eq] at hops
    simp only [recordTier, persistSync_eq, hops]
    simp only [List.append_assoc] at hdisk ⊢
    exact hdisk

variable {saved current : MetricRegistry}

/-- The rows a tier holds when its file is closed come back under any registry: the newest
that fit, in order, carried over by id. -/
theorem persistLoad_recordTier {baseIntervalS memory : ℕ} {store : Store CFloat D saved}
    (hstore : StoreReachable saved baseIntervalS memory store) (hbase : baseIntervalS < 2 ^ 32)
    (hdistinct : saved.Distinct) (hcount : 1 ≤ saved.count) (hcount' : saved.count ≤ 100000)
    (i : Fin STORE_TIERS) (rows : List (Row CFloat saved.count)) (file : ByteFile)
    (hpos : ∀ row ∈ tierRows ((recordTier i store (persistOpen (store.tiers i)) rows).1.tiers i),
      0 < row.timestamp)
    (store' : Store CFloat D current) (j : Fin STORE_TIERS)
    (hempty : tierRows (store'.tiers j) = [])
    (hinterval : (store'.tiers j).intervalS = (store.tiers i).intervalS) :
    RowsRemapped saved current
      ((tierRows ((recordTier i store (persistOpen (store.tiers i)) rows).1.tiers i)).rtake
        (store'.tiers j).ring.capacity)
      (tierRows ((persistLoad (persistOpen (store'.tiers j))
        (file.applyAll (recordTier i store (persistOpen (store.tiers i)) rows).2)
        store' j).1.tiers j)) := by
  obtain ⟨ring, hf, hlist, hdisk⟩ := onDisk_recordTier hstore hbase hcount' i rows file
  rw [← hinterval] at hf hdisk
  have hsaved : savedRows (persistOpen (store'.tiers j)) _ = _ :=
    hdisk.savedRows_of_flushed hf (by omega) (hlist ▸ hpos)
  rw [persistLoad]
  dsimp only
  rw [tierRows_restoreAll, hempty, List.nil_append, hsaved, hlist, ← Lib.map_rtake]
  exact rowsRemapped_map hdistinct _

end Recorded

/-- A tier that takes one sample while it is recorded. -/
abbrev oneSampleRun (registry : MetricRegistry) : Store CFloat Float registry × List FileOp :=
  recordTier 0 (storeNew registry 1 0) (persistOpen ((storeNew registry 1 0).tiers 0))
    [⟨1000, fun _ => ⟨0x3f800000⟩⟩]

theorem tierRows_oneSampleRun (registry : MetricRegistry) :
    tierRows ((oneSampleRun registry).1.tiers 0) = [⟨1000, fun _ => ⟨0x3f800000⟩⟩] := by
  have hpos : 1 ≤ tierCapacity registry.count 1 0 0 := tierCapacity_pos _ _ _ _
  rw [oneSampleRun, tierRows_recordTier_fine, tierRows_storeNew, Lib.rtake_of_length_le]
  · rfl
  · exact hpos

/-- Rows a second apart. -/
def secondRows {n : ℕ} (first count : ℕ) : List (Row CFloat n) :=
  (List.range' first count).map fun t => ⟨Int64.ofNat t, fun i => ⟨UInt32.ofNat (t + i)⟩⟩

theorem length_secondRows {n : ℕ} (first count : ℕ) :
    (secondRows first count : List (Row CFloat n)).length = count := by
  rw [secondRows, List.length_map, List.length_range']

theorem secondRows_append {n : ℕ} (first count more : ℕ) :
    (secondRows first count ++ secondRows (first + count) more : List (Row CFloat n)) =
      secondRows first (count + more) := by
  rw [secondRows, secondRows, ← List.map_append, List.range'_append_1, secondRows]

theorem rtake_secondRows {n : ℕ} (first dropped count : ℕ) :
    (secondRows first (dropped + count) : List (Row CFloat n)).rtake count =
      secondRows (first + dropped) count := by
  rw [← secondRows_append, List.rtake, List.length_append, length_secondRows, length_secondRows,
    Nat.add_sub_cancel, List.drop_left' (length_secondRows _ _)]

/-- The metrics when a file is recorded, and when it is loaded. -/
abbrev recordedRegistry : MetricRegistry := .registerAll [ascii "cpu.usage", ascii "fs.card.usage"]

abbrev reloadedRegistry : MetricRegistry := .registerAll [ascii "mem.used", ascii "cpu.usage"]

/-- The store before the file is opened, with a thousand rows. -/
abbrev filledStore : Store CFloat Float recordedRegistry :=
  restoreAll (storeNew _ 1 0) 0 (secondRows 1 1000)

/-- Another thousand while it is open, so that the tier is full. -/
abbrev wrappedRun : Store CFloat Float recordedRegistry × List FileOp :=
  recordTier 0 filledStore (persistOpen (filledStore.tiers 0)) (secondRows 1001 1000)

theorem reachable_filledStore : StoreReachable recordedRegistry 1 0 filledStore :=
  StoreReachable.new.restoreAll 0 _

theorem tierRows_wrappedRun : tierRows (wrappedRun.1.tiers 0) = secondRows 201 1800 := by
  have hcapacity : (filledStore.tiers 0).ring.capacity = 1800 :=
    (reachable_filledStore.shape 0).2.trans (by decide)
  have hfilled : tierRows (filledStore.tiers 0) = secondRows 1 1000 := by
    rw [tierRows_restoreAll, tierRows_storeNew, List.nil_append, Lib.rtake_of_length_le]
    rw [length_secondRows]
    decide
  rw [wrappedRun, tierRows_recordTier_fine, hcapacity, hfilled,
    secondRows_append 1 1000 1000, rtake_secondRows 1 200 1800]

/-- A smaller tier, which has lost a metric and found another, gets the newest three hundred. -/
theorem persistLoad_wrappedRun :
    RowsRemapped recordedRegistry reloadedRegistry (secondRows 1701 300)
      (tierRows ((persistLoad (persistOpen
          ((storeNew reloadedRegistry 1 (2 ^ 20) : Store CFloat Float _).tiers 0))
        (ByteFile.empty.applyAll wrappedRun.2) (storeNew reloadedRegistry 1 (2 ^ 20)) 0).1.tiers 0)) := by
  have hpos : ∀ row ∈ tierRows (wrappedRun.1.tiers 0), 0 < row.timestamp := by
    rw [tierRows_wrappedRun]
    intro row hrow
    obtain ⟨t, ht, rfl⟩ := List.mem_map.mp hrow
    obtain ⟨hfirst, hlast⟩ := List.mem_range'_1.mp ht
    rw [Int64.lt_iff_toInt_lt, Int64.toInt_ofNat_of_lt (by omega)]
    exact show (0 : ℤ) < t by omega
  have hinterval : ((storeNew reloadedRegistry 1 (2 ^ 20) : Store CFloat Float _).tiers 0).intervalS =
      (filledStore.tiers 0).intervalS := (reachable_filledStore.shape 0).1.symm
  have hcapacity : ((storeNew reloadedRegistry 1 (2 ^ 20) :
      Store CFloat Float _).tiers 0).ring.capacity = 300 := by decide
  rw [wrappedRun] at hpos
  have hload := persistLoad_recordTier reachable_filledStore (by decide) (by decide) (by decide)
    (by decide) 0 (secondRows 1001 1000) ByteFile.empty hpos
    (storeNew reloadedRegistry 1 (2 ^ 20)) 0 (tierRows_storeNew 0) hinterval
  rw [← wrappedRun] at hload
  rw [tierRows_wrappedRun, hcapacity, rtake_secondRows 201 1500 300] at hload
  exact hload

/-- Without metrics nothing comes back: the header's `n_metrics` of zero is refused. -/
theorem not_persistLoad_no_metrics :
    ¬ RowsRemapped (.registerAll []) (.registerAll [])
      ((tierRows ((oneSampleRun (.registerAll [])).1.tiers 0)).rtake
        (((storeNew (.registerAll []) 1 0 : Store CFloat Float _).tiers 0).ring.capacity))
      (tierRows ((persistLoad (persistOpen
          ((storeNew (.registerAll []) 1 0 : Store CFloat Float _).tiers 0))
        (ByteFile.empty.applyAll (oneSampleRun (.registerAll [])).2)
        (storeNew (.registerAll []) 1 0) 0).1.tiers 0)) := by
  intro h
  have hstore : StoreReachable (.registerAll []) 1 0
      (storeNew (.registerAll []) 1 0 : Store CFloat Float _) := .new
  obtain ⟨ring, -, -, hdisk⟩ := onDisk_recordTier hstore (by decide) (by decide) 0
    [⟨1000, fun _ => ⟨0x3f800000⟩⟩] ByteFile.empty
  have hsaved : savedRows (persistOpen ((storeNew (.registerAll []) 1 0 :
      Store CFloat Float _).tiers 0)) _ = [] := hdisk.savedRows_of_no_metrics rfl
  rw [persistLoad, hsaved, tierRows_oneSampleRun] at h
  have hheld := h.length_eq
  rw [Lib.length_rtake] at hheld
  exact absurd hheld (show min 1800 1 ≠ 0 by decide)

end AxisMetrics
