import AxisMetrics.Persist.Late
import AxisMetrics.Persist.Torn

/-!
# A shelf of tiers

What the history files are for, without the files: on each storage and for each tier, a shelf keeps
the rows of the tier as the last process that recorded it there left them. Opening the file of a tier
takes from the shelf and closing it puts back. The files do that for any rows, up to those without a
valid timestamp, and under any metrics: `Shelved` relates the two, and each operation of `main.c` on
the files keeps it.
-/

namespace AxisMetrics

open Lib (Bytes ByteFile RingBuffer ascii)

variable {V D : Type} {registry : MetricRegistry}

-- ═══════════════════════════════════════════════════════════════════════
-- Stores without listeners
-- ═══════════════════════════════════════════════════════════════════════

/-- The store with no listener set. -/
def Store.unheard (store : Store V D registry) : Store V D registry :=
  { store with tiers := fun i => { store.tiers i with callback := false } }

@[simp] theorem unheard_setTierCallback (store : Store V D registry) (i : Fin STORE_TIERS)
    (callback : Bool) : (storeSetTierCallback store i callback).unheard = store.unheard := by
  unfold storeSetTierCallback Store.unheard
  congr 1
  funext j
  rw [Store.setTier_tiers]
  split
  · next h => rw [h]
  · rfl

theorem unheard_storeRestore (store : Store V D registry) (i : Fin STORE_TIERS)
    (row : Row V registry.count) :
    (storeRestore store i row).unheard = storeRestore store.unheard i row := by
  unfold storeRestore Store.unheard
  simp only [Store.setTier]
  congr 1
  funext j
  by_cases h : j = i
  · subst h
    rw [Function.update_self, Function.update_self]
    rfl
  · rw [Function.update_of_ne h, Function.update_of_ne h]

theorem unheard_restoreAll (store : Store V D registry) (i : Fin STORE_TIERS)
    (rows : List (Row V registry.count)) :
    (restoreAll store i rows).unheard = restoreAll store.unheard i rows := by
  induction rows generalizing store with
  | nil => rfl
  | cons row rows ih =>
    rw [restoreAll, restoreAll, List.foldl_cons, List.foldl_cons, ← restoreAll, ← restoreAll, ih,
      unheard_storeRestore]

theorem unheard_tierPush [SampleArith V D] (i : Fin STORE_TIERS) (tier : StoreTier V D registry.count)
    (row : Row V registry.count) :
    (tierPush i { tier with callback := false } row).1 =
      { (tierPush i tier row).1 with callback := false } := by
  unfold tierPush
  split
  · rfl
  · have hbucket : tierAccumulate { tier with callback := false } row =
        { tierAccumulate tier row with callback := false } := rfl
    unfold coarsePush
    rw [hbucket]
    dsimp only
    split <;> rfl

theorem unheard_storePush [SampleArith V D] (store : Store V D registry)
    (row : Row V registry.count) :
    (storePush store row).1.unheard = (storePush store.unheard row).1 := by
  unfold storePush Store.unheard
  congr 1
  funext i
  exact (unheard_tierPush i _ row).symm

-- ═══════════════════════════════════════════════════════════════════════
-- The shelf
-- ═══════════════════════════════════════════════════════════════════════

/-- What a storage has of a tier: a file that was there before, or the tier as it was left. -/
inductive Memory (D : Type) where
  | found (file : ByteFile)
  | left (saved : MetricRegistry) (tier : StoreTier CFloat D saved.count)

/-- The rows that come back from it. A tier of another interval is not the same history. -/
def Memory.recall (memory : Memory D) (reader : Persist registry) :
    List (Row CFloat registry.count) :=
  match memory with
  | .found file => savedRows reader file
  | .left saved tier =>
    if reader.intervalS = tier.intervalS then
      ((tierRows tier).filter fun row => 0 < row.timestamp).map (remapRow saved registry)
    else []

/-- What each storage has of each tier. -/
abbrev Shelf (D : Type) := StorageBase → Fin STORE_TIERS → Memory D

/-- A store that is filled from the shelf and put back on it: where each tier was opened. -/
structure ShelvedStore (D : Type) (registry : MetricRegistry) where
  shelf : Shelf D
  store : Store CFloat D registry
  opened : Fin STORE_TIERS → Option StorageBase

namespace ShelvedStore

/-- A tier is put back where it was opened. -/
def closeTier (s : ShelvedStore D registry) (i : Fin STORE_TIERS) : ShelvedStore D registry :=
  match s.opened i with
  | none => s
  | some base =>
    { s with
      shelf := Function.update s.shelf base
        (Function.update (s.shelf base) i (.left registry (s.store.tiers i)))
      opened := Function.update s.opened i none }

def closeAll (s : ShelvedStore D registry) : ShelvedStore D registry :=
  (List.finRange STORE_TIERS).foldl closeTier s

/-- An empty tier is filled with what the storage has of it. -/
def openTier (s : ShelvedStore D registry) (i : Fin STORE_TIERS) (base : StorageBase) :
    ShelvedStore D registry :=
  { s with
    store := if tierRows (s.store.tiers i) = [] then
        restoreAll s.store i ((s.shelf base i).recall (persistOpen (s.store.tiers i)))
      else s.store
    opened := Function.update s.opened i (some base) }

/-- The tiers are opened in order, all or none. -/
def openTiers (results : Fin STORE_TIERS → Option StorageBase) (s : ShelvedStore D registry) :
    List (Fin STORE_TIERS) → ShelvedStore D registry
  | [] => s
  | i :: rest =>
    match results i with
    | none => s.closeAll
    | some base => openTiers results (s.openTier i base) rest

def push [SampleArith CFloat D] (s : ShelvedStore D registry) (row : Row CFloat registry.count) :
    ShelvedStore D registry :=
  { s with store := (storePush s.store row).1 }

end ShelvedStore

-- ═══════════════════════════════════════════════════════════════════════
-- The files are a shelf
-- ═══════════════════════════════════════════════════════════════════════

/-- Paths are the same for the same storage and tier only. -/
theorem persistFilePath_inj {base base' : StorageBase} {i i' : Fin STORE_TIERS}
    (h : persistFilePath base i = persistFilePath base' i') : base = base' ∧ i = i' := by
  obtain rfl : i = i' := by
    by_contra hne
    exact persistFilePath_ne hne base base' h
  refine ⟨?_, rfl⟩
  rw [persistFilePath_eq, persistFilePath_eq] at h
  have hbase := List.append_cancel_right h
  rw [List.append_assoc, List.append_assoc] at hbase
  exact Subtype.ext (List.append_cancel_right hbase)

/-- The file of a tier is open on a storage and is a circular buffer. -/
def HistoryFiles.OpenAt (files : HistoryFiles D registry) (i : Fin STORE_TIERS) (base : StorageBase)
    (ring : RingBuffer (Row CFloat registry.count)) : Prop :=
  ∃ persist, files.persists i = some ⟨persistFilePath base i, persist⟩ ∧
    persist.intervalS = (files.store.tiers i).intervalS ∧
    (OpenRecording.mk persist (files.disk (persistFilePath base i))).Holds ring

/-- The file of a tier that is open holds the rows of the tier. -/
structure HistoryFiles.Mirrors (files : HistoryFiles D registry) (i : Fin STORE_TIERS)
    (base : StorageBase) : Prop where
  callback : (files.store.tiers i).callback = true
  file : ∃ ring, files.OpenAt i base ring ∧
    ring.capacity = (files.store.tiers i).ring.capacity ∧
    ring.toList = tierRows (files.store.tiers i)

/-- A file gives back what the shelf says. -/
def Recalls (file : ByteFile) (memory : Memory D) : Prop :=
  ∀ (current : MetricRegistry) (reader : Persist current),
    savedRows reader file = memory.recall reader

/-- The files of a store are the shelf of that store. -/
structure Shelved (files : HistoryFiles D registry) (s : ShelvedStore D registry) : Prop where
  store : s.store = files.store.unheard
  shut : ∀ i, s.opened i = none → files.persists i = none
  mirrors : ∀ i base, s.opened i = some base → files.Mirrors i base
  recalls : ∀ i base, s.opened i ≠ some base →
    Recalls (files.disk (persistFilePath base i)) (s.shelf base i)
  fits : files.Fits
  metrics : registry.count ≠ 0

/-- A file that is closed gives back the rows of its tier. -/
theorem recalls_closed {f : OpenRecording registry} {ring : RingBuffer (Row CFloat registry.count)}
    (h : f.Holds ring) (hcount : registry.count ≠ 0) {tier : StoreTier CFloat D registry.count}
    (hinterval : f.persist.intervalS = tier.intervalS) (hrows : ring.toList = tierRows tier) :
    Recalls (f.file.applyAll (persistClose f.persist)) (Memory.left registry tier) := by
  intro current reader
  rw [Memory.recall]
  split
  · next hsame =>
    rw [← hrows]
    exact h.restoredRows_eq hcount reader (hsame.trans hinterval.symm)
  · next hother =>
    exact h.restoredRows_of_ne reader fun hsame => hother (hsame.trans hinterval)

variable {files : HistoryFiles D registry} {s : ShelvedStore D registry}

/-- Closing a file puts its tier back. -/
theorem Shelved.closeTier (h : Shelved files s) (i : Fin STORE_TIERS) :
    Shelved (files.closeTier i) (s.closeTier i) := by
  unfold ShelvedStore.closeTier
  cases hopened : s.opened i with
  | none =>
    have hsame : files.closeTier i = files := by
      rw [HistoryFiles.closeTier, h.shut i hopened]
    rwa [hsame]
  | some base =>
    obtain ⟨-, ring, ⟨persist, hpersist, hinterval, hholds⟩, -, hrows⟩ := h.mirrors i base hopened
    have hclosed : files.closeTier i = { files with
        store := storeSetTierCallback files.store i false
        persists := Function.update files.persists i none
        disk := Function.update files.disk (persistFilePath base i)
          ((files.disk (persistFilePath base i)).applyAll (persistClose persist)) } := by
      rw [HistoryFiles.closeTier, hpersist]
    rw [hclosed]
    have hring : ∀ j, HistoryFiles.SameRing (files.store.tiers j)
        ((storeSetTierCallback files.store i false).tiers j) :=
      fun j => HistoryFiles.sameRing_setTierCallback files.store i j false
    refine ⟨?_, fun j hj => ?_, fun j base' hj => ?_, fun j base' hj => ?_, fun j => ?_, h.metrics⟩
    · rw [unheard_setTierCallback]
      exact h.store
    · dsimp only at hj ⊢
      by_cases hji : j = i
      · rw [hji, Function.update_self]
      · rw [Function.update_of_ne hji] at hj ⊢
        exact h.shut j hj
    · -- the other files stay open
      dsimp only at hj
      have hji : j ≠ i := by
        rintro rfl
        rw [Function.update_self] at hj
        cases hj
      rw [Function.update_of_ne hji] at hj
      obtain ⟨hcallback, ring', ⟨persist', hpersist', hinterval', hholds'⟩, hcapacity', hrows'⟩ :=
        h.mirrors j base' hj
      refine ⟨?_, ring', ⟨persist', ?_, ?_, ?_⟩, ?_, ?_⟩
      · rw [HistoryFiles.callback_setTierCallback, if_neg hji]
        exact hcallback
      · exact (Function.update_of_ne hji _ _).trans hpersist'
      · exact hinterval'.trans (hring j).intervalS_eq.symm
      · dsimp only
        rw [Function.update_of_ne (persistFilePath_ne hji base' base)]
        exact hholds'
      · exact hcapacity'.trans (congrArg RingBuffer.capacity (hring j).ring_eq).symm
      · exact hrows'.trans (hring j).tierRows_eq.symm
    · dsimp only at hj ⊢
      by_cases hsame : j = i ∧ base' = base
      · obtain ⟨rfl, rfl⟩ := hsame
        rw [Function.update_self, Function.update_self, Function.update_self]
        exact recalls_closed hholds h.metrics (hinterval.trans (by rw [h.store]; rfl))
          (hrows.trans (by rw [h.store]; rfl))
      · have hpath : persistFilePath base' j ≠ persistFilePath base i := fun hpath =>
          hsame ⟨(persistFilePath_inj hpath).2, (persistFilePath_inj hpath).1⟩
        have hkept : Function.update s.shelf base
            (Function.update (s.shelf base) i (.left registry (s.store.tiers i))) base' j =
              s.shelf base' j := by
          by_cases hbase : base' = base
          · subst hbase
            rw [Function.update_self, Function.update_of_ne fun hji => hsame ⟨hji, rfl⟩]
          · rw [Function.update_of_ne hbase]
        rw [Function.update_of_ne hpath, hkept]
        refine h.recalls j base' fun hj' => hj ?_
        by_cases hji : j = i
        · subst hji
          exact absurd ⟨rfl, Option.some.inj (hj'.symm.trans hopened)⟩ hsame
        · rw [Function.update_of_ne hji]
          exact hj'
    · rw [(hring j).intervalS_eq, (hring j).ring_eq]
      exact h.fits j

theorem Shelved.closeAll (h : Shelved files s) : Shelved files.closeAll s.closeAll := by
  have hfold : ∀ (l : List (Fin STORE_TIERS)) (files : HistoryFiles D registry)
      (s : ShelvedStore D registry), Shelved files s →
      Shelved (l.foldl HistoryFiles.closeTier files) (l.foldl ShelvedStore.closeTier s) := by
    intro l
    induction l with
    | nil => exact fun _ _ h => h
    | cons i l ih => exact fun files s h => ih _ _ (h.closeTier i)
  exact hfold _ _ _ h

/-- Laying out the file of a tier makes it a mirror of the tier. -/
theorem holds_sync (store : Store CFloat D registry) (i : Fin STORE_TIERS) (file : ByteFile)
    (hfits : LayoutFits registry (store.tiers i).intervalS (store.tiers i).ring.capacity) :
    ∃ ring, (OpenRecording.sync store i file).Holds ring ∧
      (OpenRecording.sync store i file).persist.intervalS = (store.tiers i).intervalS ∧
      ring.capacity = (store.tiers i).ring.capacity ∧ ring.toList = tierRows (store.tiers i) := by
  have hcap : 0 < (persistOpen (store.tiers i)).capacity := (store.tiers i).ring.capacity_pos
  obtain ⟨slots, hlaid⟩ := onDisk_initialiseFile (persistOpen (store.tiers i)) file hcap hfits
  set ring := RingBuffer.empty (persistOpen (store.tiers i)).capacity slots hcap
  have hring : LayoutFits registry (persistOpen (store.tiers i)).intervalS ring.capacity := hfits
  obtain ⟨indexed, hall⟩ := hlaid.appends (tierRows (store.tiers i)) hring
  have hpersist := (persistAppends_ringPersist (persistOpen (store.tiers i)).intervalS ring 0
    (by decide) (tierRows (store.tiers i))).1
  have hsync : (OpenRecording.sync store i file).persist =
      ringPersist registry (persistOpen (store.tiers i)).intervalS
        (ring.pushAll (tierRows (store.tiers i)))
        ((0 + (tierRows (store.tiers i)).length) % HEADER_FLUSH_EVERY) := by
    rw [OpenRecording.sync, persistSync_eq]
    exact hpersist
  refine ⟨ring.pushAll (tierRows (store.tiers i)), ⟨⟨indexed, ?_⟩, ⟨_, by rw [hsync]; rfl⟩, ?_⟩,
    ?_, ?_, ?_⟩
  · rw [hsync, OpenRecording.sync, persistSync_eq]
    dsimp only
    rw [ByteFile.applyAll_append]
    exact hall
  · rw [hsync]
    exact RingBuffer.pushAll_capacity ring _ ▸ hring
  · rw [hsync]
    rfl
  · exact RingBuffer.pushAll_capacity ring _
  · rw [RingBuffer.toList_pushAll_empty]
    exact Lib.rtake_of_length_le (length_tierRows_le _)

/-- The store that a file is laid out from. -/
def HistoryFiles.loaded (files : HistoryFiles D registry) (i : Fin STORE_TIERS)
    (base : StorageBase) : Store CFloat D registry :=
  if storeTierCount files.store i = 0 then
    (persistLoad (persistOpen (files.store.tiers i)) (files.disk (persistFilePath base i))
      files.store i).1
  else files.store

/-- Loading changes neither the interval nor the capacity of the tier. -/
theorem loaded_tier (files : HistoryFiles D registry) (i : Fin STORE_TIERS) (base : StorageBase) :
    ((files.loaded i base).tiers i).intervalS = (files.store.tiers i).intervalS ∧
      ((files.loaded i base).tiers i).ring.capacity = (files.store.tiers i).ring.capacity := by
  unfold HistoryFiles.loaded
  split
  · rw [persistLoad]
    dsimp only
    rw [restoreAll_tier]
    exact ⟨rfl, RingBuffer.pushAll_capacity _ _⟩
  · exact ⟨rfl, rfl⟩

theorem openTierFile_eq (files : HistoryFiles D registry) (i : Fin STORE_TIERS)
    (base : StorageBase) :
    let f := OpenRecording.sync (files.loaded i base) i (files.disk (persistFilePath base i))
    (files.openTierFile i base).store = storeSetTierCallback (files.loaded i base) i true ∧
      (files.openTierFile i base).persists =
        Function.update files.persists i (some ⟨persistFilePath base i, f.persist⟩) ∧
      (files.openTierFile i base).disk =
        Function.update files.disk (persistFilePath base i) f.file := by
  have hpersist : persistOpen ((files.loaded i base).tiers i) =
      persistOpen (files.store.tiers i) := by
    obtain ⟨hinterval, hcapacity⟩ := loaded_tier files i base
    rw [persistOpen, persistOpen, hinterval, hcapacity]
  rw [OpenRecording.sync, hpersist]
  exact ⟨rfl, rfl, rfl⟩

/-- What the shelf gives is what the file gives. -/
theorem Shelved.unheard_loaded (h : Shelved files s) {i : Fin STORE_TIERS} (hi : s.opened i = none)
    (base : StorageBase) : (s.openTier i base).store = (files.loaded i base).unheard := by
  have hrecall := h.recalls i base (by rw [hi]; exact (Option.some_ne_none base).symm)
    registry (persistOpen (files.store.tiers i))
  have hempty : storeTierCount files.store i = 0 ↔ tierRows (files.store.tiers i) = [] := by
    rw [storeTierCount, ← length_tierRows, List.length_eq_zero_iff]
  rw [ShelvedStore.openTier, HistoryFiles.loaded, h.store]
  dsimp only
  by_cases hnone : tierRows (files.store.tiers i) = []
  · rw [if_pos (show tierRows (files.store.unheard.tiers i) = [] from hnone),
      if_pos (hempty.mpr hnone), persistLoad, unheard_restoreAll, hrecall]
    rfl
  · rw [if_neg (show tierRows (files.store.unheard.tiers i) ≠ [] from hnone),
      if_neg fun hzero => hnone (hempty.mp hzero)]

/-- Opening a file takes its tier from the shelf. -/
theorem Shelved.openTier (h : Shelved files s) {i : Fin STORE_TIERS} (hi : s.opened i = none)
    (base : StorageBase) : Shelved (files.openTierFile i base) (s.openTier i base) := by
  obtain ⟨hstore, hpersists, hdisk⟩ := openTierFile_eq files i base
  obtain ⟨hinterval, hcapacity⟩ := loaded_tier files i base
  have hring : ∀ j, HistoryFiles.SameRing ((files.loaded i base).tiers j)
      ((storeSetTierCallback (files.loaded i base) i true).tiers j) :=
    fun j => HistoryFiles.sameRing_setTierCallback _ i j true
  have hfits : LayoutFits registry ((files.loaded i base).tiers i).intervalS
      ((files.loaded i base).tiers i).ring.capacity := by
    rw [hinterval, hcapacity]
    exact h.fits i
  obtain ⟨ring, hholds, hfile, hroom, hrows⟩ :=
    holds_sync (files.loaded i base) i (files.disk (persistFilePath base i)) hfits
  refine ⟨?_, fun j hj => ?_, fun j base' hj => ?_, fun j base' hj => ?_,
    h.fits.openTierFile i base, h.metrics⟩
  · rw [hstore, unheard_setTierCallback]
    exact h.unheard_loaded hi base
  · have hji : j ≠ i := by
      rintro rfl
      rw [ShelvedStore.openTier] at hj
      dsimp only at hj
      rw [Function.update_self] at hj
      cases hj
    rw [ShelvedStore.openTier] at hj
    dsimp only at hj
    rw [Function.update_of_ne hji] at hj
    rw [hpersists, Function.update_of_ne hji]
    exact h.shut j hj
  · rw [ShelvedStore.openTier] at hj
    dsimp only at hj
    by_cases hji : j = i
    · subst hji
      rw [Function.update_self] at hj
      obtain rfl := Option.some.inj hj
      refine ⟨HistoryFiles.callback_openTierFile _ _ j, ring, ⟨(OpenRecording.sync
        (files.loaded j base) j (files.disk (persistFilePath base j))).persist, ?_, ?_, ?_⟩, ?_, ?_⟩
      · rw [hpersists, Function.update_self]
      · rw [hstore, (hring j).intervalS_eq]
        exact hfile
      · rw [hdisk, Function.update_self]
        exact hholds
      · rw [hstore, (hring j).ring_eq]
        exact hroom
      · rw [hstore, (hring j).tierRows_eq]
        exact hrows
    · -- the files opened before stay as they are
      rw [Function.update_of_ne hji] at hj
      obtain ⟨hcallback, ring', ⟨persist', hpersist', hinterval', hholds'⟩, hroom', hrows'⟩ :=
        h.mirrors j base' hj
      have htier : (files.openTierFile i base).store.tiers j = files.store.tiers j :=
        HistoryFiles.openTierFile_of_ne files base hji
      refine ⟨by rw [htier]; exact hcallback, ring', ⟨persist', ?_, ?_, ?_⟩, ?_, ?_⟩
      · rw [hpersists, Function.update_of_ne hji]
        exact hpersist'
      · rw [htier]
        exact hinterval'
      · rw [hdisk, Function.update_of_ne (persistFilePath_ne hji base' base)]
        exact hholds'
      · rw [htier]
        exact hroom'
      · rw [htier]
        exact hrows'
  · rw [ShelvedStore.openTier] at hj ⊢
    dsimp only at hj ⊢
    have hpath : persistFilePath base' j ≠ persistFilePath base i := by
      intro hpath
      obtain ⟨rfl, rfl⟩ := persistFilePath_inj hpath
      rw [Function.update_self] at hj
      exact hj rfl
    rw [hdisk, Function.update_of_ne hpath]
    refine h.recalls j base' fun hj' => hj ?_
    rw [Function.update_of_ne]
    · exact hj'
    · rintro rfl
      rw [hi] at hj'
      cases hj'

/-- Opening the files one after the other, and closing them again where one cannot be opened. -/
theorem Shelved.openTiers (h : Shelved files s) (results : Fin STORE_TIERS → Option StorageBase)
    {l : List (Fin STORE_TIERS)} (hl : l.Nodup) (hshut : ∀ i ∈ l, s.opened i = none) :
    Shelved (files.openTiers results l).1 (s.openTiers results l) := by
  induction l generalizing files s with
  | nil => exact h
  | cons i l ih =>
    obtain ⟨hi, hl'⟩ := List.nodup_cons.mp hl
    rw [HistoryFiles.openTiers, ShelvedStore.openTiers]
    cases results i with
    | none => exact h.closeAll
    | some base =>
      refine ih (h.openTier (hshut i List.mem_cons_self) base) hl' fun j hj => ?_
      have hji : j ≠ i := fun hji => hi (hji ▸ hj)
      rw [ShelvedStore.openTier]
      dsimp only
      rw [Function.update_of_ne hji]
      exact hshut j (List.mem_cons_of_mem _ hj)

-- ═══════════════════════════════════════════════════════════════════════
-- Samples
-- ═══════════════════════════════════════════════════════════════════════

abbrev Rings (registry : MetricRegistry) := Fin STORE_TIERS → RingBuffer (Row CFloat registry.count)

/-- A row that a listener is called with goes to the buffer of its tier. -/
def Rings.append (rings : Rings registry) (call : Fin STORE_TIERS × Row CFloat registry.count) :
    Rings registry :=
  Function.update rings call.1 ((rings call.1).push call.2)

theorem Rings.appends_apply (calls : List (Fin STORE_TIERS × Row CFloat registry.count))
    (rings : Rings registry) (i : Fin STORE_TIERS) :
    calls.foldl Rings.append rings i =
      (rings i).pushAll
        (calls.filterMap fun call => if call.1 = i then some call.2 else none) := by
  induction calls generalizing rings with
  | nil => rfl
  | cons call calls ih =>
    rw [List.foldl_cons, ih, Rings.append]
    by_cases hi : call.1 = i
    · simp only [List.filterMap_cons, if_pos hi, RingBuffer.pushAll_cons]
      rw [← hi, Function.update_self]
    · simp only [List.filterMap_cons, if_neg hi]
      rw [Function.update_of_ne (Ne.symm hi)]

/-- The files that are open are these buffers, and the others are as they were. -/
structure HistoryFiles.AreRings (files : HistoryFiles D registry)
    (opened : Fin STORE_TIERS → Option StorageBase) (rings : Rings registry)
    (disk : Bytes → ByteFile) : Prop where
  shut : ∀ i, opened i = none → files.persists i = none
  openAt : ∀ i base, opened i = some base → files.OpenAt i base (rings i)
  disk : ∀ i base, opened i ≠ some base →
    files.disk (persistFilePath base i) = disk (persistFilePath base i)

variable {opened : Fin STORE_TIERS → Option StorageBase} {rings : Rings registry}
  {disk : Bytes → ByteFile}

/-- One call of `on_tier_sample` whose write completes. -/
theorem HistoryFiles.AreRings.onTierSample (h : files.AreRings opened rings disk)
    {results : Fin STORE_TIERS → WriteResult} (hcomplete : ∀ i, results i = .complete)
    (call : Fin STORE_TIERS × Row CFloat registry.count) :
    (files.onTierSample results call).AreRings opened (rings.append call) disk := by
  obtain ⟨j, row⟩ := call
  rw [HistoryFiles.onTierSample, Rings.append]
  dsimp only
  cases hopened : opened j with
  | none =>
    rw [h.shut j hopened]
    refine ⟨h.shut, fun i base hi => ?_, h.disk⟩
    have hij : i ≠ j := by
      rintro rfl
      rw [hopened] at hi
      cases hi
    rw [Function.update_of_ne hij]
    exact h.openAt i base hi
  | some base =>
    obtain ⟨persist, hpersist, hinterval, hholds⟩ := h.openAt j base hopened
    have happend := hholds.append row (.complete)
    rw [OpenRecording.append] at happend
    rw [hpersist, hcomplete j]
    dsimp only at happend ⊢
    refine ⟨fun i hi => ?_, fun i base' hi => ?_, fun i base' hi => ?_⟩
    · have hij : i ≠ j := by
        rintro rfl
        rw [hopened] at hi
        cases hi
      dsimp only
      rw [Function.update_of_ne hij]
      exact h.shut i hi
    · by_cases hij : i = j
      · subst hij
        obtain rfl := Option.some.inj (hopened.symm.trans hi)
        rw [Function.update_self]
        refine ⟨(persistAppend persist row .complete).1, ?_, ?_, ?_⟩
        · dsimp only
          rw [Function.update_self]
        · have hkept : ∀ row : Row CFloat registry.count,
              (persistAppend persist row .complete).1.intervalS = persist.intervalS := fun row => by
            unfold persistAppend
            dsimp only
            split <;> rfl
          exact (hkept row).trans hinterval
        · dsimp only
          rw [Function.update_self]
          exact happend
      · rw [Function.update_of_ne hij]
        obtain ⟨persist', hpersist', hinterval', hholds'⟩ := h.openAt i base' hi
        refine ⟨persist', ?_, hinterval', ?_⟩
        · dsimp only
          rw [Function.update_of_ne hij]
          exact hpersist'
        · dsimp only
          rw [Function.update_of_ne (persistFilePath_ne hij base' base)]
          exact hholds'
    · dsimp only
      have hpath : persistFilePath base' i ≠ persistFilePath base j := by
        intro hpath
        obtain ⟨rfl, rfl⟩ := persistFilePath_inj hpath
        exact hi hopened
      rw [Function.update_of_ne hpath]
      exact h.disk i base' hi

variable [SampleArith CFloat D]

/-- A sample that is recorded. -/
theorem Shelved.push (h : Shelved files s) (row : Row CFloat registry.count)
    {results : Fin STORE_TIERS → WriteResult} (hcomplete : ∀ i, results i = .complete) :
    Shelved (files.push row results) (s.push row) := by
  obtain ⟨hstore, -, -⟩ := HistoryFiles.push_spec files row results
  -- the buffers of the files that are open, and any for the others
  have hring : ∀ i, ∃ ring : RingBuffer (Row CFloat registry.count), ∀ base,
      s.opened i = some base → files.OpenAt i base ring ∧
        ring.capacity = (files.store.tiers i).ring.capacity ∧
        ring.toList = tierRows (files.store.tiers i) := by
    intro i
    cases hi : s.opened i with
    | none => exact ⟨(files.store.tiers i).ring, fun base hbase => by cases hbase⟩
    | some base =>
      obtain ⟨-, ring, hopen⟩ := h.mirrors i base hi
      exact ⟨ring, fun base' hbase => Option.some.inj hbase ▸ hopen⟩
  choose rings hrings using hring
  have hafter : HistoryFiles.AreRings { files with store := (storePush files.store row).1 }
      s.opened rings files.disk :=
    ⟨h.shut, fun i base hi => by
      obtain ⟨persist, hpersist, hinterval, hholds⟩ := (hrings i base hi).1
      exact ⟨persist, hpersist, hinterval.trans (tierPush_intervalS i _ row).symm, hholds⟩,
      fun _ _ _ => rfl⟩
  have hfold : ∀ (calls : List (Fin STORE_TIERS × Row CFloat registry.count))
      (files : HistoryFiles D registry) (rings : Rings registry) (disk : Bytes → ByteFile),
      files.AreRings s.opened rings disk →
      (calls.foldl (HistoryFiles.onTierSample results) files).AreRings s.opened
        (calls.foldl Rings.append rings) disk := by
    intro calls
    induction calls with
    | nil => exact fun _ _ _ h => h
    | cons call calls ih =>
      exact fun files rings disk h => ih _ _ _ (h.onTierSample hcomplete call)
  have hpushed : (files.push row results).AreRings s.opened
      ((storePush files.store row).2.foldl Rings.append rings) files.disk := hfold _ _ _ _ hafter
  refine ⟨?_, hpushed.shut, fun i base hi => ?_, fun i base hi => ?_,
    History.fits_push h.fits row results, h.metrics⟩
  · rw [hstore, unheard_storePush, ← h.store]
    rfl
  · obtain ⟨hcallback, -⟩ := h.mirrors i base hi
    obtain ⟨-, hcapacity, hrows⟩ := hrings i base hi
    have hcalls : ((storePush files.store row).2.filterMap fun call =>
        if call.1 = i then some call.2 else none) =
          (tierPush i (files.store.tiers i) row).2.toList :=
      storePush_calls files.store i row hcallback
    have hopen := hpushed.openAt i base hi
    rw [Rings.appends_apply, hcalls] at hopen
    refine ⟨?_, _, hopen, ?_, ?_⟩
    · rw [hstore]
      exact (tierPush_callback i _ row).trans hcallback
    · rw [hstore, RingBuffer.pushAll_capacity, hcapacity]
      exact (tierPush_capacity i _ row).symm
    · have htier : tierRows ((storePush files.store row).1.tiers i) = _ :=
        tierRows_tierPush i (files.store.tiers i) row
      rw [hstore, htier, RingBuffer.toList_pushAll, hrows, hcapacity]
  · rw [hpushed.disk i base hi]
    exact h.recalls i base hi

end AxisMetrics
