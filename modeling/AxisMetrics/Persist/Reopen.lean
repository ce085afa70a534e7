import AxisMetrics.Persist.Crash

/-!
# A crash while a history file is opened

Opening a tier's file loads it, then lays it out again in place: the id table of the new
metric set, a header with an empty index, the size, and only then the rows. A crash in
between leaves what has been written so far. `reopen_survived` says when that is still
the whole recording, and that the rows not yet flushed are lost otherwise.
-/

namespace AxisMetrics

open Lib (Bytes ByteFile FileOp RingBuffer ringWindow ascii)

variable {D : Type} {saved registry current : MetricRegistry} {intervalS : ℕ}

/-- Writing the id table changes nothing when the new metrics lead the saved ones. -/
theorem write_idTable_of_extends {file : ByteFile}
    {written indexed : RingBuffer (Row CFloat saved.count)}
    (h : OnDisk saved intervalS file written indexed)
    (hstarts : registry.defs.map MetricDef.id <+: saved.defs.map MetricDef.id) :
    file.write HEADER_BYTES (idTable registry) = file := by
  obtain ⟨rest, hrest⟩ := hstarts
  have hflat (r : MetricRegistry) : idTable r = (r.defs.map MetricDef.id).flatMap
      fun id => Lib.zeroPad METRIC_ID_MAX (Lib.strlcpy METRIC_ID_MAX id) := by
    rw [List.flatMap_map]
    rfl
  have hlen := length_idTable registry
  have hcount : registry.count ≤ saved.count := by
    have h := congrArg List.length hrest
    rw [List.length_append, List.length_map, List.length_map] at h
    exact Nat.le.intro h
  have hbytes : idTableBytes registry.count ≤ idTableBytes saved.count :=
    Nat.mul_le_mul_right _ hcount
  have hslice := file.take_drop_slice HEADER_BYTES (idTableBytes saved.count) 0
    (idTableBytes registry.count) (by omega)
  rw [h.table, List.drop_zero, Nat.add_zero, hflat saved, ← hrest, List.flatMap_append,
    ← hflat registry, ← hlen, List.take_left] at hslice
  refine ByteFile.write_slice_self ?_ hslice.symm
  rw [hlen, h.size_eq]
  exact (Nat.add_le_add_left hbytes _).trans (recordsOffset_le_slotOffset _ _)

/-- A header with an empty index restores nothing. -/
theorem savedRows_of_count_zero {persist : Persist current} {file : ByteFile}
    {header : PersistHeader} (hheader : readHeader file = some header)
    (hcount : header.count = 0) : savedRows persist file = [] := by
  rw [savedRows, hheader]
  dsimp only
  split
  · split
    · rfl
    · rw [hcount, Nat.zero_min]
      rfl
  · rfl

/-- A sync that is cut: from its second write on, what is left are the rows the header has been
flushed for. -/
theorem savedRows_take_persistSync {opening : Persist registry} {persist : Persist current}
    {store : Store CFloat D registry} {i : Fin STORE_TIERS} {k : ℕ} (file : ByteFile)
    (hcap : 0 < opening.capacity) (hf : LayoutFits registry opening.intervalS opening.capacity)
    (hcount : 1 ≤ registry.count) (hinterval : persist.intervalS = opening.intervalS)
    (hfit : (tierRows (store.tiers i)).length ≤ opening.capacity)
    (hpos : ∀ row ∈ tierRows (store.tiers i), 0 < row.timestamp)
    (hk : 2 ≤ k) (hk' : k ≤ (persistSync opening store i).2.length) :
    savedRows persist (file.applyAll ((persistSync opening store i).2.take k)) =
      ((tierRows (store.tiers i)).take (flushedAfter (k - 3))).map (remapRow registry current) := by
  rw [persistSync_eq] at hk' ⊢
  set rows := tierRows (store.tiers i)
  have hlayout : (initialiseFile opening).2.length = 3 := rfl
  have hlen := length_persistAppends_initialised opening hcap rows
  rw [List.length_append, hlayout] at hk'
  obtain rfl | ⟨p, rfl⟩ : k = 2 ∨ ∃ p, k = 3 + p := by
    rcases Nat.lt_or_ge k 3 with h2 | h3
    · exact Or.inl (by omega)
    · exact Or.inr ⟨k - 3, by omega⟩
  · -- the header is there, its index is empty
    have hheader : readHeader ((file.write HEADER_BYTES (idTable registry)).write 0
        (encodeHeader (fileHeader registry opening.intervalS opening.capacity 0 0))) = _ :=
      readHeader_write_header (hf.header hcap (Nat.zero_le _))
    exact savedRows_of_count_zero hheader rfl
  · rw [show 3 + p - 3 = p by omega, ← hlayout, List.take_length_add_append]
    obtain ⟨start, hstart, hempty, hdisk⟩ := onDisk_layout_take opening file rows hcap hf p
      (by omega)
    have hrows := recordsAfter_le_of_le (show p ≤ rows.length + _ by omega)
    have hsum := recordsAfter_eq p
    have hwindow : staleWindow start rows (flushedAfter p) (recordsAfter p) =
        rows.take (flushedAfter p) := by
      rw [staleWindow_of_room hempty (by omega) (by omega), Lib.rtake_of_length_le]
      rw [List.length_take]
      omega
    rw [staleWindow] at hwindow
    rw [← hinterval] at hf hdisk
    rw [hdisk.savedRows_eq (by rwa [RingBuffer.pushAll_capacity, hstart]) (by omega),
      RingBuffer.pushAll_capacity, hwindow]
    rw [RingBuffer.pushAll_capacity, hwindow]
    exact fun row hrow => hpos row (List.mem_of_mem_take hrow)

/-- What is left of the rows of a file once the next start has loaded it. -/
def RowsSurvive (saved current : MetricRegistry) (capacity : ℕ)
    (rows : List (Row CFloat saved.count)) (restored : List (Row CFloat current.count)) : Prop :=
  ∃ lost < HEADER_FLUSH_EVERY, RowsRemapped saved current ((rows.rtake capacity).rdrop lost) restored

/-- What is on disk when the opening of a tier's file is cut after `k` writes. -/
def openLog (file : ByteFile) (store : Store CFloat D registry) (i : Fin STORE_TIERS) (k : ℕ) :
    List FileOp :=
  (openTier (persistOpen (store.tiers i)) file store i).2.2.take k

/-- The cuts that leave the whole recording: before the first write, after an id table that says
what the old one said, and after enough of the rows have been flushed. -/
def OpenSafe (saved registry current : MetricRegistry) (held k : ℕ) : Prop :=
  k = 0 ∨ (k = 1 ∧ registry.defs.map MetricDef.id <+: saved.defs.map MetricDef.id) ∨
    (2 ≤ k ∧ (∀ m p, saved.id m = current.id p → ∃ q, registry.id q = saved.id m) ∧
      held < flushedAfter (k - 3) + HEADER_FLUSH_EVERY)

section Cut

variable {file : ByteFile} {ring : RingBuffer (Row CFloat saved.count)}
variable {store : Store CFloat D registry} {i : Fin STORE_TIERS} {k : ℕ}

/-- A load into an empty tier restores the end of what is saved. -/
theorem tierRows_persistLoad_of_empty {current : MetricRegistry} {store' : Store CFloat D current}
    {j : Fin STORE_TIERS} {persist : Persist current} (file : ByteFile)
    (hempty : tierRows (store'.tiers j) = []) :
    tierRows ((persistLoad persist file store' j).1.tiers j) =
      (savedRows persist file).rtake (store'.tiers j).ring.capacity := by
  rw [persistLoad]
  dsimp only
  rw [tierRows_restoreAll, hempty, List.nil_append]

/-- An empty tier takes over the rows of the file that fit. -/
theorem tierRows_persistLoad {persist : Persist registry}
    (hdisk : OnDisk saved persist.intervalS file ring ring)
    (hf : LayoutFits saved persist.intervalS ring.capacity) (hcount : 1 ≤ saved.count)
    (hpos : ∀ row ∈ ring.toList, 0 < row.timestamp) (hempty : tierRows (store.tiers i) = []) :
    tierRows ((persistLoad persist file store i).1.tiers i) =
      (ring.toList.rtake (store.tiers i).ring.capacity).map (remapRow saved registry) := by
  rw [tierRows_persistLoad_of_empty file hempty,
    hdisk.savedRows_of_flushed hf (by omega) hpos, ← Lib.map_rtake]

theorem openTier_of_empty {persist : Persist registry} (hempty : tierRows (store.tiers i) = []) :
    (openTier persist file store i).2.2 =
      (persistSync persist (persistLoad persist file store i).1 i).2 := by
  have hcount : storeTierCount store i = 0 := by
    rw [storeTierCount, ← length_tierRows, hempty, List.length_nil]
  rw [openTier, if_pos hcount]

/-- A cut from the second write on: the next start finds the first rows, as many as the header
has been flushed for. -/
theorem reopen_restored (hdisk : OnDisk saved (store.tiers i).intervalS file ring ring)
    (hf : LayoutFits saved (store.tiers i).intervalS ring.capacity) (hcount : 1 ≤ saved.count)
    (hpos : ∀ row ∈ ring.toList, 0 < row.timestamp)
    (hf' : LayoutFits registry (store.tiers i).intervalS (store.tiers i).ring.capacity)
    (hcount' : 1 ≤ registry.count) (hempty : tierRows (store.tiers i) = []) (hk2 : 2 ≤ k)
    (hk : k ≤ (openTier (persistOpen (store.tiers i)) file store i).2.2.length)
    (store' : Store CFloat D current) (j : Fin STORE_TIERS)
    (hempty' : tierRows (store'.tiers j) = [])
    (hinterval' : (store'.tiers j).intervalS = (store.tiers i).intervalS)
    (hcapacity' : (store'.tiers j).ring.capacity = (store.tiers i).ring.capacity) :
    tierRows ((persistLoad (persistOpen (store'.tiers j))
        (file.applyAll (openLog file store i k)) store' j).1.tiers j) =
      (((ring.toList.rtake (store.tiers i).ring.capacity).take (flushedAfter (k - 3))).map
        (remapRow saved registry)).map (remapRow registry current) := by
  have hopened : tierRows ((persistLoad (persistOpen (store.tiers i)) file store i).1.tiers i) =
      (ring.toList.rtake (store.tiers i).ring.capacity).map (remapRow saved registry) :=
    tierRows_persistLoad hdisk hf hcount hpos hempty
  have hkept := Lib.length_rtake ring.toList (store.tiers i).ring.capacity
  have hfit : (tierRows ((persistLoad (persistOpen (store.tiers i)) file store i).1.tiers i)).length ≤
      (store.tiers i).ring.capacity := by
    rw [hopened, List.length_map, hkept]
    exact Nat.min_le_left _ _
  have hpos' : ∀ row ∈ tierRows ((persistLoad (persistOpen (store.tiers i)) file store i).1.tiers i),
      0 < row.timestamp := by
    rw [hopened]
    intro row hrow
    obtain ⟨row', hrow', rfl⟩ := List.mem_map.mp hrow
    exact hpos row' (Lib.mem_of_mem_rtake hrow')
  rw [openTier_of_empty hempty] at hk
  rw [tierRows_persistLoad_of_empty _ hempty', hcapacity', openLog, openTier_of_empty hempty,
    savedRows_take_persistSync file (store.tiers i).ring.capacity_pos hf' hcount' hinterval' hfit
      hpos' hk2 hk, hopened, ← List.map_take, Lib.rtake_of_length_le]
  rw [List.length_map, List.length_map, List.length_take, hkept]
  omega

variable [SampleArith CFloat D] {baseIntervalS memory : ℕ}

/-- A file that is opened survives every safe cut, and no cut from the second write on that
comes before enough of its rows have been flushed. -/
theorem reopen_survived_iff (hdisk : OnDisk saved intervalS file ring ring)
    (hf : LayoutFits saved intervalS ring.capacity) (hdistinct : saved.Distinct)
    (hcount : 1 ≤ saved.count) (hpos : ∀ row ∈ ring.toList, 0 < row.timestamp)
    (hstore : StoreReachable registry baseIntervalS memory store) (hbase : baseIntervalS < 2 ^ 32)
    (hdistinct' : registry.Distinct) (hcount' : 1 ≤ registry.count)
    (hcount'' : registry.count ≤ 100000) (hempty : tierRows (store.tiers i) = [])
    (hinterval : (store.tiers i).intervalS = intervalS)
    (hk : k ≤ (openTier (persistOpen (store.tiers i)) file store i).2.2.length)
    (store' : Store CFloat D current) (j : Fin STORE_TIERS)
    (hempty' : tierRows (store'.tiers j) = [])
    (hinterval' : (store'.tiers j).intervalS = intervalS)
    (hcapacity' : (store'.tiers j).ring.capacity = (store.tiers i).ring.capacity) :
    (OpenSafe saved registry current (min ring.toList.length (store.tiers i).ring.capacity) k →
      RowsSurvive saved current (store.tiers i).ring.capacity ring.toList
        (tierRows ((persistLoad (persistOpen (store'.tiers j))
          (file.applyAll (openLog file store i k)) store' j).1.tiers j))) ∧
    (2 ≤ k →
      RowsSurvive saved current (store.tiers i).ring.capacity ring.toList
        (tierRows ((persistLoad (persistOpen (store'.tiers j))
          (file.applyAll (openLog file store i k)) store' j).1.tiers j)) →
      min ring.toList.length (store.tiers i).ring.capacity <
        flushedAfter (k - 3) + HEADER_FLUSH_EVERY) := by
  subst hinterval
  have hbounds := hstore.capacity_bounds i
  have hf' : LayoutFits registry (store.tiers i).intervalS (store.tiers i).ring.capacity :=
    ⟨hcount'', hstore.intervalS_lt hbase i, by omega⟩
  have hkept := Lib.length_rtake ring.toList (store.tiers i).ring.capacity
  have hrestored (hk2 : 2 ≤ k) := reopen_restored hdisk hf hcount hpos hf' hcount' hempty hk2 hk
    store' j hempty' hinterval' hcapacity'
  have hfile (hsame : file.applyAll (openLog file store i k) = file) :
      RowsSurvive saved current (store.tiers i).ring.capacity ring.toList
        (tierRows ((persistLoad (persistOpen (store'.tiers j))
          (file.applyAll (openLog file store i k)) store' j).1.tiers j)) := by
    have hsaved : savedRows (persistOpen (store'.tiers j)) file = _ :=
      (hinterval' ▸ hdisk).savedRows_of_flushed (hinterval' ▸ hf) (by omega) hpos
    refine ⟨0, by decide, ?_⟩
    rw [hsame, tierRows_persistLoad_of_empty _ hempty', hsaved, hcapacity', List.rdrop_zero,
      ← Lib.map_rtake]
    exact rowsRemapped_map hdistinct _
  constructor
  · rintro (rfl | ⟨rfl, hstarts⟩ | ⟨hk2, hkeep, hheld⟩)
    · exact hfile rfl
    · exact hfile (write_idTable_of_extends hdisk hstarts)
    · have hlost : min ring.toList.length (store.tiers i).ring.capacity - flushedAfter (k - 3) <
          HEADER_FLUSH_EVERY := by
        have hpos : 0 < HEADER_FLUSH_EVERY := by decide
        omega
      refine ⟨_, hlost, ?_⟩
      rw [hrestored hk2, ← Nat.min_comm, ← hkept]
      have hrdrop : ∀ l : List (Row CFloat saved.count),
          l.rdrop (l.length - flushedAfter (k - 3)) = l.take (flushedAfter (k - 3)) := fun l => by
        rw [List.rdrop, List.take_eq_take_iff]
        omega
      rw [hrdrop]
      exact rowsRemapped_map_map hdistinct hdistinct' hkeep _
  · rintro hk2 ⟨lost, hlost, hrows⟩
    have hlen := hrows.length_eq
    rw [hrestored hk2, List.length_map, List.length_map, List.length_take, List.rdrop,
      List.length_take, hkept] at hlen
    omega

end Cut

/-- A history file of the first `n` ticks, properly closed. -/
@[irreducible] def tickFile (n : ℕ) : ByteFile :=
  ByteFile.empty.applyAll ((initialiseFile (persistOpen (tenSecondStore.tiers 0))).2 ++
    (persistAppends (initialiseFile (persistOpen (tenSecondStore.tiers 0))).1 (tickRows n)).2 ++
    persistClose (persistAppends (initialiseFile (persistOpen (tenSecondStore.tiers 0))).1
      (tickRows n)).1)

/-- What the next start finds of it when its opening is cut right after the header. -/
def reopenedTickRows (n : ℕ) :
    List (Row CFloat (MetricRegistry.registerAll [ascii "cpu.usage"]).count) :=
  tierRows ((persistLoad (persistOpen (tenSecondStore.tiers 0))
    ((tickFile n).applyAll (openLog (tickFile n) tenSecondStore 0 2)) tenSecondStore 0).1.tiers 0)

theorem two_le_length_openTier (file : ByteFile) :
    2 ≤ (openTier (persistOpen (tenSecondStore.tiers 0)) file tenSecondStore 0).2.2.length := by
  rw [openTier_of_empty (tierRows_storeNew 0), persistSync_eq, List.length_append]
  exact le_trans (by decide) (Nat.le_add_right 3 _)

theorem onDisk_tickFile {n : ℕ} (h : n ≤ 300) :
    ∃ ring, LayoutFits (.registerAll [ascii "cpu.usage"]) 10 ring.capacity ∧
      ring.toList = tickRows n ∧
      OnDisk (.registerAll [ascii "cpu.usage"]) 10 (tickFile n) ring ring := by
  obtain ⟨ring, hcap, hlist, hdisk⟩ := onDisk_close (persistOpen (tenSecondStore.tiers 0))
    ByteFile.empty (tickRows n) (by decide) ⟨by decide, by decide, by decide⟩
  have hcap : ring.capacity = 300 := hcap
  refine ⟨ring, ⟨by decide, by decide, by rw [hcap]; decide⟩, ?_, by rw [tickFile]; exact hdisk⟩
  rw [hlist]
  exact Lib.rtake_of_length_le (by rw [length_tickRows]; exact h)

/-- Fifty-nine rows are few enough to lose. -/
theorem reopen_survived_59 : RowsSurvive (.registerAll [ascii "cpu.usage"])
    (.registerAll [ascii "cpu.usage"]) 300 (tickRows 59) (reopenedTickRows 59) := by
  obtain ⟨ring, hf, hlist, hdisk⟩ := onDisk_tickFile (show 59 ≤ 300 by decide)
  have hsafe : OpenSafe (.registerAll [ascii "cpu.usage"]) (.registerAll [ascii "cpu.usage"])
      (.registerAll [ascii "cpu.usage"]) (min ring.toList.length 300) 2 := by
    rw [hlist, length_tickRows]
    exact Or.inr (Or.inr ⟨le_rfl, fun m _ _ => ⟨m, rfl⟩, by decide⟩)
  have hcut := two_le_length_openTier (tickFile 59)
  rw [← hlist]
  exact (reopen_survived_iff hdisk hf (by decide) (by decide) (hlist ▸ tickRows_pos (by decide))
    (.new : StoreReachable _ 10 0 tenSecondStore) (by decide) (by decide) (by decide) (by decide)
    rfl rfl hcut tenSecondStore 0 rfl rfl rfl).1 hsafe

/-- Sixty are not, and none of them is found. -/
theorem not_reopen_survived_60 : ¬ RowsSurvive (.registerAll [ascii "cpu.usage"])
    (.registerAll [ascii "cpu.usage"]) 300 (tickRows 60) (reopenedTickRows 60) := by
  obtain ⟨ring, hf, hlist, hdisk⟩ := onDisk_tickFile (show 60 ≤ 300 by decide)
  have hcut := two_le_length_openTier (tickFile 60)
  have hrestored := reopen_restored hdisk hf (by decide) (hlist ▸ tickRows_pos (by decide))
    ⟨by decide, by decide, by decide⟩ (by decide) (tierRows_storeNew 0) le_rfl hcut tenSecondStore 0
    (tierRows_storeNew 0) rfl rfl
  have hnone : (reopenedTickRows 60).length = 0 := by
    rw [reopenedTickRows]
    exact congrArg List.length hrestored
  rintro ⟨lost, hlost, hrows⟩
  have hlen := hrows.length_eq
  rw [hnone, List.rdrop, List.length_take, Lib.length_rtake, length_tickRows] at hlen
  have h60 : lost < 60 := hlost
  omega

end AxisMetrics
