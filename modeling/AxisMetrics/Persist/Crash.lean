import AxisMetrics.Persist.Disk

/-!
# A crash while a tier is recorded

Between two header flushes the records run ahead of the index. While the file has room
the stale index still shows a prefix of what was written, and only the newest rows are
missing. Once the records written since the flush reuse slots of the window, the stale
index shows the newest rows in front of the oldest. `crash_survived_iff` says at which
crash points which of the two happens.
-/

namespace AxisMetrics

open Lib (Bytes ByteFile FileOp RingBuffer ringWindow ascii)

variable {registry : MetricRegistry}

-- ════════════════════════════════════════════════════════════════════════
-- Reading through a stale index
-- ════════════════════════════════════════════════════════════════════════

section Stale

variable {α : Type} {start : RingBuffer α} {rows : List α} {flushed written : ℕ}

/-- What the index after `flushed` pushes shows of the slots after `written` pushes. -/
def staleWindow (start : RingBuffer α) (rows : List α) (flushed written : ℕ) : List α :=
  ringWindow (start.pushAll (rows.take written)).slots start.capacity
    (start.pushAll (rows.take flushed)).head (start.pushAll (rows.take flushed)).count

theorem count_of_toList_eq_nil (hstart : start.toList = []) : start.count = 0 := by
  rw [← RingBuffer.length_toList, hstart, List.length_nil]

theorem pushAll_take_split (h : flushed ≤ written) :
    start.pushAll (rows.take written) =
      (start.pushAll (rows.take flushed)).pushAll ((rows.take written).drop flushed) := by
  rw [← RingBuffer.pushAll_append]
  congr 1
  conv_lhs => rw [← List.take_append_drop flushed (rows.take written), List.take_take,
    min_eq_left h]

theorem toList_pushAll_take (hstart : start.toList = []) (n : ℕ) :
    (start.pushAll (rows.take n)).toList = (rows.take n).rtake start.capacity := by
  rw [RingBuffer.toList_pushAll, hstart, List.nil_append]

/-- With room for what was written since the flush, the rows at the flush. -/
theorem staleWindow_of_room (hstart : start.toList = []) (h : flushed ≤ written)
    (hroom : min flushed start.capacity + (written - flushed) ≤ start.capacity) :
    staleWindow start rows flushed written = (rows.take flushed).rtake start.capacity := by
  have hcount := count_of_toList_eq_nil hstart
  have hwin := (start.pushAll (rows.take flushed)).window_of_count_add_le
    ((rows.take written).drop flushed) (by
      rw [RingBuffer.pushAll_count, RingBuffer.pushAll_capacity, hcount]
      simp only [List.length_drop, List.length_take]
      omega)
  rw [RingBuffer.pushAll_capacity, ← pushAll_take_split h, toList_pushAll_take hstart] at hwin
  exact hwin

/-- Without it, the newest of them come first. -/
theorem staleWindow_of_reuse (hstart : start.toList = []) (h : flushed ≤ written)
    (hrows : written ≤ rows.length) (hturn : written - flushed ≤ start.capacity)
    (hreuse : start.capacity ≤ min flushed start.capacity + (written - flushed)) :
    staleWindow start rows flushed written =
      ((rows.take written).drop flushed).drop (start.capacity - min flushed start.capacity) ++
        ((rows.take flushed).rtake start.capacity).drop
          (min flushed start.capacity + (written - flushed) - start.capacity) := by
  have hcount : (start.pushAll (rows.take flushed)).count = min flushed start.capacity := by
    rw [RingBuffer.pushAll_count, count_of_toList_eq_nil hstart, Nat.zero_add, List.length_take,
      min_eq_left (h.trans hrows)]
  have hnew : ((rows.take written).drop flushed).length = written - flushed := by
    rw [List.length_drop, List.length_take, min_eq_left hrows]
  have hwin := (start.pushAll (rows.take flushed)).window_of_wrapped
    ((rows.take written).drop flushed)
    (by rw [RingBuffer.pushAll_capacity, hnew]; exact hturn)
    (by rw [RingBuffer.pushAll_capacity, hnew, hcount]; exact hreuse)
  rw [RingBuffer.pushAll_capacity, ← pushAll_take_split h, toList_pushAll_take hstart, hnew] at hwin
  rw [staleWindow, hwin, hcount]

/-- Whatever a stale index shows has been written. -/
theorem mem_of_mem_staleWindow {x : α} (hstart : start.toList = []) (h : flushed ≤ written)
    (hrows : written ≤ rows.length) (hturn : written - flushed ≤ start.capacity)
    (hx : x ∈ staleWindow start rows flushed written) : x ∈ rows := by
  rcases Nat.le_total (min flushed start.capacity + (written - flushed)) start.capacity with
    hroom | hreuse
  · rw [staleWindow_of_room hstart h hroom] at hx
    exact List.mem_of_mem_take (Lib.mem_of_mem_rtake hx)
  · rw [staleWindow_of_reuse hstart h hrows hturn hreuse, List.mem_append] at hx
    rcases hx with hnew | hold
    · exact List.mem_of_mem_take (List.mem_of_mem_drop (List.mem_of_mem_drop hnew))
    · exact List.mem_of_mem_take (Lib.mem_of_mem_rtake (List.mem_of_mem_drop hold))

theorem length_staleWindow_le (start : RingBuffer α) (rows : List α) (flushed written : ℕ) :
    (staleWindow start rows flushed written).length ≤ start.capacity := by
  rw [staleWindow, ringWindow, List.length_map, List.length_range]
  exact (RingBuffer.count_le _).trans (RingBuffer.pushAll_capacity _ _).le

/-- What a crash is allowed to cost: fewer than `HEADER_FLUSH_EVERY` of the newest rows. -/
def SurvivesCrash (held restored : List α) : Prop :=
  ∃ lost < HEADER_FLUSH_EVERY, restored = held.rdrop lost

/-- The crash points the index can be trusted at, `p` writes after the layout: no flush is
due, and what was written since the last one still has room. -/
def HeaderKeepsUp (capacity p : ℕ) : Prop :=
  p % FLUSH_PERIOD < HEADER_FLUSH_EVERY ∧
    (p % FLUSH_PERIOD = 0 ∨ recordsAfter p ≤ capacity)

instance (capacity p : ℕ) : Decidable (HeaderKeepsUp capacity p) :=
  inferInstanceAs (Decidable (_ ∧ _))

theorem recordsAfter_eq (p : ℕ) : recordsAfter p = flushedAfter p + p % FLUSH_PERIOD := rfl

variable {p : ℕ}

theorem survivesCrash_of_headerKeepsUp (hstart : start.toList = [])
    (hrows : recordsAfter p ≤ rows.length) (h : HeaderKeepsUp start.capacity p) :
    SurvivesCrash ((rows.take (recordsAfter p)).rtake start.capacity)
      (staleWindow start rows (flushedAfter p) (recordsAfter p)) := by
  obtain ⟨hlt, hroom⟩ := h
  have heq := recordsAfter_eq p
  refine ⟨p % FLUSH_PERIOD, hlt, ?_⟩
  rw [staleWindow_of_room hstart (by omega) (by omega)]
  rcases hroom with hzero | hfits
  · -- the header was the last write
    rw [heq, hzero, Nat.add_zero, List.rdrop_zero]
  · rw [Lib.rtake_of_length_le, Lib.rtake_of_length_le, List.rdrop, List.take_take,
      List.length_take, min_eq_left hrows]
    · congr 1
      omega
    · rw [List.length_take]
      omega
    · rw [List.length_take]
      omega

/-- The first of the rows held, whatever is lost at the other end. -/
private theorem head_rdrop_rtake {t cap lost : ℕ} (ht : t ≤ rows.length) (hcap : cap ≤ t)
    (hlost : lost < cap) : (((rows.take t).rtake cap).rdrop lost)[0]? = rows[t - cap]? := by
  have hlen : (rows.take t).length = t := List.length_take_of_le ht
  rw [List.rdrop, List.getElem?_take_of_lt, List.rtake, List.getElem?_drop, hlen,
    List.getElem?_take_of_lt, Nat.add_zero]
  · omega
  · rw [Lib.length_rtake, hlen, min_eq_left hcap]
    omega

/-- When no row repeats, the points where the index cannot be trusted really go wrong. -/
theorem headerKeepsUp_of_survivesCrash (hstart : start.toList = [])
    (hrows : recordsAfter p ≤ rows.length) (hcap : FLUSH_PERIOD ≤ start.capacity)
    (hnodup : rows.Nodup)
    (h : SurvivesCrash ((rows.take (recordsAfter p)).rtake start.capacity)
      (staleWindow start rows (flushedAfter p) (recordsAfter p))) :
    HeaderKeepsUp start.capacity p := by
  obtain ⟨lost, hlost, heq⟩ := h
  have hsum := recordsAfter_eq p
  have hmod : p % FLUSH_PERIOD < FLUSH_PERIOD := Nat.mod_lt _ (by decide)
  have hperiod : FLUSH_PERIOD = HEADER_FLUSH_EVERY + 1 := rfl
  by_cases hfits : recordsAfter p ≤ start.capacity
  · -- not full: the lengths tell how many rows are missing
    refine ⟨?_, Or.inr hfits⟩
    rw [staleWindow_of_room hstart (by omega) (by omega), Lib.rtake_of_length_le,
      Lib.rtake_of_length_le] at heq
    · have hlen := congrArg List.length heq
      rw [List.rdrop, List.length_take, List.length_take, List.length_take] at hlen
      omega
    · rw [List.length_take]
      omega
    · rw [List.length_take]
      omega
  · -- full: a stale index would show a newer row in front
    by_cases hzero : p % FLUSH_PERIOD = 0
    · exact ⟨hzero ▸ by decide, Or.inl hzero⟩
    exfalso
    have hfirst := congrArg (fun l => l[0]?) heq
    rw [head_rdrop_rtake hrows (by omega) (by omega),
      staleWindow_of_reuse hstart (by omega) hrows (by omega) (by omega),
      List.getElem?_append_left, List.getElem?_drop, List.getElem?_drop,
      List.getElem?_take_of_lt (by omega)] at hfirst
    · have hidx := (List.getElem?_inj (by omega) hnodup).mp hfirst
      omega
    · rw [List.length_drop, List.length_drop, List.length_take]
      omega

end Stale

-- ════════════════════════════════════════════════════════════════════════
-- The records of a log
-- ════════════════════════════════════════════════════════════════════════

/-- Whether a completed write is that of a record. -/
def isRecordWrite (nMetrics : ℕ) : FileOp → Bool
  | .write offset _ => recordsOffset nMetrics ≤ offset
  | .truncate _ => false

/-- How many records a log has written. -/
def recordWrites (nMetrics : ℕ) (log : List FileOp) : ℕ := log.countP (isRecordWrite nMetrics)

theorem isRecordWrite_record (n slot : ℕ) (buffer : Bytes) :
    isRecordWrite n (.write (slotOffset n slot) buffer) = true := by
  simpa [isRecordWrite] using recordsOffset_le_slotOffset n slot

theorem isRecordWrite_header (n : ℕ) (buffer : Bytes) :
    isRecordWrite n (.write 0 buffer) = false := by
  simp [isRecordWrite, recordsOffset, HEADER_BYTES]

/-- The first `p` writes of a run of appends hold the records that `recordsAfter` says. -/
theorem recordWrites_take_appends (intervalS : ℕ)
    (ring : RingBuffer (Row CFloat registry.count)) (a : ℕ) (ha : a < HEADER_FLUSH_EVERY)
    (rows : List (Row CFloat registry.count)) (p : ℕ)
    (hp : p ≤ (persistAppends (ringPersist registry intervalS ring a) rows).2.length) :
    a + recordWrites registry.count
      ((persistAppends (ringPersist registry intervalS ring a) rows).2.take p) =
        recordsAfter (a + p) := by
  have hzero : a + recordWrites registry.count [] = recordsAfter a := by
    rw [recordsAfter_le (ha.trans (Nat.lt_succ_self _))]
    rfl
  induction rows generalizing ring a p with
  | nil =>
    obtain rfl : p = 0 := Nat.le_zero.mp hp
    exact hzero
  | cons row rows ih =>
    rw [persistAppends, persistAppend_ringPersist] at hp ⊢
    have hrecord := isRecordWrite_record registry.count ring.head (encodeRow row)
    by_cases hflush : HEADER_FLUSH_EVERY ≤ a + 1
    · have ha1 : a + 1 = HEADER_FLUSH_EVERY := by omega
      simp only [if_pos hflush, List.cons_append, List.nil_append] at hp ⊢
      rcases p with _ | _ | p
      · exact hzero
      · rw [ha1, recordsAfter_le (by decide), List.take_succ_cons, List.take_zero, recordWrites,
          List.countP_cons_of_pos hrecord]
        exact ha1
      · have hstep := ih (ring.push row) 0 (by decide) p
          (by simpa only [List.length_cons, Nat.add_le_add_iff_right] using hp) rfl
        have hp2 : a + (p + 2) = FLUSH_PERIOD + p := by
          unfold FLUSH_PERIOD
          omega
        rw [hp2, recordsAfter_add, List.take_succ_cons, List.take_succ_cons, recordWrites,
          List.countP_cons_of_pos hrecord, List.countP_cons_of_neg
            (by rw [isRecordWrite_header]; decide), ← recordWrites]
        rw [Nat.zero_add, Nat.zero_add] at hstep
        omega
    · simp only [if_neg hflush, List.cons_append, List.nil_append] at hp ⊢
      cases p with
      | zero => exact hzero
      | succ p =>
        have hstep := ih (ring.push row) (a + 1) (by omega) p
          (by simpa only [List.length_cons, Nat.add_le_add_iff_right] using hp)
          (by rw [recordsAfter_le (by unfold FLUSH_PERIOD; omega)]; rfl)
        rw [List.take_succ_cons, recordWrites, List.countP_cons_of_pos hrecord, ← recordWrites]
        rw [show a + (p + 1) = a + 1 + p by omega, ← hstep]
        omega

-- ════════════════════════════════════════════════════════════════════════
-- Cutting a run of appends
-- ════════════════════════════════════════════════════════════════════════

/-- What is on disk when a run of appends after a sync is cut after `k` of its writes. -/
def crashLog {D : Type} (store : Store CFloat D registry) (i : Fin STORE_TIERS)
    (rows : List (Row CFloat registry.count)) (k : ℕ) : List FileOp :=
  let (persist, synced) := persistSync (persistOpen (store.tiers i)) store i
  synced ++ (persistAppends persist rows).2.take k

/-- The rows the tier had to lose: those whose record was written, as far as they fit. -/
def heldRows {D : Type} (store : Store CFloat D registry) (i : Fin STORE_TIERS)
    (rows : List (Row CFloat registry.count)) (log : List FileOp) :
    List (Row CFloat registry.count) :=
  ((tierRows (store.tiers i) ++ rows).take (recordWrites registry.count log)).rtake
    (store.tiers i).ring.capacity

/-- How many writes after the layout a cut after `k` writes is: the `n` rows of the sync, their
flushes, and `k` more. -/
def crashPoint (n k : ℕ) : ℕ := n + n / HEADER_FLUSH_EVERY + k

section Cut

variable {D : Type}
variable {store : Store CFloat D registry} {i : Fin STORE_TIERS}
variable {rows : List (Row CFloat registry.count)} {k : ℕ}

/-- The replay of a sync and the appends after it are one run of appends. -/
theorem crashLog_eq (store : Store CFloat D registry) (i : Fin STORE_TIERS)
    (rows : List (Row CFloat registry.count)) (k : ℕ) :
    crashLog store i rows k =
      (initialiseFile (persistOpen (store.tiers i))).2 ++
        (persistAppends (initialiseFile (persistOpen (store.tiers i))).1
          (tierRows (store.tiers i) ++ rows)).2.take
            (crashPoint (tierRows (store.tiers i)).length k) := by
  have hlen := length_persistAppends_initialised (persistOpen (store.tiers i))
    (store.tiers i).ring.capacity_pos (tierRows (store.tiers i))
  rw [crashLog, persistSync_eq, persistAppends_append, crashPoint, ← hlen]
  dsimp only
  rw [List.append_assoc]
  congr 1
  exact (List.take_length_add_append _).symm

theorem crashPoint_le (store : Store CFloat D registry) (i : Fin STORE_TIERS)
    (rows : List (Row CFloat registry.count))
    (hk : k ≤ (persistAppends (persistSync (persistOpen (store.tiers i)) store i).1 rows).2.length) :
    crashPoint (tierRows (store.tiers i)).length k ≤
      (persistAppends (initialiseFile (persistOpen (store.tiers i))).1
        (tierRows (store.tiers i) ++ rows)).2.length := by
  have hlen := length_persistAppends_initialised (persistOpen (store.tiers i))
    (store.tiers i).ring.capacity_pos (tierRows (store.tiers i))
  rw [persistSync_eq] at hk
  rw [persistAppends_append, List.length_append, hlen, crashPoint]
  exact Nat.add_le_add_left hk _

/-- After a cut, a load shows the slots through the index of the last flush. -/
theorem crash_restored (store' : Store CFloat D registry) (j : Fin STORE_TIERS) (file : ByteFile)
    (hf : LayoutFits registry (store.tiers i).intervalS (store.tiers i).ring.capacity)
    (hturn : FLUSH_PERIOD ≤ (store.tiers i).ring.capacity)
    (hdistinct : registry.Distinct) (hcount : 1 ≤ registry.count)
    (hpos : ∀ row ∈ tierRows (store.tiers i) ++ rows, 0 < row.timestamp)
    (hk : k ≤ (persistAppends (persistSync (persistOpen (store.tiers i)) store i).1 rows).2.length)
    (hempty : tierRows (store'.tiers j) = [])
    (hinterval : (store'.tiers j).intervalS = (store.tiers i).intervalS)
    (hcapacity : (store'.tiers j).ring.capacity = (store.tiers i).ring.capacity) :
    ∃ start : RingBuffer (Row CFloat registry.count),
      start.toList = [] ∧ start.capacity = (store.tiers i).ring.capacity ∧
      tierRows ((persistLoad (persistOpen (store'.tiers j))
          (file.applyAll (crashLog store i rows k)) store' j).1.tiers j) =
        staleWindow start (tierRows (store.tiers i) ++ rows)
          (flushedAfter (crashPoint (tierRows (store.tiers i)).length k))
          (recordsAfter (crashPoint (tierRows (store.tiers i)).length k)) := by
  have hp := crashPoint_le store i rows hk
  have hlen := length_persistAppends_initialised (persistOpen (store.tiers i))
    (store.tiers i).ring.capacity_pos (tierRows (store.tiers i) ++ rows)
  set p := crashPoint (tierRows (store.tiers i)).length k
  have hrows := recordsAfter_le_of_le (hp.trans hlen.le)
  have hsum := recordsAfter_eq p
  have hmod : p % FLUSH_PERIOD < FLUSH_PERIOD := Nat.mod_lt _ (by decide)
  obtain ⟨start, hcap, hstart, hdisk⟩ := onDisk_layout_take (persistOpen (store.tiers i)) file
    (tierRows (store.tiers i) ++ rows) (store.tiers i).ring.capacity_pos hf p hp
  have hcap : start.capacity = (store.tiers i).ring.capacity := hcap
  refine ⟨start, hstart, hcap, ?_⟩
  have hsaved : savedRows (persistOpen (store'.tiers j)) (file.applyAll (crashLog store i rows k)) =
      staleWindow start (tierRows (store.tiers i) ++ rows) (flushedAfter p) (recordsAfter p) := by
    have hwindow : ∀ n, ringWindow (start.pushAll ((tierRows (store.tiers i) ++ rows).take n)).slots
        (start.pushAll ((tierRows (store.tiers i) ++ rows).take n)).capacity = ringWindow
          (start.pushAll ((tierRows (store.tiers i) ++ rows).take n)).slots start.capacity :=
      fun n => by rw [RingBuffer.pushAll_capacity]
    change OnDisk registry (store.tiers i).intervalS _ _ _ at hdisk
    rw [← hinterval] at hf hdisk
    rw [crashLog_eq, hdisk.savedRows_eq (by rwa [RingBuffer.pushAll_capacity, hcap]) (by omega),
      hwindow, ← staleWindow, List.map_congr_left fun row _ => remapRow_self hdistinct row,
      List.map_id']
    rw [hwindow, ← staleWindow]
    exact fun row hrow => hpos row
      (mem_of_mem_staleWindow hstart (by omega) hrows (by omega) hrow)
  have hfit := length_staleWindow_le start (tierRows (store.tiers i) ++ rows)
    (flushedAfter p) (recordsAfter p)
  rw [persistLoad]
  dsimp only
  rw [tierRows_restoreAll, hempty, List.nil_append, hsaved, hcapacity, ← hcap,
    Lib.rtake_of_length_le hfit]

/-- How many records a cut leaves on disk. -/
theorem recordWrites_crashLog (hcount : 1 ≤ registry.count)
    (hk : k ≤ (persistAppends (persistSync (persistOpen (store.tiers i)) store i).1 rows).2.length) :
    recordWrites registry.count (crashLog store i rows k) =
      recordsAfter (crashPoint (tierRows (store.tiers i)).length k) := by
  have hcap := (store.tiers i).ring.capacity_pos
  have hbefore : HEADER_BYTES < recordsOffset registry.count := by
    unfold recordsOffset idTableBytes METRIC_ID_MAX
    omega
  have hlayout : recordWrites registry.count
      (initialiseFile (persistOpen (store.tiers i))).2 = 0 := by
    rw [initialiseFile_ops, recordWrites, List.countP_eq_zero]
    simp only [List.mem_cons, List.not_mem_nil, or_false, forall_eq_or_imp, forall_eq,
      isRecordWrite_header]
    simp [isRecordWrite, hbefore]
  have hrun := recordWrites_take_appends (store.tiers i).intervalS
    (.empty _ (fun _ => decodeRow registry.count []) hcap) 0 (by decide)
    (tierRows (store.tiers i) ++ rows) _ (crashPoint_le store i rows hk)
  rw [Nat.zero_add, Nat.zero_add] at hrun
  rw [crashLog_eq, recordWrites, List.countP_append, ← recordWrites, ← recordWrites, hlayout,
    Nat.zero_add]
  exact hrun

variable [SampleArith CFloat D] {baseIntervalS memory : ℕ}

/-- A crash between two header flushes costs only the newest rows exactly where the index keeps
up with the records; elsewhere, when no row repeats, the order of the rows is lost. -/
theorem crash_survived_iff (hstore : StoreReachable registry baseIntervalS memory store)
    (hbase : baseIntervalS < 2 ^ 32) (hdistinct : registry.Distinct)
    (hcount : 1 ≤ registry.count) (hcount' : registry.count ≤ 100000)
    (hpos : ∀ row ∈ tierRows (store.tiers i) ++ rows, 0 < row.timestamp) (file : ByteFile)
    (hk : k ≤ (persistAppends (persistSync (persistOpen (store.tiers i)) store i).1 rows).2.length)
    (store' : Store CFloat D registry) (j : Fin STORE_TIERS)
    (hempty : tierRows (store'.tiers j) = [])
    (hinterval : (store'.tiers j).intervalS = (store.tiers i).intervalS)
    (hcapacity : (store'.tiers j).ring.capacity = (store.tiers i).ring.capacity) :
    (HeaderKeepsUp (store.tiers i).ring.capacity
        (crashPoint (tierRows (store.tiers i)).length k) →
      SurvivesCrash (heldRows store i rows (crashLog store i rows k))
        (tierRows ((persistLoad (persistOpen (store'.tiers j))
          (file.applyAll (crashLog store i rows k)) store' j).1.tiers j))) ∧
    ((tierRows (store.tiers i) ++ rows).Nodup →
      SurvivesCrash (heldRows store i rows (crashLog store i rows k))
        (tierRows ((persistLoad (persistOpen (store'.tiers j))
          (file.applyAll (crashLog store i rows k)) store' j).1.tiers j)) →
      HeaderKeepsUp (store.tiers i).ring.capacity
        (crashPoint (tierRows (store.tiers i)).length k)) := by
  have hbounds := hstore.capacity_bounds i
  have hf : LayoutFits registry (store.tiers i).intervalS (store.tiers i).ring.capacity :=
    ⟨hcount', hstore.intervalS_lt hbase i, by omega⟩
  have hturn : FLUSH_PERIOD ≤ (store.tiers i).ring.capacity := le_trans (by decide) hbounds.1
  obtain ⟨start, hstart, hcap, hrestored⟩ :=
    crash_restored store' j file hf hturn hdistinct hcount hpos hk hempty hinterval hcapacity
  have hp := crashPoint_le store i rows hk
  have hlen := length_persistAppends_initialised (persistOpen (store.tiers i))
    (store.tiers i).ring.capacity_pos (tierRows (store.tiers i) ++ rows)
  have hrows := recordsAfter_le_of_le (hp.trans hlen.le)
  rw [hrestored, heldRows, recordWrites_crashLog hcount hk, ← hcap]
  exact ⟨survivesCrash_of_headerKeepsUp hstart hrows, headerKeepsUp_of_survivesCrash hstart hrows
    (hcap ▸ hturn)⟩

end Cut

/-- A tier sampled every ten seconds: 300 rows, and the file is full after fifty minutes. -/
abbrev tenSecondStore : Store CFloat Float (.registerAll [ascii "cpu.usage"]) := storeNew _ 10 0

/-- One row for each of the first `n` ticks. -/
def tickRows (n : ℕ) : List (Row CFloat (MetricRegistry.registerAll [ascii "cpu.usage"]).count) :=
  (List.range n).map fun t => ⟨Int64.ofNat (t + 1), fun _ => ⟨0⟩⟩

theorem toInt_tick {t : ℕ} (h : t < 2 ^ 62) : (Int64.ofNat (t + 1)).toInt = t + 1 := by
  rw [Int64.toInt_ofNat_of_lt (by omega)]
  rfl

theorem tickRows_pos {n : ℕ} (h : n ≤ 2 ^ 62) : ∀ row ∈ tickRows n, 0 < row.timestamp := by
  intro row hrow
  obtain ⟨t, ht, rfl⟩ := List.mem_map.mp hrow
  have ht := List.mem_range.mp ht
  have htick := toInt_tick (t := t) (by omega)
  rw [Int64.lt_iff_toInt_lt, htick, Int64.toInt_zero]
  omega

theorem nodup_tickRows {n : ℕ} (h : n ≤ 2 ^ 62) : (tickRows n).Nodup := by
  refine List.Nodup.map_on (fun t ht t' ht' heq => ?_) List.nodup_range
  have ht := List.mem_range.mp ht
  have ht' := List.mem_range.mp ht'
  have htime := congrArg (fun row => row.timestamp.toInt) heq
  simp only [toInt_tick (show t < 2 ^ 62 by omega), toInt_tick (show t' < 2 ^ 62 by omega)] at htime
  omega

@[simp] theorem length_tickRows (n : ℕ) : (tickRows n).length = n := by
  rw [tickRows, List.length_map, List.length_range]

theorem length_appends_tenSecondStore
    (rows : List (Row CFloat (MetricRegistry.registerAll [ascii "cpu.usage"]).count)) :
    (persistAppends (persistSync (persistOpen (tenSecondStore.tiers 0)) tenSecondStore 0).1
      rows).2.length = rows.length + rows.length / HEADER_FLUSH_EVERY := by
  rw [persistSync_eq, tierRows_storeNew]
  exact length_persistAppends_initialised _ (RingBuffer.capacity_pos _) rows

/-- Cut right after its second record, the tier comes back without its newest rows. -/
theorem crash_survived_two_ticks :
    SurvivesCrash (heldRows tenSecondStore 0 (tickRows 2) (crashLog tenSecondStore 0 (tickRows 2) 2))
      (tierRows ((persistLoad (persistOpen (tenSecondStore.tiers 0))
        (ByteFile.empty.applyAll (crashLog tenSecondStore 0 (tickRows 2) 2))
        tenSecondStore 0).1.tiers 0)) :=
  (crash_survived_iff (.new : StoreReachable _ 10 0 tenSecondStore) (by decide) (by decide)
    (by decide) (by decide) (by rw [tierRows_storeNew]; decide) ByteFile.empty
    (by rw [length_appends_tenSecondStore]; decide) tenSecondStore 0 rfl rfl rfl).1
    (by rw [tierRows_storeNew]; decide)

/-- The 301st row overwrites the oldest slot, and the index of the 300th puts it first. -/
theorem not_survivesCrash_wrapped :
    ¬ SurvivesCrash
      (heldRows tenSecondStore 0 (tickRows 301) (crashLog tenSecondStore 0 (tickRows 301) 306))
      (tierRows ((persistLoad (persistOpen (tenSecondStore.tiers 0))
        (ByteFile.empty.applyAll (crashLog tenSecondStore 0 (tickRows 301) 306))
        tenSecondStore 0).1.tiers 0)) := by
  intro h
  have hcut : 306 ≤ (persistAppends (persistSync (persistOpen (tenSecondStore.tiers 0))
      tenSecondStore 0).1 (tickRows 301)).2.length := by
    rw [length_appends_tenSecondStore, length_tickRows]
    decide
  obtain ⟨start, hstart, hcap, hrestored⟩ := crash_restored tenSecondStore 0 ByteFile.empty
    ⟨by decide, by decide, by decide⟩ (by decide) (by decide) (by decide)
    (by rw [tierRows_storeNew]; exact tickRows_pos (by decide)) hcut rfl rfl rfl
  rw [hrestored, heldRows, recordWrites_crashLog (by decide) hcut, tierRows_storeNew,
    List.nil_append, ← hcap] at h
  have hcap : start.capacity = 300 := hcap
  have hkeeps := headerKeepsUp_of_survivesCrash hstart (by rw [length_tickRows]; decide)
    (by rw [hcap]; decide) (nodup_tickRows (by decide)) h
  rw [hcap] at hkeeps
  exact absurd hkeeps (by decide)

end AxisMetrics
