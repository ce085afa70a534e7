import AxisMetrics.Persist.Load

/-!
# A history file as two circular buffers

The records of a file are the slots of one circular buffer, `written`; the header's index
is that of another, `indexed`, which is `written` as it was when the header was last
flushed. `OnDisk` says so of a file, each completed write moves one of the two forward,
and `OnDisk.take_appends` gives both after any number of completed writes.
-/

namespace AxisMetrics

open Lib (Bytes ByteFile FileOp RingBuffer ringWindow)

variable {D : Type} {registry saved : MetricRegistry} {intervalS : ℕ}

/-- What a laid-out file holds: the slots of `written` under the index of `indexed`. -/
structure OnDisk (registry : MetricRegistry) (intervalS : ℕ) (file : ByteFile)
    (written indexed : RingBuffer (Row CFloat registry.count)) : Prop where
  size_eq : file.size = slotOffset registry.count written.capacity
  header : readHeader file =
    some (fileHeader registry intervalS written.capacity indexed.head indexed.count)
  table : file.slice HEADER_BYTES (idTableBytes registry.count) = idTable registry
  slots : slotRow file registry.count = written.slots
  capacity_eq : indexed.capacity = written.capacity

/-- The numbers a header has to hold fit its fields. -/
structure LayoutFits (registry : MetricRegistry) (intervalS capacity : ℕ) : Prop where
  nMetrics : registry.count ≤ 100000
  intervalS_lt : intervalS < 2 ^ 32
  capacity_lt : capacity < 2 ^ 31

theorem LayoutFits.header (h : LayoutFits registry intervalS capacity) {head count : ℕ}
    (hhead : head < capacity) (hcount : count ≤ capacity) :
    (fileHeader registry intervalS capacity head count).Fits := by
  obtain ⟨hn, hi, hc⟩ := h
  constructor <;> simp only [fileHeader] <;> first | decide | omega

theorem readHeader_write_header {file : ByteFile} {h : PersistHeader} (hf : h.Fits) :
    readHeader (file.write 0 (encodeHeader h)) = some h := by
  have hlen := length_encodeHeader hf.magic
  have hsize : 0 + PERSIST_HEADER_SIZE ≤ (file.write 0 (encodeHeader h)).size := by
    simp only [ByteFile.write, hlen]
    rw [if_neg (by decide)]
    exact le_max_right _ _
  rw [readHeader, ByteFile.read_of_le hsize, ← hlen, ByteFile.slice_write_same, Option.map_some,
    decodeHeader_encodeHeader hf]

/-- A write behind the header leaves it alone. -/
theorem readHeader_write_of_le {file : ByteFile} {offset : ℕ} {buffer : Bytes}
    (hsize : PERSIST_HEADER_SIZE ≤ file.size) (h : PERSIST_HEADER_SIZE ≤ offset) :
    readHeader (file.write offset buffer) = readHeader file := by
  have hsize' := hsize.trans (file.size_le_size_write offset buffer)
  rw [readHeader, readHeader, ByteFile.read_of_le (by omega), ByteFile.read_of_le (by omega),
    ByteFile.slice_write_of_disjoint]
  exact Or.inl (by omega)

theorem header_le_slotOffset (n slot : ℕ) : PERSIST_HEADER_SIZE ≤ slotOffset n slot := by
  have h := recordsOffset_le_slotOffset n slot
  unfold recordsOffset HEADER_BYTES at h
  unfold PERSIST_HEADER_SIZE
  omega

variable {file : ByteFile} {written indexed : RingBuffer (Row CFloat registry.count)}

/-- A record write pushes onto `written`. -/
theorem OnDisk.record (h : OnDisk registry intervalS file written indexed)
    (row : Row CFloat registry.count) :
    OnDisk registry intervalS
      (file.write (slotOffset registry.count written.head) (encodeRow row))
      (written.push row) indexed where
  size_eq := by
    rw [ByteFile.size_write_of_le, h.size_eq, RingBuffer.push_capacity]
    rw [length_encodeRow, h.size_eq]
    exact slotOffset_add_le written.head_lt
  header := by
    rw [readHeader_write_of_le _ (header_le_slotOffset _ _), h.header, RingBuffer.push_capacity]
    rw [h.size_eq]
    exact header_le_slotOffset _ _
  table := by
    rw [ByteFile.slice_write_of_disjoint, h.table]
    exact Or.inl (recordsOffset_le_slotOffset _ _)
  slots := by
    rw [slotRow_write_slot, h.slots]
    rfl
  capacity_eq := h.capacity_eq

/-- A header flush makes `indexed` catch up. -/
theorem OnDisk.flush (h : OnDisk registry intervalS file written indexed)
    (hf : LayoutFits registry intervalS written.capacity) :
    OnDisk registry intervalS (file.write 0 (encodeHeader
      (fileHeader registry intervalS written.capacity written.head written.count)))
      written written := by
  have hfits := hf.header written.head_lt written.count_le
  have hlen := length_encodeHeader hfits.magic
  have hbefore : PERSIST_HEADER_SIZE ≤ HEADER_BYTES := by decide
  refine ⟨?_, readHeader_write_header hfits, ?_, ?_, rfl⟩
  · rw [ByteFile.size_write_of_le, h.size_eq]
    rw [hlen, h.size_eq, Nat.zero_add]
    exact header_le_slotOffset _ _
  · rw [ByteFile.slice_write_of_disjoint, h.table]
    exact Or.inr (by omega)
  · rw [slotRow_write_of_le, h.slots]
    unfold recordsOffset
    omega

/-- The `Persist` of a laid-out file whose next record goes to the head of `ring`. -/
def ringPersist (registry : MetricRegistry) (intervalS : ℕ)
    (ring : RingBuffer (Row CFloat registry.count)) (appendsSinceHeader : ℕ) :
    Persist registry :=
  ⟨ring.capacity, intervalS, ring.head, ring.count, appendsSinceHeader, true⟩

/-- The three writes of `initialise_file`. -/
theorem initialiseFile_ops (persist : Persist registry) : (initialiseFile persist).2 =
    [.write HEADER_BYTES (idTable registry),
      .write 0 (encodeHeader (fileHeader registry persist.intervalS persist.capacity 0 0)),
      .truncate (slotOffset registry.count persist.capacity)] := rfl

/-- Once laid out, a file is an empty circular buffer, whatever it was before. -/
theorem onDisk_initialiseFile (persist : Persist registry) (file : ByteFile)
    (hcap : 0 < persist.capacity)
    (hf : LayoutFits registry persist.intervalS persist.capacity) :
    ∃ slots, OnDisk registry persist.intervalS (file.applyAll (initialiseFile persist).2)
      (.empty persist.capacity slots hcap) (.empty persist.capacity slots hcap) := by
  have hfits := hf.header hcap (Nat.zero_le _)
  have hlen := length_encodeHeader hfits.magic
  have hsize := header_le_slotOffset registry.count persist.capacity
  have htable := length_idTable registry
  have hbefore : PERSIST_HEADER_SIZE ≤ HEADER_BYTES := by decide
  refine ⟨_, rfl, ?_, ?_, rfl, rfl⟩
  · -- the truncation keeps the header that was just written
    rw [initialiseFile_ops, ByteFile.applyAll_cons, ByteFile.applyAll_cons,
      ByteFile.applyAll_cons, ByteFile.applyAll_nil]
    simp only [ByteFile.apply]
    rw [readHeader, ByteFile.read_of_le (show 0 + PERSIST_HEADER_SIZE ≤ slotOffset _ _ by omega),
      ByteFile.slice_truncate _ (by omega), ← hlen, ByteFile.slice_write_same, Option.map_some,
      decodeHeader_encodeHeader hfits]
    rfl
  · rw [initialiseFile_ops, ByteFile.applyAll_cons, ByteFile.applyAll_cons,
      ByteFile.applyAll_cons, ByteFile.applyAll_nil]
    simp only [ByteFile.apply]
    rw [ByteFile.slice_truncate _ (recordsOffset_le_slotOffset _ _),
      ByteFile.slice_write_of_disjoint _ (Or.inr (by omega)), ← htable,
      ByteFile.slice_write_same]

/-- Sixty records and the header that follows them. -/
def FLUSH_PERIOD : ℕ := HEADER_FLUSH_EVERY + 1

/-- How many of the first `p` writes after the layout are record writes. -/
def recordsAfter (p : ℕ) : ℕ := HEADER_FLUSH_EVERY * (p / FLUSH_PERIOD) + p % FLUSH_PERIOD

/-- How many records the header accounts for after `p` writes. -/
def flushedAfter (p : ℕ) : ℕ := HEADER_FLUSH_EVERY * (p / FLUSH_PERIOD)

theorem recordsAfter_le {p : ℕ} (h : p < FLUSH_PERIOD) : recordsAfter p = p := by
  unfold recordsAfter
  rw [Nat.div_eq_of_lt h, Nat.mod_eq_of_lt h, Nat.mul_zero, Nat.zero_add]

theorem flushedAfter_le {p : ℕ} (h : p < FLUSH_PERIOD) : flushedAfter p = 0 := by
  unfold flushedAfter
  rw [Nat.div_eq_of_lt h, Nat.mul_zero]

theorem flushedAfter_add (p : ℕ) :
    flushedAfter (FLUSH_PERIOD + p) = HEADER_FLUSH_EVERY + flushedAfter p := by
  unfold flushedAfter
  rw [Nat.add_div_left _ (by decide), Nat.mul_add, Nat.mul_one, Nat.add_comm]

theorem recordsAfter_add (p : ℕ) :
    recordsAfter (FLUSH_PERIOD + p) = HEADER_FLUSH_EVERY + recordsAfter p := by
  have h := flushedAfter_add p
  unfold flushedAfter at h
  rw [recordsAfter, recordsAfter, h, Nat.add_mod_left, Nat.add_assoc]

/-- What one append writes, and where it leaves the `Persist`. -/
theorem persistAppend_ringPersist (ring : RingBuffer (Row CFloat registry.count)) (a : ℕ)
    (row : Row CFloat registry.count) :
    persistAppend (ringPersist registry intervalS ring a) row .complete =
      if HEADER_FLUSH_EVERY ≤ a + 1 then
        (ringPersist registry intervalS (ring.push row) 0,
          [.write (slotOffset registry.count ring.head) (encodeRow row),
            .write 0 (encodeHeader (fileHeader registry intervalS ring.capacity
              (ring.push row).head (ring.push row).count))])
      else (ringPersist registry intervalS (ring.push row) (a + 1),
        [.write (slotOffset registry.count ring.head) (encodeRow row)]) := rfl

/-- Appends one after the other: the ring takes every row. -/
theorem persistAppends_ringPersist (intervalS : ℕ)
    (ring : RingBuffer (Row CFloat registry.count)) (a : ℕ) (ha : a < HEADER_FLUSH_EVERY)
    (rows : List (Row CFloat registry.count)) :
    (persistAppends (ringPersist registry intervalS ring a) rows).1 =
      ringPersist registry intervalS (ring.pushAll rows) ((a + rows.length) % HEADER_FLUSH_EVERY) ∧
    (persistAppends (ringPersist registry intervalS ring a) rows).2.length =
      rows.length + (a + rows.length) / HEADER_FLUSH_EVERY := by
  induction rows generalizing ring a with
  | nil =>
    rw [List.length_nil, Nat.add_zero, Nat.mod_eq_of_lt ha, Nat.div_eq_of_lt ha]
    exact ⟨rfl, rfl⟩
  | cons row rows ih =>
    rw [persistAppends, persistAppend_ringPersist, List.length_cons]
    by_cases hflush : HEADER_FLUSH_EVERY ≤ a + 1
    · obtain ⟨hp, hl⟩ := ih (ring.push row) 0 (by decide)
      have ha' : a + (rows.length + 1) = HEADER_FLUSH_EVERY + (0 + rows.length) := by omega
      simp only [if_pos hflush]
      rw [ha', Nat.add_mod_left, Nat.add_div_left _ (by decide), hp, List.length_append, hl]
      exact ⟨rfl, by simp only [List.length_cons, List.length_nil]; omega⟩
    · obtain ⟨hp, hl⟩ := ih (ring.push row) (a + 1) (by omega)
      have ha' : a + (rows.length + 1) = a + 1 + rows.length := by omega
      simp only [if_neg hflush]
      rw [ha', hp, List.length_append, hl]
      exact ⟨rfl, by simp only [List.length_cons, List.length_nil]; omega⟩

/-- Before any further write, the file is where the last flush and the stale rows left it. -/
private theorem OnDisk.take_zero {stale rows : List (Row CFloat registry.count)}
    (hstale : stale.length < HEADER_FLUSH_EVERY)
    (h : OnDisk registry intervalS file (indexed.pushAll stale) indexed) :
    OnDisk registry intervalS file
      (indexed.pushAll ((stale ++ rows).take (recordsAfter stale.length)))
      (indexed.pushAll ((stale ++ rows).take (flushedAfter stale.length))) := by
  have hlt : stale.length < FLUSH_PERIOD := hstale.trans (Nat.lt_succ_self _)
  rw [recordsAfter_le hlt, flushedAfter_le hlt, List.take_left, List.take_zero]
  exact h

/-- The file after the first `p` writes of a run of appends. The records are ahead of the
header by what has been appended since its last flush. -/
theorem OnDisk.take_appends (stale rows : List (Row CFloat registry.count))
    (hstale : stale.length < HEADER_FLUSH_EVERY)
    (hf : LayoutFits registry intervalS indexed.capacity)
    (h : OnDisk registry intervalS file (indexed.pushAll stale) indexed) (p : ℕ)
    (hp : p ≤ (persistAppends
      (ringPersist registry intervalS (indexed.pushAll stale) stale.length) rows).2.length) :
    OnDisk registry intervalS
      (file.applyAll ((persistAppends
        (ringPersist registry intervalS (indexed.pushAll stale) stale.length) rows).2.take p))
      (indexed.pushAll ((stale ++ rows).take (recordsAfter (stale.length + p))))
      (indexed.pushAll ((stale ++ rows).take (flushedAfter (stale.length + p)))) := by
  induction rows generalizing indexed stale file p with
  | nil =>
    obtain rfl : p = 0 := Nat.le_zero.mp hp
    exact h.take_zero hstale
  | cons row rows ih =>
    have hrecord := h.record row
    have hring : (indexed.pushAll stale).push row = indexed.pushAll (stale ++ [row]) :=
      (RingBuffer.pushAll_append indexed stale [row]).symm
    have hlist : stale ++ row :: rows = (stale ++ [row]) ++ rows := by simp
    have hlen : (stale ++ [row]).length = stale.length + 1 := by simp
    rw [persistAppends, persistAppend_ringPersist] at hp ⊢
    by_cases hflush : HEADER_FLUSH_EVERY ≤ stale.length + 1
    · -- the record completes a period, so a header flush follows it
      have hfull : (stale ++ [row]).length = HEADER_FLUSH_EVERY := by omega
      simp only [if_pos hflush, List.cons_append, List.nil_append] at hp ⊢
      match p with
      | 0 => exact h.take_zero hstale
      | 1 =>
        have h1 : stale.length + 1 = HEADER_FLUSH_EVERY := by omega
        rw [h1, recordsAfter_le (by decide), flushedAfter_le (by decide), hlist, ← hfull,
          List.take_left, List.take_zero, ← hring]
        exact hrecord
      | p + 2 =>
        have hcap : LayoutFits registry intervalS ((indexed.pushAll stale).push row).capacity := by
          rwa [RingBuffer.push_capacity, RingBuffer.pushAll_capacity]
        have hstep := ih [] (Nat.zero_lt_succ _) hcap (hrecord.flush hcap) p
          (by simpa only [List.length_cons, Nat.add_le_add_iff_right, RingBuffer.pushAll_nil,
            List.length_nil] using hp)
        have hp2 : stale.length + (p + 2) = FLUSH_PERIOD + p := by
          unfold FLUSH_PERIOD
          omega
        rw [hp2, recordsAfter_add, flushedAfter_add, hlist, ← hfull, List.take_length_add_append,
          List.take_length_add_append, RingBuffer.pushAll_append _ (stale ++ [row]),
          RingBuffer.pushAll_append _ (stale ++ [row]), ← hring]
        simp only [List.length_nil, Nat.zero_add, List.nil_append, RingBuffer.pushAll_nil] at hstep
        exact hstep
    · simp only [if_neg hflush, List.cons_append, List.nil_append] at hp ⊢
      match p with
      | 0 => exact h.take_zero hstale
      | p + 1 =>
        have hstep := ih (stale ++ [row]) (by omega) hf (hring ▸ hrecord) p
        rw [hlen, ← hring, ← hlist, show stale.length + 1 + p = stale.length + (p + 1) by omega]
          at hstep
        exact hstep (by simpa using hp)

/-- The writes of `n` appends on a file just laid out end with `n` records on it. -/
theorem recordsAfter_appends (n : ℕ) : recordsAfter (n + n / HEADER_FLUSH_EVERY) = n := by
  unfold recordsAfter FLUSH_PERIOD HEADER_FLUSH_EVERY
  omega

/-- A cut before the last of `n` appends has at most `n` records on it. -/
theorem recordsAfter_le_of_le {p n : ℕ} (h : p ≤ n + n / HEADER_FLUSH_EVERY) :
    recordsAfter p ≤ n := by
  unfold recordsAfter FLUSH_PERIOD
  unfold HEADER_FLUSH_EVERY at *
  omega

/-- The file after a whole run of appends. -/
theorem OnDisk.appends (rows : List (Row CFloat registry.count))
    (hf : LayoutFits registry intervalS written.capacity)
    (h : OnDisk registry intervalS file written written) :
    ∃ indexed, OnDisk registry intervalS
      (file.applyAll (persistAppends (ringPersist registry intervalS written 0) rows).2)
      (written.pushAll rows) indexed := by
  have hlen := (persistAppends_ringPersist intervalS written 0 (by decide) rows).2
  have hall := h.take_appends [] rows (Nat.zero_lt_succ _) hf _ le_rfl
  simp only [RingBuffer.pushAll_nil, List.length_nil, List.take_length, List.nil_append,
    Nat.zero_add] at hall hlen
  rw [hlen, recordsAfter_appends, List.take_length] at hall
  exact ⟨_, hall⟩

theorem persistAppends_append (persist : Persist registry)
    (rows rows' : List (Row CFloat registry.count)) :
    persistAppends persist (rows ++ rows') =
      ((persistAppends (persistAppends persist rows).1 rows').1,
        (persistAppends persist rows).2 ++
          (persistAppends (persistAppends persist rows).1 rows').2) := by
  induction rows generalizing persist with
  | nil => rfl
  | cons row rows ih => simp only [List.cons_append, persistAppends, ih, List.append_assoc]

/-- A sync lays the file out and appends the rows of the tier. -/
theorem persistSync_eq (persist : Persist registry) (store : Store CFloat D registry)
    (i : Fin STORE_TIERS) :
    persistSync persist store i =
      ((persistAppends (initialiseFile persist).1 (tierRows (store.tiers i))).1,
        (initialiseFile persist).2 ++
          (persistAppends (initialiseFile persist).1 (tierRows (store.tiers i))).2) := by
  rw [← filterMap_storeTierSample]
  rfl

/-- How many writes a run of appends to a file just laid out takes. -/
theorem length_persistAppends_initialised (persist : Persist registry) (hcap : 0 < persist.capacity)
    (rows : List (Row CFloat registry.count)) :
    (persistAppends (initialiseFile persist).1 rows).2.length =
      rows.length + rows.length / HEADER_FLUSH_EVERY := by
  have hlen := (persistAppends_ringPersist persist.intervalS
    (.empty persist.capacity (fun _ => decodeRow _ []) hcap) 0 (by decide) rows).2
  rw [Nat.zero_add] at hlen
  exact hlen

/-- The file `p` writes after a sync began to replay its rows. -/
theorem onDisk_layout_take (persist : Persist registry) (file : ByteFile)
    (rows : List (Row CFloat registry.count)) (hcap : 0 < persist.capacity)
    (hf : LayoutFits registry persist.intervalS persist.capacity) (p : ℕ)
    (hp : p ≤ (persistAppends (initialiseFile persist).1 rows).2.length) :
    ∃ start : RingBuffer (Row CFloat registry.count),
      start.capacity = persist.capacity ∧ start.toList = [] ∧
      OnDisk registry persist.intervalS
        (file.applyAll ((initialiseFile persist).2 ++
          (persistAppends (initialiseFile persist).1 rows).2.take p))
        (start.pushAll (rows.take (recordsAfter p)))
        (start.pushAll (rows.take (flushedAfter p))) := by
  obtain ⟨slots, hlaid⟩ := onDisk_initialiseFile persist file hcap hf
  have htake := hlaid.take_appends [] rows (Nat.zero_lt_succ _) hf p hp
  simp only [List.length_nil, Nat.zero_add, List.nil_append] at htake
  rw [ByteFile.applyAll_append]
  exact ⟨_, rfl, rfl, htake⟩

/-- The file after a sync, further appends, and a close: every row went to the buffer, and
the header says so. -/
theorem onDisk_close (persist : Persist registry) (file : ByteFile)
    (rows : List (Row CFloat registry.count)) (hcap : 0 < persist.capacity)
    (hf : LayoutFits registry persist.intervalS persist.capacity) :
    ∃ ring : RingBuffer (Row CFloat registry.count),
      ring.capacity = persist.capacity ∧ ring.toList = rows.rtake persist.capacity ∧
      OnDisk registry persist.intervalS
        (file.applyAll ((initialiseFile persist).2 ++
          (persistAppends (initialiseFile persist).1 rows).2 ++
          persistClose (persistAppends (initialiseFile persist).1 rows).1)) ring ring := by
  obtain ⟨slots, hlaid⟩ := onDisk_initialiseFile persist file hcap hf
  set ring := RingBuffer.empty persist.capacity slots hcap
  have hstart : (initialiseFile persist).1 = ringPersist registry persist.intervalS ring 0 := rfl
  have hring : (ring.pushAll rows).capacity = persist.capacity := RingBuffer.pushAll_capacity _ _
  have hpersist := (persistAppends_ringPersist persist.intervalS ring 0 (by decide) rows).1
  obtain ⟨indexed, happends⟩ := hlaid.appends rows hf
  refine ⟨ring.pushAll rows, hring, RingBuffer.toList_pushAll_empty _ _ _ _, ?_⟩
  rw [ByteFile.applyAll_append, ByteFile.applyAll_append, hstart, hpersist]
  exact happends.flush (hring ▸ hf)

/-- A load reads the slots of `written` through the index of `indexed`. -/
theorem OnDisk.savedRows_eq {current : MetricRegistry} {persist : Persist current}
    (h : OnDisk registry persist.intervalS file written indexed)
    (hf : LayoutFits registry persist.intervalS written.capacity) (hcount : registry.count ≠ 0)
    (hpos : ∀ row ∈ ringWindow written.slots written.capacity indexed.head indexed.count,
      0 < row.timestamp) :
    savedRows persist file =
      (ringWindow written.slots written.capacity indexed.head indexed.count).map
        (remapRow registry current) := by
  have hhead := h.capacity_eq ▸ indexed.head_lt
  have hlive := h.capacity_eq ▸ indexed.count_le
  rw [AxisMetrics.savedRows_eq h.header h.table h.size_eq.ge hcount hf.nMetrics hf.capacity_lt
    hhead hlive, h.slots, List.filter_eq_self.mpr]
  exact fun row hrow => by simpa using hpos row hrow

/-- With the index up to date, a load reads the rows of the buffer. -/
theorem OnDisk.savedRows_of_flushed {current : MetricRegistry} {persist : Persist current}
    (h : OnDisk registry persist.intervalS file written written)
    (hf : LayoutFits registry persist.intervalS written.capacity) (hcount : registry.count ≠ 0)
    (hpos : ∀ row ∈ written.toList, 0 < row.timestamp) :
    savedRows persist file = written.toList.map (remapRow registry current) :=
  h.savedRows_eq hf hcount hpos

/-- A file without metrics is not read. -/
theorem OnDisk.savedRows_of_no_metrics {current : MetricRegistry} {persist : Persist current}
    (h : OnDisk registry intervalS file written indexed) (hcount : registry.count = 0) :
    savedRows persist file = [] := by
  have hreject : headerAccepted persist
      (fileHeader registry intervalS written.capacity indexed.head indexed.count) = false := by
    simp [headerAccepted, fileHeader, hcount]
  rw [savedRows, h.header]
  simp only [hreject, Bool.false_eq_true, if_false]

end AxisMetrics
