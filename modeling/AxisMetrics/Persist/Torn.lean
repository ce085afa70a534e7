import AxisMetrics.Persist.Crash

/-!
# A record write that fails

`persist_append` writes a record in place, so a write that fails leaves its first bytes
in the slot at the head. `OpenRecording` is a history file between its sync and its close,
`OpenRecording.Holds` says which circular buffer it is, and a failed append only spoils the
slot at the head of that buffer. `leavesRecording_iff` says when a later load can tell.
-/

namespace AxisMetrics

open Lib (Bytes ByteFile FileOp RingBuffer leBytes ofLeBytes ascii)

variable {D : Type} {registry current : MetricRegistry} {n : ℕ}

-- ═══════════════════════════════════════════════════════════════════════
-- A torn record
-- ═══════════════════════════════════════════════════════════════════════

/-- The record of `old` after the first `k` bytes of the record of `row` went over it. -/
def tornRow (old row : Row CFloat n) (k : ℕ) : Row CFloat n :=
  decodeRow n ((encodeRow row).take k ++ (encodeRow old).drop k)

/-- Eight bytes read as a timestamp. -/
def stampOf (bytes : Bytes) : Int64 := (UInt64.ofNat (ofLeBytes bytes)).toInt64

/-- The bytes of a timestamp. -/
def stampBytes (timestamp : Int64) : Bytes := leBytes 8 timestamp.toUInt64.toNat

/-- The bytes of the values of a row. -/
def valueBytes (row : Row CFloat n) : Bytes :=
  (List.finRange n).flatMap fun m => (row.values m).toBytes

@[simp] theorem length_stampBytes (timestamp : Int64) : (stampBytes timestamp).length = 8 :=
  Lib.length_leBytes _ _

theorem stampOf_stampBytes (timestamp : Int64) : stampOf (stampBytes timestamp) = timestamp := by
  have hlt : timestamp.toUInt64.toNat < 256 ^ 8 := timestamp.toUInt64.toNat_lt
  rw [stampOf, stampBytes, Lib.ofLeBytes_leBytes hlt, UInt64.ofNat_toNat, Int64.toInt64_toUInt64]

theorem encodeRow_eq (row : Row CFloat n) :
    encodeRow row = stampBytes row.timestamp ++ valueBytes row := rfl

/-- A record is read as its timestamp and its values, each on its own. -/
theorem decodeRow_append {stamp rest : Bytes} (h : stamp.length = 8) (row : Row CFloat n)
    (hrest : rest = valueBytes row) :
    decodeRow n (stamp ++ rest) = ⟨stampOf stamp, row.values⟩ := by
  have hself := congrArg Row.values (decodeRow_encodeRow row)
  have htime : (stamp ++ rest).take 8 = stamp := List.take_left' h
  have hvalues : (decodeRow n (stamp ++ rest)).values = row.values := by
    rw [← hself, encodeRow_eq, ← hrest]
    funext m
    simp only [decodeRow, ← List.drop_drop, List.drop_left' h,
      List.drop_left' (length_stampBytes _)]
  rw [← hvalues]
  simp only [decodeRow, htime, stampOf]

/-- A write that stops within the timestamp leaves the values. -/
theorem tornRow_of_le {old row : Row CFloat n} {k : ℕ} (h : k ≤ 8) :
    tornRow old row k = ⟨stampOf ((stampBytes row.timestamp).take k ++
      (stampBytes old.timestamp).drop k), old.values⟩ := by
  have hlen : ((stampBytes row.timestamp).take k ++ (stampBytes old.timestamp).drop k).length =
      8 := by
    simp
    omega
  rw [tornRow, encodeRow_eq, encodeRow_eq, List.take_append_of_le_length (by simpa using h),
    List.drop_append_of_le_length (by simpa using h), ← List.append_assoc]
  exact decodeRow_append hlen old rfl

/-- What is behind the timestamp depends on the old values only. -/
theorem tornRow_congr {old old' row : Row CFloat n} {k : ℕ} (h : 8 ≤ k)
    (hvalues : old.values = old'.values) : tornRow old row k = tornRow old' row k := by
  obtain ⟨j, rfl⟩ := Nat.exists_eq_add_of_le h
  have hdrop (old : Row CFloat n) : (encodeRow old).drop (8 + j) = (valueBytes old).drop j := by
    rw [← List.drop_drop, encodeRow_eq, List.drop_left' (length_stampBytes _)]
  rw [tornRow, tornRow, hdrop, hdrop, valueBytes, valueBytes, hvalues]

theorem toInt64_neg_iff {v : ℕ} (h : v < 2 ^ 64) : (UInt64.ofNat v).toInt64 < 0 ↔ 2 ^ 63 ≤ v := by
  have hnat : (UInt64.ofNat v).toBitVec.toNat = v := UInt64.toNat_ofNat_of_lt' h
  have hzero : (0 : Int64).toInt = 0 := rfl
  rw [Int64.lt_iff_toInt_lt, hzero]
  change (UInt64.ofNat v).toBitVec.toInt < 0 ↔ _
  rw [BitVec.toInt_eq_toNat_cond, hnat]
  split <;> omega

/-- The sign of a timestamp is in its last byte. -/
theorem stampOf_neg_iff {bytes : Bytes} (h : bytes.length = 8) :
    stampOf bytes < 0 ↔ 128 ≤ ofLeBytes (bytes.drop 7) := by
  have hlt := Lib.ofLeBytes_lt bytes
  have hhalf : 128 * 256 ^ 7 = 2 ^ 63 := by decide
  rw [h] at hlt
  rw [Lib.ofLeBytes_drop, stampOf, toInt64_neg_iff hlt, Nat.le_div_iff_mul_le (by decide),
    hhalf]

/-- A write that stops within the timestamp leaves its sign. -/
theorem tornRow_neg_iff {old row : Row CFloat n} {k : ℕ} (h : k < 8) :
    (tornRow old row k).timestamp < 0 ↔ old.timestamp < 0 := by
  have hdrop : ((stampBytes row.timestamp).take k ++ (stampBytes old.timestamp).drop k).drop 7 =
      (stampBytes old.timestamp).drop 7 := by
    rw [List.drop_append, List.drop_drop, List.drop_eq_nil_of_le, List.nil_append]
    · congr 1
      simp
      omega
    · simp
      omega
  rw [tornRow_of_le h.le, stampOf_neg_iff, hdrop, ← stampOf_neg_iff (length_stampBytes _),
    stampOf_stampBytes]
  simp
  omega

/-- What no later run of appends makes a load tell apart: the same record, or two with the same
values that stay without a valid timestamp until the whole of it is written. -/
def SameToLoads (old torn : Row CFloat n) : Prop :=
  torn = old ∨ (torn.timestamp < 0 ∧ old.timestamp < 0 ∧ torn.values = old.values)

theorem SameToLoads.tornRow {old torn : Row CFloat n} (h : SameToLoads old torn)
    (row : Row CFloat n) (k : ℕ) : SameToLoads (tornRow old row k) (tornRow torn row k) := by
  obtain rfl | ⟨htorn, hold, hvalues⟩ := h
  · exact Or.inl rfl
  · rcases Nat.lt_or_ge k 8 with hlt | hge
    · refine Or.inr ⟨(tornRow_neg_iff hlt).mpr htorn, (tornRow_neg_iff hlt).mpr hold, ?_⟩
      rw [tornRow_of_le hlt.le, tornRow_of_le hlt.le]
      exact hvalues
    · exact Or.inl (tornRow_congr hge hvalues)

-- ═══════════════════════════════════════════════════════════════════════
-- Open files
-- ═══════════════════════════════════════════════════════════════════════

/-- A history file between its sync and its close: the `Persist`, and the bytes on disk. -/
structure OpenRecording (registry : MetricRegistry) where
  persist : Persist registry
  file : ByteFile

namespace OpenRecording

/-- `persist_sync` of a tier, whatever its file held before. -/
def sync (store : Store CFloat D registry) (i : Fin STORE_TIERS) (file : ByteFile) :
    OpenRecording registry :=
  let (persist, ops) := persistSync (persistOpen (store.tiers i)) store i
  ⟨persist, file.applyAll ops⟩

/-- One `persist_append`. -/
def append (f : OpenRecording registry) (row : Row CFloat registry.count) (result : WriteResult) :
    OpenRecording registry :=
  let (persist, ops) := persistAppend f.persist row result
  ⟨persist, f.file.applyAll ops⟩

/-- A run of appends, each with the outcome of its record write. -/
def appends (f : OpenRecording registry) (calls : List (Row CFloat registry.count × WriteResult)) :
    OpenRecording registry :=
  calls.foldl (fun f call => f.append call.1 call.2) f

/-- What a `persist_close` and a later `persist_load` make of the file. -/
def restoredRows (f : OpenRecording registry) (reader : Persist current) :
    List (Row CFloat current.count) :=
  savedRows reader (f.file.applyAll (persistClose f.persist))

/-- The states of a history file between its sync and its close. -/
inductive Reachable (D : Type) [SampleArith CFloat D] (registry : MetricRegistry)
    (baseIntervalS memory : ℕ) : OpenRecording registry → Prop where
  | sync {store : Store CFloat D registry} (hstore : StoreReachable registry baseIntervalS memory store)
      (i : Fin STORE_TIERS) (file : ByteFile) :
      Reachable D registry baseIntervalS memory (sync store i file)
  | append {f : OpenRecording registry} (row : Row CFloat registry.count) (result : WriteResult) :
      Reachable D registry baseIntervalS memory f →
      Reachable D registry baseIntervalS memory (f.append row result)

/-- The circular buffer an open file is. -/
structure Holds (f : OpenRecording registry) (ring : RingBuffer (Row CFloat registry.count)) : Prop where
  onDisk : ∃ indexed, OnDisk registry f.persist.intervalS f.file ring indexed
  persist_eq : ∃ appendsSinceHeader,
    f.persist = ringPersist registry f.persist.intervalS ring appendsSinceHeader
  fits : LayoutFits registry f.persist.intervalS ring.capacity

end OpenRecording

/-- What an append does to the buffer: push the row, or spoil the slot at the head. -/
def ringAppend (ring : RingBuffer (Row CFloat n)) (call : Row CFloat n × WriteResult) :
    RingBuffer (Row CFloat n) :=
  match call.2 with
  | .complete => ring.push call.1
  | .failed written => ring.spoil (tornRow (ring.slots ring.head) call.1 written)

/-- The live rows a load does not skip. -/
def datedRows (ring : RingBuffer (Row CFloat n)) : List (Row CFloat n) :=
  ring.toList.filter fun row => 0 < row.timestamp

/-- A record write that fails spoils its slot. -/
theorem slotRow_write_take (file : ByteFile) (slot : ℕ) (row : Row CFloat n) (k : ℕ) :
    slotRow (file.write (slotOffset n slot) ((encodeRow row).take k)) n =
      Function.update (slotRow file n) slot (tornRow (slotRow file n slot) row k) := by
  have hle : ((encodeRow row).take k).length ≤ recordBytes n := by
    rw [List.length_take, length_encodeRow]
    exact Nat.min_le_right _ _
  funext slot'
  by_cases h : slot' = slot
  · subst h
    have hold : encodeRow (slotRow file n slot') = file.slice (slotOffset n slot') (recordBytes n) :=
      encodeRow_decodeRow (ByteFile.length_slice _ _ _)
    rw [Function.update_self, slotRow, ByteFile.slice_write_of_le _ _ hle, tornRow, hold,
      List.length_take, length_encodeRow]
    -- a prefix longer than the record is the record
    rcases Nat.le_total k (recordBytes n) with hk | hk
    · rw [Nat.min_eq_left hk]
    · rw [Nat.min_eq_right hk, List.drop_eq_nil_of_le (by simp),
        List.drop_eq_nil_of_le (by simpa using hk)]
  · rw [Function.update_of_ne h, slotRow, slotRow, ByteFile.slice_write_of_disjoint]
    rcases Nat.lt_or_gt_of_ne h with hlt | hgt
    · exact Or.inl (slotOffset_add_le hlt)
    · exact Or.inr ((Nat.add_le_add_left hle _).trans (slotOffset_add_le hgt))

/-- A record write that fails leaves a laid-out file. -/
theorem OnDisk.failedRecord {intervalS : ℕ} {file : ByteFile}
    {written indexed : RingBuffer (Row CFloat registry.count)}
    (h : OnDisk registry intervalS file written indexed) (row : Row CFloat registry.count)
    (k : ℕ) :
    OnDisk registry intervalS
      (file.write (slotOffset registry.count written.head) ((encodeRow row).take k))
      (written.spoil (tornRow (written.slots written.head) row k)) indexed where
  size_eq := by
    have hle : ((encodeRow row).take k).length ≤ recordBytes registry.count := by
      rw [List.length_take, length_encodeRow]
      exact Nat.min_le_right _ _
    have hslot := slotOffset_add_le (n := registry.count) written.head_lt
    rw [ByteFile.size_write_of_le, h.size_eq]
    · rfl
    · rw [h.size_eq]
      omega
  header := by
    rw [readHeader_write_of_le _ (header_le_slotOffset _ _), h.header]
    · rfl
    · rw [h.size_eq]
      exact header_le_slotOffset _ _
  table := by
    rw [ByteFile.slice_write_of_disjoint, h.table]
    exact Or.inl (recordsOffset_le_slotOffset _ _)
  slots := by
    rw [slotRow_write_take, h.slots]
    rfl
  capacity_eq := h.capacity_eq

namespace OpenRecording

variable {f : OpenRecording registry} {ring : RingBuffer (Row CFloat registry.count)}

/-- An append moves the buffer on, or spoils its next slot. -/
theorem Holds.append (h : f.Holds ring) (row : Row CFloat registry.count) (result : WriteResult) :
    (f.append row result).Holds (ringAppend ring (row, result)) := by
  obtain ⟨⟨indexed, hdisk⟩, ⟨a, hpersist⟩, hfits⟩ := h
  obtain ⟨persist, file⟩ := f
  dsimp only at hpersist hdisk hfits
  generalize persist.intervalS = intervalS at hpersist hdisk hfits
  subst hpersist
  cases result with
  | failed k => exact ⟨⟨indexed, hdisk.failedRecord row k⟩, ⟨a, rfl⟩, hfits⟩
  | complete =>
    have hrecord := hdisk.record row
    rw [OpenRecording.append]
    dsimp only
    rw [persistAppend_ringPersist]
    split
    · exact ⟨⟨_, hrecord.flush hfits⟩, ⟨_, rfl⟩, hfits⟩
    · exact ⟨⟨_, hrecord⟩, ⟨_, rfl⟩, hfits⟩

theorem Holds.appends (h : f.Holds ring) (calls : List (Row CFloat registry.count × WriteResult)) :
    (f.appends calls).Holds (calls.foldl ringAppend ring) := by
  induction calls generalizing f ring with
  | nil => exact h
  | cons call calls ih => exact ih (h.append call.1 call.2)

/-- What is restored are the dated rows of the buffer, carried over by id. -/
theorem Holds.restoredRows_eq (h : f.Holds ring) (hcount : registry.count ≠ 0)
    (reader : Persist current) (hreader : reader.intervalS = f.persist.intervalS) :
    f.restoredRows reader = (datedRows ring).map (remapRow registry current) := by
  obtain ⟨⟨indexed, hdisk⟩, ⟨a, hpersist⟩, hfits⟩ := h
  have hclose : persistClose f.persist = [.write 0 (encodeHeader
      (fileHeader registry f.persist.intervalS ring.capacity ring.head ring.count))] := by
    rw [hpersist]
    rfl
  have hclosed := hdisk.flush hfits
  rw [← hreader] at hclosed hclose hfits
  rw [restoredRows, hclose]
  change savedRows reader (f.file.write 0 _) = _
  rw [AxisMetrics.savedRows_eq hclosed.header hclosed.table hclosed.size_eq.ge hcount
    hfits.nMetrics hfits.capacity_lt ring.head_lt ring.count_le, hclosed.slots]
  rfl

/-- A reader of another interval restores nothing. -/
theorem Holds.restoredRows_of_ne (h : f.Holds ring) (reader : Persist current)
    (hreader : reader.intervalS ≠ f.persist.intervalS) : f.restoredRows reader = [] := by
  obtain ⟨⟨indexed, hdisk⟩, ⟨a, hpersist⟩, hfits⟩ := h
  have hclose : persistClose f.persist = [.write 0 (encodeHeader
      (fileHeader registry f.persist.intervalS ring.capacity ring.head ring.count))] := by
    rw [hpersist]
    rfl
  have hreject : headerAccepted reader (fileHeader registry f.persist.intervalS ring.capacity
      ring.head ring.count) = false := by
    simp [headerAccepted, fileHeader, hreader.symm]
  rw [restoredRows, hclose]
  change savedRows reader (f.file.write 0 _) = _
  rw [savedRows, (hdisk.flush hfits).header]
  simp only [hreject, Bool.false_eq_true, if_false]

/-- Every open file is a circular buffer. -/
theorem Reachable.holds [SampleArith CFloat D] {baseIntervalS memory : ℕ}
    (h : Reachable D registry baseIntervalS memory f) (hbase : baseIntervalS < 2 ^ 32)
    (hcount : registry.count ≤ 100000) : ∃ ring, f.Holds ring := by
  induction h with
  | @sync store hstore i file =>
    have hbounds := hstore.capacity_bounds i
    have hcap := (store.tiers i).ring.capacity_pos
    have hfits : LayoutFits registry (store.tiers i).intervalS (store.tiers i).ring.capacity :=
      ⟨hcount, hstore.intervalS_lt hbase i, by omega⟩
    obtain ⟨slots, hlaid⟩ := onDisk_initialiseFile (persistOpen (store.tiers i)) file hcap hfits
    set ring := RingBuffer.empty (persistOpen (store.tiers i)).capacity slots hcap
    have hring : LayoutFits registry (persistOpen (store.tiers i)).intervalS ring.capacity := hfits
    obtain ⟨indexed, hall⟩ := hlaid.appends (tierRows (store.tiers i)) hring
    have hpersist := (persistAppends_ringPersist (persistOpen (store.tiers i)).intervalS ring 0
      (by decide) (tierRows (store.tiers i))).1
    have hsync : (OpenRecording.sync store i file).persist =
        ringPersist registry (persistOpen (store.tiers i)).intervalS
          (ring.pushAll (tierRows (store.tiers i)))
          ((0 + (tierRows (store.tiers i)).length) % HEADER_FLUSH_EVERY) := by
      rw [OpenRecording.sync, persistSync_eq]
      exact hpersist
    refine ⟨ring.pushAll (tierRows (store.tiers i)), ⟨indexed, ?_⟩, ⟨_, by rw [hsync]; rfl⟩, ?_⟩
    · rw [hsync, OpenRecording.sync, persistSync_eq]
      dsimp only
      rw [ByteFile.applyAll_append]
      exact hall
    · rw [hsync]
      exact RingBuffer.pushAll_capacity ring _ ▸ hring
  | append row result _ ih =>
    obtain ⟨ring, hring⟩ := ih
    exact ⟨_, hring.append row result⟩

end OpenRecording

-- ═══════════════════════════════════════════════════════════════════════
-- What a load can tell
-- ═══════════════════════════════════════════════════════════════════════

theorem filter_cons_eq_filter_cons_iff {α : Type*} {p : α → Bool} {x y : α} {rest : List α} :
    (x :: rest).filter p = (y :: rest).filter p ↔ x = y ∨ (p x = false ∧ p y = false) := by
  constructor
  · intro h
    cases hx : p x <;> cases hy : p y
    · exact Or.inr ⟨rfl, rfl⟩
    · have hlen := congrArg List.length h
      rw [List.filter_cons_of_neg (by simp [hx]), List.filter_cons_of_pos hy] at hlen
      simp at hlen
    · have hlen := congrArg List.length h
      rw [List.filter_cons_of_pos hx, List.filter_cons_of_neg (by simp [hy])] at hlen
      simp at hlen
    · rw [List.filter_cons_of_pos hx, List.filter_cons_of_pos hy] at h
      exact Or.inl (List.cons.inj h).1
  · rintro (rfl | ⟨hx, hy⟩)
    · rfl
    · rw [List.filter_cons_of_neg (by simp [hx]), List.filter_cons_of_neg (by simp [hy])]

/-- A spoiled slot that is not live, or is the same to loads, stays so whatever is appended. -/
theorem datedRows_appends_spoil (calls : List (Row CFloat n × WriteResult))
    (ring : RingBuffer (Row CFloat n)) (torn : Row CFloat n)
    (h : ring.count < ring.capacity ∨ SameToLoads (ring.slots ring.head) torn) :
    datedRows (calls.foldl ringAppend (ring.spoil torn)) =
      datedRows (calls.foldl ringAppend ring) := by
  induction calls generalizing ring torn with
  | nil =>
    rcases Nat.lt_or_ge ring.count ring.capacity with hroom | hfull
    · exact congrArg (List.filter _) (RingBuffer.toList_spoil_of_room hroom torn)
    · have hcount := Nat.le_antisymm ring.count_le hfull
      have hsame := h.resolve_left (Nat.not_lt.mpr hfull)
      simp only [List.foldl_nil, datedRows]
      rw [RingBuffer.toList_spoil_of_full hcount, RingBuffer.toList_of_full hcount,
        List.tail_cons, filter_cons_eq_filter_cons_iff]
      refine hsame.imp id fun hneg => ⟨?_, ?_⟩
      · simpa using Int64.le_of_lt hneg.1
      · simpa using Int64.le_of_lt hneg.2.1
  | cons call calls ih =>
    obtain ⟨row, result⟩ := call
    cases result with
    | complete =>
      -- the next complete write leaves nothing of the torn record
      simp only [List.foldl_cons, ringAppend, RingBuffer.spoil_push]
    | failed k =>
      have hnext := ih (ring.spoil (tornRow (ring.slots ring.head) row k)) (tornRow torn row k)
        (h.imp id fun hsame => by simpa using hsame.tornRow row k)
      rw [RingBuffer.spoil_spoil] at hnext
      simpa only [List.foldl_cons, ringAppend, RingBuffer.spoil_spoil, RingBuffer.spoil_head,
        RingBuffer.spoil_slots_head] using hnext

theorem tornRow_stamp (x : Row CFloat n) (row : Row CFloat n) :
    tornRow x row 8 = ⟨row.timestamp, x.values⟩ := by
  rw [tornRow_of_le le_rfl, List.take_of_length_le (length_stampBytes _).le,
    List.drop_eq_nil_of_le (length_stampBytes _).le, List.append_nil, stampOf_stampBytes]

theorem stampOf_first_byte : stampOf ((stampBytes 1).take 1 ++ (stampBytes 0).drop 1) = 1 := by
  decide

/-- The first byte of the timestamp one brings a timestamp of zero out. -/
theorem timestamp_tornRow_one {x row : Row CFloat n} (hx : x.timestamp = 0)
    (hrow : row.timestamp = 1) : (tornRow x row 1).timestamp = 1 := by
  rw [tornRow_of_le (by decide), hx, hrow]
  exact stampOf_first_byte

/-- Of two records that differ in the timestamp only, the next write that fails brings out the
one whose timestamp is zero, unless it is zero in both. -/
theorem timestamp_eq_zero_of_zero {x y row : Row CFloat n} (hrow : row.timestamp = 1)
    (h : tornRow x row 1 = tornRow y row 1 ∨
      ((tornRow x row 1).timestamp ≤ 0 ∧ (tornRow y row 1).timestamp ≤ 0))
    (hx : x.timestamp = 0) (hy : y.timestamp ≤ 0) : y.timestamp = 0 := by
  have hone := timestamp_tornRow_one hx hrow
  obtain heq | ⟨hle, -⟩ := h
  · have hsign : ¬ (tornRow y row 1).timestamp < 0 := by
      rw [← heq, hone]
      decide
    rw [tornRow_neg_iff (by decide)] at hsign
    exact Int64.le_antisymm hy (Int64.not_lt.mp hsign)
  · rw [hone] at hle
    exact absurd hle (by decide)

theorem row_eq {x y : Row CFloat n} (htime : x.timestamp = y.timestamp)
    (hvalues : x.values = y.values) : x = y := by
  cases x
  cases y
  exact congrArg₂ Row.mk htime hvalues

/-- In a full buffer, a torn record that is not the same to loads shows, at the latest after
another write that fails. -/
theorem sameToLoads_of_datedRows {ring : RingBuffer (Row CFloat n)} {torn : Row CFloat n}
    (hfull : ring.count = ring.capacity)
    (h : ∀ calls : List (Row CFloat n × WriteResult),
      datedRows (calls.foldl ringAppend (ring.spoil torn)) =
        datedRows (calls.foldl ringAppend ring)) :
    SameToLoads (ring.slots ring.head) torn := by
  have hlist (x : Row CFloat n) : (ring.spoil x).toList = x :: ring.toList.tail :=
    RingBuffer.toList_spoil_of_full hfull x
  have hnow : torn = ring.slots ring.head ∨
      (torn.timestamp ≤ 0 ∧ (ring.slots ring.head).timestamp ≤ 0) := by
    have hrows := h []
    rw [List.foldl_nil, List.foldl_nil, datedRows, datedRows, hlist,
      RingBuffer.toList_of_full hfull, List.tail_cons, filter_cons_eq_filter_cons_iff] at hrows
    simpa using hrows
  have hnext (row : Row CFloat n) (k : ℕ) :
      tornRow torn row k = tornRow (ring.slots ring.head) row k ∨
        ((tornRow torn row k).timestamp ≤ 0 ∧
          (tornRow (ring.slots ring.head) row k).timestamp ≤ 0) := by
    have hrows := h [(row, .failed k)]
    simp only [List.foldl_cons, List.foldl_nil, ringAppend, RingBuffer.spoil_spoil,
      RingBuffer.spoil_head, RingBuffer.spoil_slots_head, datedRows, hlist,
      filter_cons_eq_filter_cons_iff] at hrows
    simpa using hrows
  generalize ring.slots ring.head = old at hnow hnext
  obtain heq | ⟨htorn, hold⟩ := hnow
  · exact Or.inl heq
  set row : Row CFloat n := ⟨1, old.values⟩
  -- a write of a timestamp alone brings both records out, so their values are the same
  have hvalues : torn.values = old.values := by
    obtain heq | ⟨hle, -⟩ := hnext row 8
    · rw [tornRow_stamp, tornRow_stamp] at heq
      have hv := congrArg Row.values heq
      exact hv
    · rw [tornRow_stamp] at hle
      exact absurd (show (1 : Int64) ≤ 0 from hle) (by decide)
  have hzero : torn.timestamp = 0 ↔ old.timestamp = 0 :=
    ⟨fun h => timestamp_eq_zero_of_zero rfl (hnext row 1) h hold,
      fun h => timestamp_eq_zero_of_zero rfl ((hnext row 1).imp Eq.symm And.symm) h htorn⟩
  by_cases hz : torn.timestamp = 0
  · have htime : torn.timestamp = old.timestamp := hz.trans (hzero.mp hz).symm
    exact Or.inl (row_eq htime hvalues)
  · exact Or.inr ⟨Int64.lt_of_le_of_ne htorn hz, Int64.lt_of_le_of_ne hold (hz ∘ hzero.mpr), hvalues⟩

-- ═══════════════════════════════════════════════════════════════════════
-- The recording
-- ═══════════════════════════════════════════════════════════════════════

namespace OpenRecording

variable {f : OpenRecording registry} {ring : RingBuffer (Row CFloat registry.count)}

/-- An append of `row` whose record write fails after `written` bytes leaves the recording as it
was: the index, and what is restored after any further appends and a close. -/
structure LeavesRecording (f : OpenRecording registry) (row : Row CFloat registry.count)
    (written : ℕ) : Prop where
  head_eq : (f.append row (.failed written)).persist.head = f.persist.head
  count_eq : (f.append row (.failed written)).persist.count = f.persist.count
  restoredRows_eq : ∀ (calls : List (Row CFloat registry.count × WriteResult))
    (current : MetricRegistry) (reader : Persist current),
    ((f.append row (.failed written)).appends calls).restoredRows reader =
      (f.appends calls).restoredRows reader

theorem intervalS_appends (f : OpenRecording registry)
    (calls : List (Row CFloat registry.count × WriteResult)) :
    (f.appends calls).persist.intervalS = f.persist.intervalS := by
  induction calls generalizing f with
  | nil => rfl
  | cons call calls ih =>
    obtain ⟨row, result⟩ := call
    refine (ih (f.append row result)).trans ?_
    cases result with
    | failed k => rfl
    | complete =>
      rw [OpenRecording.append, persistAppend]
      dsimp only
      split <;> rfl

/-- The same, of the circular buffer the file is. -/
theorem Holds.leavesRecording_slots_iff (h : f.Holds ring) (hdistinct : registry.Distinct)
    (hcount : registry.count ≠ 0) (row : Row CFloat registry.count) (written : ℕ) :
    f.LeavesRecording row written ↔ ring.count < ring.capacity ∨
      SameToLoads (ring.slots ring.head) (tornRow (ring.slots ring.head) row written) := by
  have hfailed := h.append row (.failed written)
  have hinterval (calls : List (Row CFloat registry.count × WriteResult)) :
      ((f.append row (.failed written)).appends calls).persist.intervalS = f.persist.intervalS :=
    intervalS_appends _ calls
  have hself : remapRow registry registry = id := funext (remapRow_self hdistinct)
  constructor
  · intro hleaves
    rcases Nat.lt_or_ge ring.count ring.capacity with hroom | hfull
    · exact Or.inl hroom
    · refine Or.inr (sameToLoads_of_datedRows (Nat.le_antisymm ring.count_le hfull) fun calls => ?_)
      have hrows := hleaves.restoredRows_eq calls registry f.persist
      rw [(hfailed.appends calls).restoredRows_eq hcount _ (hinterval calls).symm,
        (h.appends calls).restoredRows_eq hcount _ (intervalS_appends f calls).symm, hself,
        List.map_id, List.map_id] at hrows
      exact hrows
  · intro hsame
    refine ⟨rfl, rfl, fun calls current reader => ?_⟩
    by_cases hreader : reader.intervalS = f.persist.intervalS
    · rw [(hfailed.appends calls).restoredRows_eq hcount _ (hreader.trans (hinterval calls).symm),
        (h.appends calls).restoredRows_eq hcount _ (hreader.trans (intervalS_appends f calls).symm)]
      exact congrArg _ (datedRows_appends_spoil calls ring _ hsame)
    · rw [(hfailed.appends calls).restoredRows_of_ne _ (by rwa [hinterval]),
        (h.appends calls).restoredRows_of_ne _ (by rwa [intervalS_appends])]

/-- A failed append leaves the recording as it was exactly when the slot at the head is not live,
or no load can tell its record from what the write left there. -/
theorem leavesRecording_iff [SampleArith CFloat D] {baseIntervalS memory : ℕ}
    (hf : Reachable D registry baseIntervalS memory f) (hbase : baseIntervalS < 2 ^ 32)
    (hdistinct : registry.Distinct) (hcount : 1 ≤ registry.count)
    (hcount' : registry.count ≤ 100000) (row : Row CFloat registry.count) (written : ℕ) :
    f.LeavesRecording row written ↔ f.persist.count < f.persist.capacity ∨
      SameToLoads (slotRow f.file registry.count f.persist.head)
        (tornRow (slotRow f.file registry.count f.persist.head) row written) := by
  obtain ⟨ring, hring⟩ := hf.holds hbase hcount'
  rw [hring.leavesRecording_slots_iff hdistinct (by omega)]
  obtain ⟨⟨indexed, hdisk⟩, ⟨a, hpersist⟩, -⟩ := hring
  rw [hpersist, hdisk.slots]
  rfl

end OpenRecording

theorem foldl_ringAppend_complete (rows : List (Row CFloat n)) (ring : RingBuffer (Row CFloat n)) :
    (rows.map fun row => (row, WriteResult.complete)).foldl ringAppend ring =
      ring.pushAll rows := by
  rw [List.foldl_map]
  rfl

/-- The file of a ten-second tier, just synced. -/
def syncedFile : OpenRecording (.registerAll [ascii "cpu.usage"]) :=
  OpenRecording.sync tenSecondStore 0 ByteFile.empty

theorem syncedFile_persist : syncedFile.persist = ⟨300, 10, 0, 0, 0, true⟩ := by
  rw [syncedFile, OpenRecording.sync, persistSync_eq]
  dsimp only
  rw [tierRows_storeNew]
  rfl

theorem reachable_syncedFile : syncedFile.Reachable Float _ 10 0 := .sync .new 0 _

/-- A row whose write fails after its timestamp. -/
def lateRow : Row CFloat (MetricRegistry.registerAll [ascii "cpu.usage"]).count :=
  ⟨400, fun _ => ⟨0⟩⟩

/-- With room left, the timestamp stays in a slot that is not live. -/
theorem leavesRecording_syncedFile : syncedFile.LeavesRecording lateRow 8 :=
  (OpenRecording.leavesRecording_iff reachable_syncedFile (by decide) (by decide) (by decide)
    (by decide) lateRow 8).2 (Or.inl (by rw [syncedFile_persist]; decide))

/-- After 300 ticks, the oldest row comes back with the time of the row that was not written. -/
theorem not_leavesRecording_fullFile : ¬ (syncedFile.appends
    ((tickRows 300).map fun row => (row, .complete))).LeavesRecording lateRow 8 := by
  obtain ⟨ring, hring⟩ := reachable_syncedFile.holds (by decide) (by decide)
  obtain ⟨a, hpersist⟩ := hring.persist_eq
  rw [syncedFile_persist] at hpersist
  have hcap : 300 = ring.capacity := congrArg Persist.capacity hpersist
  have hcount : 0 = ring.count := congrArg Persist.count hpersist
  have hfull := hring.appends ((tickRows 300).map fun row => (row, .complete))
  rw [foldl_ringAppend_complete] at hfull
  rw [hfull.leavesRecording_slots_iff (by decide) (by decide)]
  have hcount' : (ring.pushAll (tickRows 300)).count = (ring.pushAll (tickRows 300)).capacity := by
    rw [RingBuffer.pushAll_count, RingBuffer.pushAll_capacity, length_tickRows]
    omega
  have hempty : ring.toList = [] := by
    rw [← List.length_eq_zero_iff, RingBuffer.length_toList, hcount]
  have hrows : (ring.pushAll (tickRows 300)).toList = tickRows 300 := by
    rw [RingBuffer.toList_pushAll, hempty, List.nil_append, ← hcap, Lib.rtake_of_length_le]
    exact (length_tickRows 300).le
  have hold : (ring.pushAll (tickRows 300)).slots (ring.pushAll (tickRows 300)).head =
      ⟨1, fun _ => ⟨0⟩⟩ := by
    have hhead := congrArg List.head? (RingBuffer.toList_of_full hcount')
    rw [hrows, List.head?_cons] at hhead
    exact (Option.some.inj hhead).symm
  rw [hold, tornRow_stamp]
  rintro (hroom | heq | ⟨hneg, -⟩)
  · exact absurd hroom (by rw [hcount']; exact lt_irrefl _)
  · exact absurd (congrArg Row.timestamp heq) (by decide)
  · exact absurd hneg (by decide)

end AxisMetrics
