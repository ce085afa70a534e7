import AxisMetrics.Persist.Defs

/-!
# The layout of a history file

What is written is what is read back: the header, the id table and each record slot have
their own byte ranges. A record write is an update of one slot, so the slots of a file
are the slots of a circular buffer.
-/

namespace AxisMetrics

open Lib (Bytes ByteFile RingBuffer leBytes ofLeBytes zeroPad cString strlcpy ringWindow)

variable {n : ℕ} {registry : MetricRegistry}

/-- The values a `PersistHeader` can hold. -/
structure PersistHeader.Fits (h : PersistHeader) : Prop where
  magic : h.magic.length = 8
  version : h.version < 256 ^ 4
  nMetrics : h.nMetrics < 256 ^ 4
  capacity : h.capacity < 256 ^ 4
  intervalS : h.intervalS < 256 ^ 4
  head : h.head < 256 ^ 4
  count : h.count < 256 ^ 4
  reserved : h.reserved < 256 ^ 4

theorem length_encodeHeader {h : PersistHeader} (hm : h.magic.length = 8) :
    (encodeHeader h).length = PERSIST_HEADER_SIZE := by
  simp [encodeHeader, hm, PERSIST_HEADER_SIZE]

theorem decodeHeader_encodeHeader {h : PersistHeader} (hf : h.Fits) :
    decodeHeader (encodeHeader h) = h := by
  -- skip the fields before the one that is read, one width at a time
  have hskip : ∀ (k : ℕ) (a b : Bytes), a.length ≤ k → (a ++ b).drop k = b.drop (k - a.length) :=
    fun k a b hk => by rw [List.drop_append, List.drop_eq_nil_of_le hk, List.nil_append]
  have htake : ∀ (v : ℕ) (b : Bytes), v < 256 ^ 4 →
      ofLeBytes ((leBytes 4 v ++ b).take 4) = v := fun v b hv => by
    rw [List.take_append_of_le_length (by simp), List.take_of_length_le (by simp),
      Lib.ofLeBytes_leBytes hv]
  have hlast : ∀ v : ℕ, v < 256 ^ 4 → ofLeBytes ((leBytes 4 v).take 4) = v := fun v hv => by
    simpa using htake v [] hv
  unfold decodeHeader encodeHeader
  have hm := hf.magic
  rcases h with ⟨magic, version, nMetrics, capacity, intervalS, head, count, reserved⟩
  simp only [hskip, hm, Lib.length_leBytes, Nat.reduceLeDiff, Nat.reduceSub, List.drop_zero,
    htake _ _ hf.version, htake _ _ hf.nMetrics, htake _ _ hf.capacity, htake _ _ hf.intervalS,
    htake _ _ hf.head, htake _ _ hf.count, hlast _ hf.reserved, PersistHeader.mk.injEq, and_true]
  rw [List.take_append_of_le_length hm.ge, List.take_of_length_le hm.le]

theorem length_idEntry (d : MetricDef) :
    (zeroPad METRIC_ID_MAX (strlcpy METRIC_ID_MAX d.id)).length = METRIC_ID_MAX :=
  Lib.length_zeroPad (Lib.length_strlcpy_lt (by decide) _).le

theorem length_idTable (registry : MetricRegistry) :
    (idTable registry).length = idTableBytes registry.count :=
  Lib.length_flatMap_of_width length_idEntry _

/-- The table holds each id where its position says. -/
theorem cString_drop_idTable (registry : MetricRegistry) (m : Fin registry.count) :
    cString ((idTable registry).drop (m * METRIC_ID_MAX)) = registry.id m := by
  have hentry := Lib.take_drop_flatMap length_idEntry registry.defs m m.isLt
  have hself := Lib.strlcpy_eq_self (registry.zero_notMem_id m) (registry.id_lt m)
  rw [← List.take_append_drop METRIC_ID_MAX ((idTable registry).drop (m * METRIC_ID_MAX)), idTable,
    hentry, Lib.cString_zeroPad_append]
  · exact hself
  · exact Lib.zero_notMem_strlcpy _ _
  · exact Lib.length_strlcpy_lt (by decide) _

theorem length_encodeRow (row : Row CFloat n) : (encodeRow row).length = recordBytes n := by
  rw [encodeRow, List.length_append, Lib.length_leBytes,
    Lib.length_flatMap_of_width (w := 4) (fun m => (row.values m).length_toBytes),
    List.length_finRange, recordBytes]

@[simp] theorem decodeRow_encodeRow (row : Row CFloat n) : decodeRow n (encodeRow row) = row := by
  have htime : (encodeRow row).take 8 = leBytes 8 row.timestamp.toUInt64.toNat := by
    rw [encodeRow, List.take_append_of_le_length (by simp), List.take_of_length_le (by simp)]
  have hvalue (m : Fin n) : ((encodeRow row).drop (8 + m * 4)).take 4 = (row.values m).toBytes := by
    have hentry := Lib.take_drop_flatMap (w := 4) (fun m => (row.values m).length_toBytes)
      (List.finRange n) m (by simp)
    rw [encodeRow, ← List.drop_drop, List.drop_left' (Lib.length_leBytes _ _), hentry]
    simp
  have hlt : row.timestamp.toUInt64.toNat < 256 ^ 8 := row.timestamp.toUInt64.toNat_lt
  rcases row with ⟨timestamp, values⟩
  simp only [decodeRow, htime, hvalue, Lib.ofLeBytes_leBytes hlt, UInt64.ofNat_toNat,
    CFloat.ofBytes_toBytes, Int64.toInt64_toUInt64]

/-- Every record of the right length is that of a row. -/
theorem encodeRow_decodeRow {raw : Bytes} (h : raw.length = recordBytes n) :
    encodeRow (decodeRow n raw) = raw := by
  unfold recordBytes at h
  have htime : (raw.take 8).length = 8 := by
    rw [List.length_take]
    omega
  have hlt : ofLeBytes (raw.take 8) < 2 ^ 64 := by
    have hlt := Lib.ofLeBytes_lt (raw.take 8)
    rwa [htime] at hlt
  have hstamp : leBytes 8 (decodeRow n raw).timestamp.toUInt64.toNat = raw.take 8 := by
    have hself := Lib.leBytes_ofLeBytes (raw.take 8)
    rw [htime] at hself
    rw [decodeRow, UInt64.toUInt64_toInt64, UInt64.toNat_ofNat_of_lt' hlt, hself]
  have hvalue (m : Fin n) : ((decodeRow n raw).values m).toBytes =
      ((raw.drop 8).drop (m * 4)).take 4 := by
    have hlen : (((raw.drop 8).drop (m * 4)).take 4).length = 4 := by
      simp only [List.length_take, List.length_drop]
      omega
    rw [List.drop_drop] at hlen ⊢
    exact CFloat.toBytes_ofBytes hlen
  have hvalues : (raw.drop 8).length = n * 4 := by
    rw [List.length_drop]
    omega
  rw [encodeRow, hstamp]
  simp only [hvalue]
  rw [Lib.flatMap_take_drop 4 n hvalues, List.take_append_drop]

/-- The record in a slot of a file. -/
def slotRow (file : ByteFile) (n slot : ℕ) : Row CFloat n :=
  decodeRow n (file.slice (slotOffset n slot) (recordBytes n))

theorem slotOffset_succ (n slot : ℕ) :
    slotOffset n (slot + 1) = slotOffset n slot + recordBytes n := by
  unfold slotOffset
  ring

theorem slotOffset_mono (n : ℕ) : Monotone (slotOffset n) :=
  monotone_nat_of_le_succ fun slot => by
    rw [slotOffset_succ]
    exact Nat.le_add_right _ _

theorem recordsOffset_le_slotOffset (n slot : ℕ) : recordsOffset n ≤ slotOffset n slot :=
  Nat.le_add_right _ _

/-- Slots do not overlap. -/
theorem slotOffset_add_le {slot slot' : ℕ} (h : slot < slot') :
    slotOffset n slot + recordBytes n ≤ slotOffset n slot' :=
  slotOffset_succ n slot ▸ slotOffset_mono n h

/-- Writing a record updates its slot. -/
theorem slotRow_write_slot (file : ByteFile) (slot : ℕ) (row : Row CFloat n) :
    slotRow (file.write (slotOffset n slot) (encodeRow row)) n =
      Function.update (slotRow file n) slot row := by
  funext slot'
  by_cases h : slot' = slot
  · subst h
    rw [Function.update_self, slotRow, ← length_encodeRow row, ByteFile.slice_write_same,
      decodeRow_encodeRow]
  · rw [Function.update_of_ne h, slotRow, slotRow, ByteFile.slice_write_of_disjoint]
    rw [length_encodeRow]
    rcases Nat.lt_or_gt_of_ne h with hlt | hgt
    · exact Or.inl (slotOffset_add_le hlt)
    · exact Or.inr (slotOffset_add_le hgt)

/-- A write in front of the records leaves every slot alone. -/
theorem slotRow_write_of_le (file : ByteFile) {offset : ℕ} {buffer : Bytes}
    (h : offset + buffer.length ≤ recordsOffset n) :
    slotRow (file.write offset buffer) n = slotRow file n := by
  funext slot
  rw [slotRow, slotRow, ByteFile.slice_write_of_disjoint]
  exact Or.inr (h.trans (recordsOffset_le_slotOffset n slot))

end AxisMetrics
