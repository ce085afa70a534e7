import AxisMetrics.Persist.Load
import AxisMetrics.Lib.Checked

/-!
# Loading any file

`loadChecked` is `persist_load` once more, with every array access and division checked and
every `pread` free to return fewer bytes than it was asked for. `loadChecked_safe` says that
no file content makes it fault, and `loadChecked_eq_persistLoad` that it is `persistLoad`
when no read fails.
-/

namespace AxisMetrics

open Lib (Bytes ByteFile Checked cString guint guintSub ofLeBytes)

variable {D : Type} {registry : MetricRegistry} {n : ℕ}

-- ═══════════════════════════════════════════════════════════════════════
-- Reading
-- ═══════════════════════════════════════════════════════════════════════

/-- `pread`: what the file has there, at most as much as is asked for, and less than that as
`granted` has it; nothing at the end of the file or when the read fails. -/
def pread (file : ByteFile) (granted : ℕ → ℕ → ℕ) (offset length : ℕ) : Bytes :=
  file.slice offset (min (granted offset length) (min length (file.size - offset)))

theorem length_pread_le (file : ByteFile) (granted : ℕ → ℕ → ℕ) (offset length : ℕ) :
    (pread file granted offset length).length ≤ length := by
  rw [pread, ByteFile.length_slice]
  omega

/-- The loop of `read_at`, with what it has read so far. -/
def readOn (file : ByteFile) (granted : ℕ → ℕ → ℕ) (offset length : ℕ) (buffer : Bytes) :
    Option Bytes :=
  if _hmore : buffer.length < length then
    let got := pread file granted (offset + buffer.length) (length - buffer.length)
    if _hnone : got.length = 0 then none else readOn file granted offset length (buffer ++ got)
  else some buffer
termination_by length - buffer.length
decreasing_by
  change length - (buffer ++ got).length < _
  rw [List.length_append]
  omega

/-- `read_at`. -/
def readAt (file : ByteFile) (granted : ℕ → ℕ → ℕ) (offset length : ℕ) : Option Bytes :=
  readOn file granted offset length []

theorem length_readOn {file : ByteFile} {granted : ℕ → ℕ → ℕ} {offset length : ℕ}
    {buffer bytes : Bytes} (hle : buffer.length ≤ length)
    (h : readOn file granted offset length buffer = some bytes) : bytes.length = length := by
  fun_induction readOn file granted offset length buffer with
  | case1 => exact absurd h (by simp)
  | case2 buffer hlt got hgot ih =>
    have hmore : got.length ≤ length - buffer.length := length_pread_le _ _ _ _
    have happend : (buffer ++ got).length = buffer.length + got.length := List.length_append
    exact ih (by omega) h
  | case3 buffer hge =>
    rw [← Option.some.inj h]
    omega

/-- A read that succeeds fills the buffer. -/
theorem length_readAt {file : ByteFile} {granted : ℕ → ℕ → ℕ} {offset length : ℕ} {bytes : Bytes}
    (h : readAt file granted offset length = some bytes) : bytes.length = length :=
  length_readOn (Nat.zero_le _) h

/-- A read with granted lengths goes on until it has the range, or the file ends. -/
theorem readOn_eq {file : ByteFile} {granted : ℕ → ℕ → ℕ} {offset length : ℕ} {buffer : Bytes}
    (hgranted : ∀ offset length, 0 < length → 0 < granted offset length)
    (hle : buffer.length ≤ length) (hbuffer : buffer = file.slice offset buffer.length)
    (hsize : buffer.length = 0 ∨ offset + buffer.length ≤ file.size) :
    readOn file granted offset length buffer = file.read offset length := by
  fun_induction readOn file granted offset length buffer with
  | case1 buffer hmore got hnone =>
    -- nothing more to read: the file ends before the range does
    have hgot := hgranted (offset + buffer.length) (length - buffer.length) (by omega)
    simp only [got, pread, ByteFile.length_slice] at hnone
    rw [ByteFile.read, if_neg]
    omega
  | case2 buffer hmore got hnone ih =>
    have hlen : got.length = min (granted (offset + buffer.length) (length - buffer.length))
        (min (length - buffer.length) (file.size - (offset + buffer.length))) :=
      ByteFile.length_slice _ _ _
    have happend : (buffer ++ got).length = buffer.length + got.length := List.length_append
    refine ih (by omega) ?_ (by omega)
    rw [happend, ByteFile.slice_add, ← hbuffer, hlen]
    rfl
  | case3 buffer hfull =>
    have heq : buffer.length = length := by omega
    rw [ByteFile.read, if_pos (by omega), hbuffer, heq]

/-- Where no read fails, `read_at` reads what is there, in however many pieces. -/
theorem readAt_eq_read {file : ByteFile} {granted : ℕ → ℕ → ℕ}
    (hgranted : ∀ offset length, 0 < length → 0 < granted offset length) (offset length : ℕ) :
    readAt file granted offset length = file.read offset length :=
  readOn_eq hgranted (Nat.zero_le _) rfl (Or.inl rfl)

-- ═══════════════════════════════════════════════════════════════════════
-- Finding a saved id
-- ═══════════════════════════════════════════════════════════════════════

/-- Whether `strcmp` of an id and the string at `offset` of a buffer is zero. The bytes are
compared until they differ or both strings end. -/
def strcmpZero : Bytes → Bytes → ℕ → Checked Bool
  | [], buffer, offset => do
    let b ← Checked.get buffer offset
    return b = 0
  | a :: id, buffer, offset => do
    let b ← Checked.get buffer offset
    if a = b then strcmpZero id buffer (offset + 1) else return false

/-- `metrics_find` of the string at `offset` of a buffer, from a position on; `none` for −1. -/
def metricsFindFrom (buffer : Bytes) (offset : ℕ) : List MetricDef → ℕ → Checked (Option ℕ)
  | [], _ => return none
  | d :: defs, i => do
    if ← strcmpZero d.id buffer offset then return some i
    else metricsFindFrom buffer offset defs (i + 1)

/-- The comparison ends before the buffer does, whether or not the string in it is terminated:
an id is shorter than its entry. -/
theorem strcmpZero_eq {id buffer : Bytes} {offset : ℕ} (hid : 0 ∉ id)
    (h : offset + id.length < buffer.length) :
    strcmpZero id buffer offset = .ok (decide (cString (buffer.drop offset) = id)) := by
  induction id generalizing offset with
  | nil =>
    have hlt : offset < buffer.length := h
    rw [strcmpZero, Checked.get_of_getElem? (List.getElem?_eq_getElem hlt), Checked.ok_bind,
      List.drop_eq_getElem_cons hlt, cString, List.takeWhile_cons]
    by_cases hb : buffer[offset] = 0 <;> simp [hb]
  | cons a id ih =>
    rw [List.mem_cons, not_or] at hid
    rw [List.length_cons] at h
    have hlt : offset < buffer.length := by omega
    rw [strcmpZero, Checked.get_of_getElem? (List.getElem?_eq_getElem hlt), Checked.ok_bind,
      List.drop_eq_getElem_cons hlt, cString, List.takeWhile_cons]
    by_cases hab : a = buffer[offset]
    · have hb : buffer[offset] ≠ 0 := hab ▸ Ne.symm hid.1
      have hrest := ih hid.2 (show offset + 1 + id.length < buffer.length by omega)
      rw [cString] at hrest
      simp [hab, hb, hrest]
    · have hne : ¬ buffer[offset] = a := fun h => hab h.symm
      rw [if_neg hab]
      by_cases hb : buffer[offset] = 0 <;> simp [hne, hb]

/-- Positions in a list, as `List.finRange` and `List.findIdx?` count them. -/
theorem find?_finRange_eq_findIdx? {α : Type} (p : α → Bool) (xs : List α) :
    ((List.finRange xs.length).find? fun i => p (xs.get i)).map Fin.val = xs.findIdx? p := by
  induction xs with
  | nil => rfl
  | cons x xs ih =>
    change ((List.finRange (xs.length + 1)).find? fun i => p ((x :: xs).get i)).map Fin.val = _
    rw [List.findIdx?_cons, List.finRange_succ, List.find?_cons, ← ih]
    cases hx : p x
    · simp [hx, List.find?_map, Function.comp_def]
    · simp [hx]

/-- A lookup in a buffer finds what a lookup of the string that starts there finds. -/
theorem metricsFindFrom_eq (buffer : Bytes) (offset : ℕ) (defs : List MetricDef) (i : ℕ)
    (h : offset + METRIC_ID_MAX ≤ buffer.length) :
    metricsFindFrom buffer offset defs i =
      .ok ((defs.findIdx? fun d => d.id = cString (buffer.drop offset)).map (· + i)) := by
  induction defs generalizing i with
  | nil => rfl
  | cons d defs ih =>
    have hlt : offset + d.id.length < buffer.length :=
      (Nat.add_lt_add_left d.id_lt offset).trans_le h
    rw [metricsFindFrom, strcmpZero_eq d.zero_notMem_id hlt, Checked.ok_bind, List.findIdx?_cons]
    by_cases hd : cString (buffer.drop offset) = d.id
    · simp [hd]
    · have hnext : (fun j => j + (i + 1)) = (fun j => j + i) ∘ fun j => j + 1 :=
        funext fun j => by simp only [Function.comp_apply]; omega
      simp [hd, Ne.symm hd, ih, hnext, Option.map_map]

theorem metricsFindFrom_eq_savedMapping {savedIds : Bytes} {m : ℕ}
    (h : (m + 1) * METRIC_ID_MAX ≤ savedIds.length) :
    metricsFindFrom savedIds (m * METRIC_ID_MAX) registry.defs 0 =
      .ok ((savedMapping registry savedIds m).map Fin.val) := by
  rw [Nat.succ_mul] at h
  have hfind := find?_finRange_eq_findIdx?
    (fun d : MetricDef => decide (d.id = cString (savedIds.drop (m * METRIC_ID_MAX)))) registry.defs
  rw [metricsFindFrom_eq savedIds _ registry.defs 0 h, ← hfind, Option.map_map]
  rfl

-- ═══════════════════════════════════════════════════════════════════════
-- Loading
-- ═══════════════════════════════════════════════════════════════════════

/-- The buffers of `persist_load` and what it has done so far: the slots it has read and the
rows it has restored. -/
structure LoadState (D : Type) (registry : MetricRegistry) where
  store : Store CFloat D registry
  restored : ℕ
  values : List CFloat
  slots : List ℕ
  rows : List (Row CFloat registry.count)

/-- The loop that fills `mapping`. -/
def loadMapping (registry : MetricRegistry) (nMetrics : ℕ) (savedIds : Bytes) :
    Checked (List (Option ℕ)) :=
  Checked.forTo nMetrics (fun i mapping => do
    let found ← metricsFindFrom savedIds (i * METRIC_ID_MAX) registry.defs 0
    Checked.set mapping i found) (List.replicate nMetrics none)

/-- `if (mapping[m] >= 0) values[mapping[m]] = saved_values[m]`. -/
def restoreValue (mapping : List (Option ℕ)) (raw : Bytes) (m : ℕ) (values : List CFloat) :
    Checked (List CFloat) := do
  match ← Checked.get mapping m with
  | none => return values
  | some p => do
    let bytes ← Checked.slice raw (8 + m * 4) 4
    Checked.set values p (CFloat.ofBytes bytes)

/-- The row that `store_restore` copies out of the `values` buffer. -/
def copyRow (n : ℕ) (timestamp : Int64) (values : List CFloat) : Checked (Row CFloat n) := do
  let copied ← Checked.slice values 0 n
  return ⟨timestamp, fun m => copied.getD m CFloat.nan⟩

/-- One pass of the loop over the records, once its record was read. -/
def loadRecord (tier : Fin STORE_TIERS) (nMetrics : ℕ) (mapping : List (Option ℕ)) (raw : Bytes)
    (s : LoadState D registry) : Checked (LoadState D registry) := do
  let stamp ← Checked.slice raw 0 8
  let timestamp := (UInt64.ofNat (ofLeBytes stamp)).toInt64
  if timestamp ≤ 0 then return s
  else do
    let values ← Checked.forTo registry.count (fun m values => Checked.set values m CFloat.nan)
      s.values
    let values ← Checked.forTo nMetrics (restoreValue mapping raw) values
    let row ← copyRow registry.count timestamp values
    return { s with
      store := storeRestore s.store tier row
      restored := s.restored + 1
      values := values
      rows := s.rows ++ [row] }

/-- The loop over the records, for the positions still to come. -/
def loadRecords (file : ByteFile) (granted : ℕ → ℕ → ℕ) (tier : Fin STORE_TIERS)
    (header : PersistHeader) (start : ℕ) (mapping : List (Option ℕ)) :
    List ℕ → LoadState D registry → Checked (LoadState D registry)
  | [], s => return s
  | i :: rest, s => do
    let slot ← Checked.mod (guint (start + i)) header.capacity
    let s := { s with slots := s.slots ++ [slot] }
    match readAt file granted (slotOffset header.nMetrics slot) (recordBytes header.nMetrics) with
    | none => return s
    | some raw => do
      let s ← loadRecord tier header.nMetrics mapping raw s
      loadRecords file granted tier header start mapping rest s

/-- `persist_load`, checked. -/
def loadChecked (persist : Persist registry) (file : ByteFile) (granted : ℕ → ℕ → ℕ)
    (store : Store CFloat D registry) (tier : Fin STORE_TIERS) : Checked (LoadState D registry) :=
  let idle : LoadState D registry := ⟨store, 0, [], [], []⟩
  match readAt file granted 0 PERSIST_HEADER_SIZE with
  | none => return idle
  | some raw =>
    let header := decodeHeader raw
    if headerAccepted persist header then
      match readAt file granted HEADER_BYTES (idTableBytes header.nMetrics) with
      | none => return idle
      | some savedIds => do
        let mapping ← loadMapping registry header.nMetrics savedIds
        let count := min header.count header.capacity
        let start ← Checked.mod (guintSub (header.head + header.capacity) count) header.capacity
        loadRecords file granted tier header start mapping (List.range count)
          { idle with values := List.replicate registry.count ⟨0⟩ }
    else return idle

-- ═══════════════════════════════════════════════════════════════════════
-- Buffers as functions
-- ═══════════════════════════════════════════════════════════════════════

/-- A buffer that holds a function is set where the function is updated. -/
theorem set_ofFn {α : Type} (f : Fin n → α) (i : Fin n) (x : α) :
    Checked.set (List.ofFn f) i x = .ok (List.ofFn (Function.update f i x)) := by
  have hlt : (i : ℕ) < (List.ofFn f).length := by simp
  rw [Checked.set_of_lt hlt]
  congr 1
  refine List.ext_getElem (by simp) fun j hj hj' => ?_
  rw [List.getElem_set, List.getElem_ofFn, List.getElem_ofFn, Function.update_apply]
  simp only [Fin.ext_iff, eq_comm]

theorem get_ofFn {α : Type} (f : Fin n → α) (i : Fin n) :
    Checked.get (List.ofFn f) i = .ok (f i) :=
  Checked.get_of_getElem? (by simp)

/-- A loop that sets every element of a buffer. -/
theorem forTo_set {α : Type} (f g : Fin n → α) (body : ℕ → List α → Checked (List α))
    (hbody : ∀ (i : Fin n) (xs : List α), body i xs = Checked.set xs i (g i)) :
    Checked.forTo n body (List.ofFn f) = .ok (List.ofFn g) := by
  obtain ⟨xs, hxs, out, rfl, hout⟩ := Checked.forTo_ok (s := List.ofFn f)
    (fun k xs => ∃ out : Fin n → α, xs = List.ofFn out ∧ ∀ i : Fin n, (i : ℕ) < k → out i = g i)
    ⟨f, rfl, fun i hi => absurd hi (Nat.not_lt_zero _)⟩ (fun k hk xs hxs => by
      obtain ⟨out, rfl, hout⟩ := hxs
      refine ⟨_, (hbody ⟨k, hk⟩ _).trans (set_ofFn out ⟨k, hk⟩ _), _, rfl, fun i hi => ?_⟩
      by_cases hik : i = ⟨k, hk⟩
      · rw [hik, Function.update_self]
      · rw [Function.update_of_ne hik]
        refine hout i (Nat.lt_of_le_of_ne (Nat.le_of_lt_succ hi) fun h => hik (Fin.ext h)))
  rw [hxs, funext fun i => hout i i.isLt]

/-- `mapping` holds where each saved id stands now. -/
theorem loadMapping_eq {nMetrics : ℕ} {savedIds : Bytes}
    (h : savedIds.length = idTableBytes nMetrics) :
    loadMapping registry nMetrics savedIds =
      .ok (List.ofFn fun m : Fin nMetrics => (savedMapping registry savedIds m).map Fin.val) := by
  have hinit : List.replicate nMetrics (none : Option ℕ) = List.ofFn fun _ : Fin nMetrics => none :=
    (List.ofFn_const nMetrics none).symm
  rw [loadMapping, hinit]
  refine forTo_set _ _ _ fun i mapping => ?_
  have hle : ((i : ℕ) + 1) * METRIC_ID_MAX ≤ savedIds.length := by
    rw [h]
    exact Nat.mul_le_mul_right _ i.isLt
  rw [metricsFindFrom_eq_savedMapping hle, Checked.ok_bind]

section Record

variable {k : ℕ} {mapping : Fin k → Option (Fin n)} {raw : Bytes}

/-- One value is put where its metric stands now. -/
theorem restoreValue_eq (hraw : raw.length = recordBytes k) (out : Fin n → CFloat) (m : Fin k) :
    restoreValue (List.ofFn fun m => (mapping m).map Fin.val) raw m (List.ofFn out) =
      .ok (List.ofFn (remapValue mapping (decodeRow k raw).values out m)) := by
  rw [restoreValue, get_ofFn, Checked.ok_bind, remapValue]
  cases hm : mapping m with
  | none => rfl
  | some p =>
    have hle : 8 + (m : ℕ) * 4 + 4 ≤ raw.length := by
      have hlt := m.isLt
      rw [hraw, recordBytes]
      omega
    simp only [Option.map_some]
    rw [Checked.slice_of_le hle, Checked.ok_bind, set_ofFn]
    rfl

/-- The values loop remaps the record. -/
theorem forTo_restoreValue (hraw : raw.length = recordBytes k) :
    Checked.forTo k (restoreValue (List.ofFn fun m => (mapping m).map Fin.val) raw)
      (List.ofFn fun _ : Fin n => CFloat.nan) =
      .ok (List.ofFn (remapValues mapping (decodeRow k raw).values)) := by
  obtain ⟨values, hvalues, hout⟩ := @Checked.forTo_ok _ k
    (restoreValue (List.ofFn fun m => (mapping m).map Fin.val) raw)
    (List.ofFn fun _ : Fin n => CFloat.nan)
    (fun i values => values = List.ofFn (((List.finRange k).take i).foldl
      (remapValue mapping (decodeRow k raw).values) fun _ => CFloat.nan))
    rfl (fun i hi values hvalues => by
      refine ⟨_, ?_, rfl⟩
      have htake : (List.finRange k).take (i + 1) = (List.finRange k).take i ++ [⟨i, hi⟩] := by
        rw [List.take_add_one, List.getElem?_eq_getElem (by simpa using hi)]
        simp
      rw [hvalues, htake, List.foldl_append]
      exact restoreValue_eq hraw _ ⟨i, hi⟩)
  rw [hvalues, hout, List.take_of_length_le (by simp)]
  rfl

theorem copyRow_eq (timestamp : Int64) (values : Fin n → CFloat) :
    copyRow n timestamp (List.ofFn values) = .ok ⟨timestamp, values⟩ := by
  have hle : 0 + n ≤ (List.ofFn values).length := by simp
  rw [copyRow, Checked.slice_of_le hle, Checked.ok_bind]
  congr 2
  funext m
  rw [List.drop_zero, List.take_of_length_le (by simp), List.getD_eq_getElem _ _ (by simp)]
  simp

end Record

-- ═══════════════════════════════════════════════════════════════════════
-- Every pass goes through
-- ═══════════════════════════════════════════════════════════════════════

/-- What holds of a load whenever it reads a record: the buffer has its length, the slots are
below the capacity, and the store has the rows, each with a valid timestamp. -/
structure LoadState.Sound (store : Store CFloat D registry) (tier : Fin STORE_TIERS)
    (capacity : ℕ) (s : LoadState D registry) : Prop where
  values : ∃ out : Fin registry.count → CFloat, s.values = List.ofFn out
  slots_lt : ∀ slot ∈ s.slots, slot < capacity
  rows_pos : ∀ row ∈ s.rows, 0 < row.timestamp
  store_eq : s.store = restoreAll store tier s.rows
  restored_eq : s.restored = s.rows.length

/-- The row a record restores, if it has a valid timestamp. -/
def recordRows {k : ℕ} (mapping : Fin k → Option (Fin n)) (raw : Bytes) : List (Row CFloat n) :=
  if (decodeRow k raw).timestamp ≤ 0 then []
  else [⟨(decodeRow k raw).timestamp, remapValues mapping (decodeRow k raw).values⟩]

variable {store : Store CFloat D registry} {tier : Fin STORE_TIERS}

/-- One record goes through, and restores its row. -/
theorem loadRecord_ok {k capacity : ℕ} {mapping : Fin k → Option (Fin registry.count)} {raw : Bytes}
    (hraw : raw.length = recordBytes k) {s : LoadState D registry}
    (hs : s.Sound store tier capacity) :
    ∃ s', loadRecord tier k (List.ofFn fun m => (mapping m).map Fin.val) raw s = .ok s' ∧
      s'.Sound store tier capacity ∧ s'.rows = s.rows ++ recordRows mapping raw := by
  obtain ⟨out, hvalues⟩ := hs.values
  have hstamp : 0 + 8 ≤ raw.length := by
    rw [hraw, recordBytes]
    omega
  have hclear := forTo_set out (fun _ => CFloat.nan)
    (fun m values => Checked.set values m CFloat.nan) fun _ _ => rfl
  rw [loadRecord, Checked.slice_of_le hstamp, Checked.ok_bind, List.drop_zero, recordRows]
  change ∃ s', (if (decodeRow k raw).timestamp ≤ 0 then _ else _) = _ ∧ _
  split
  · exact ⟨s, rfl, hs, (List.append_nil _).symm⟩
  · next hpos =>
    rw [hvalues, hclear, Checked.ok_bind, forTo_restoreValue hraw, Checked.ok_bind, copyRow_eq,
      Checked.ok_bind]
    refine ⟨_, rfl, ⟨⟨_, rfl⟩, hs.slots_lt, ?_, ?_, ?_⟩, rfl⟩
    · intro row hrow
      obtain hrow | hrow := List.mem_append.mp hrow
      · exact hs.rows_pos row hrow
      · rw [List.mem_singleton.mp hrow]
        exact Int64.not_le.mp hpos
    · simp only [hs.store_eq, restoreAll, List.foldl_append]
      rfl
    · simp only [hs.restored_eq, List.length_append]
      rfl

/-- The loop goes through, whatever the file has in its slots. -/
theorem loadRecords_ok (file : ByteFile) (granted : ℕ → ℕ → ℕ) (header : PersistHeader) (start : ℕ)
    (mapping : Fin header.nMetrics → Option (Fin registry.count)) (hcap : 0 < header.capacity)
    (is : List ℕ) {s : LoadState D registry} (hs : s.Sound store tier header.capacity) :
    ∃ s', loadRecords file granted tier header start
        (List.ofFn fun m => (mapping m).map Fin.val) is s = .ok s' ∧
      s'.Sound store tier header.capacity ∧
      ((∀ offset length, 0 < length → 0 < granted offset length) →
        s'.rows = s.rows ++ loadRows file header start mapping is) := by
  induction is generalizing s with
  | nil => exact ⟨s, rfl, hs, fun _ => (List.append_nil _).symm⟩
  | cons i is ih =>
    have hslot := Nat.mod_lt (guint (start + i)) hcap
    have hs' : LoadState.Sound store tier header.capacity
        { s with slots := s.slots ++ [guint (start + i) % header.capacity] } := by
      refine ⟨hs.values, fun slot hmem => ?_, hs.rows_pos, hs.store_eq, hs.restored_eq⟩
      obtain hmem | hmem := List.mem_append.mp hmem
      · exact hs.slots_lt slot hmem
      · exact List.mem_singleton.mp hmem ▸ hslot
    rw [loadRecords, Checked.mod_of_pos _ hcap, Checked.ok_bind]
    dsimp only
    cases hread : readAt file granted
        (slotOffset header.nMetrics (guint (start + i) % header.capacity))
        (recordBytes header.nMetrics) with
    | none =>
      refine ⟨_, rfl, hs', fun hgranted => ?_⟩
      rw [readAt_eq_read hgranted] at hread
      rw [loadRows, hread, List.append_nil]
    | some raw =>
      obtain ⟨mid, hmid, hmid', hrows⟩ :=
        @loadRecord_ok _ _ _ _ _ _ mapping _ (length_readAt hread) _ hs'
      obtain ⟨s', hs', hsound, hmore⟩ := ih hmid'
      refine ⟨s', ?_, hsound, fun hgranted => ?_⟩
      · dsimp only
        rw [hmid, Checked.ok_bind, hs']
      · rw [hmore hgranted, hrows]
        rw [readAt_eq_read hgranted] at hread
        rw [loadRows, hread, recordRows, List.append_assoc]
        dsimp only
        split <;> rfl

/-- What `persist_load` checks before it restores anything: the header can be read and is
accepted, and the id table can be read. -/
def LoadAccepted (persist : Persist registry) (file : ByteFile) (granted : ℕ → ℕ → ℕ) : Prop :=
  ∃ raw savedIds, readAt file granted 0 PERSIST_HEADER_SIZE = some raw ∧
    headerAccepted persist (decodeHeader raw) = true ∧
    readAt file granted HEADER_BYTES (idTableBytes (decodeHeader raw).nMetrics) = some savedIds

/-- How a load ends. -/
structure LoadState.Finished (persist : Persist registry) (file : ByteFile)
    (granted : ℕ → ℕ → ℕ) (store : Store CFloat D registry) (tier : Fin STORE_TIERS)
    (out : LoadState D registry) : Prop where
  slots_lt : ∀ slot ∈ out.slots, ∃ raw, readAt file granted 0 PERSIST_HEADER_SIZE = some raw ∧
    slot < (decodeHeader raw).capacity
  rows_pos : ∀ row ∈ out.rows, 0 < row.timestamp
  store_eq : out.store = restoreAll store tier out.rows
  restored_eq : out.restored = out.rows.length
  rows_eq : (∀ offset length, 0 < length → 0 < granted offset length) →
    out.rows = savedRows persist file

theorem headerAccepted_capacity_pos {persist : Persist registry} {header : PersistHeader}
    (h : headerAccepted persist header = true) : 0 < header.capacity := by
  simp only [headerAccepted, decide_eq_true_eq] at h
  omega

/-- A load ends, and without a fault. -/
theorem loadChecked_ok (persist : Persist registry) (file : ByteFile) (granted : ℕ → ℕ → ℕ)
    (store : Store CFloat D registry) (tier : Fin STORE_TIERS) :
    ∃ out, loadChecked persist file granted store tier = .ok out ∧
      out.Finished persist file granted store tier ∧
      (¬ LoadAccepted persist file granted → out.rows = []) := by
  have hidle (hnone : (∀ offset length, 0 < length → 0 < granted offset length) →
      savedRows persist file = []) :
      LoadState.Finished persist file granted store tier ⟨store, 0, [], [], []⟩ :=
    ⟨by simp, by simp, rfl, rfl, fun hgranted => (hnone hgranted).symm⟩
  rw [loadChecked]
  cases hraw : readAt file granted 0 PERSIST_HEADER_SIZE with
  | none =>
    refine ⟨_, rfl, hidle fun hgranted => ?_, fun _ => rfl⟩
    rw [readAt_eq_read hgranted] at hraw
    rw [savedRows, readHeader, hraw]
    rfl
  | some raw =>
    have hheader (hgranted : ∀ offset length, 0 < length → 0 < granted offset length) :
        readHeader file = some (decodeHeader raw) := by
      rw [readAt_eq_read hgranted] at hraw
      rw [readHeader, hraw]
      rfl
    dsimp only
    split
    · next haccept =>
      cases hids : readAt file granted HEADER_BYTES (idTableBytes (decodeHeader raw).nMetrics) with
      | none =>
        refine ⟨_, rfl, hidle fun hgranted => ?_, fun _ => rfl⟩
        rw [readAt_eq_read hgranted] at hids
        rw [savedRows, hheader hgranted]
        simp only [haccept, if_true, hids]
      | some savedIds =>
        have hcap := headerAccepted_capacity_pos haccept
        have hsound : LoadState.Sound store tier (decodeHeader raw).capacity
            ⟨store, 0, List.replicate registry.count ⟨0⟩, [], []⟩ :=
          ⟨⟨fun _ => ⟨0⟩, (List.ofFn_const _ _).symm⟩, by simp, by simp, rfl, rfl⟩
        dsimp only
        rw [loadMapping_eq (length_readAt hids), Checked.ok_bind, Checked.mod_of_pos _ hcap,
          Checked.ok_bind]
        obtain ⟨out, hout, hfinal, hrows⟩ := loadRecords_ok file granted (decodeHeader raw)
          (guintSub ((decodeHeader raw).head + (decodeHeader raw).capacity)
            (min (decodeHeader raw).count (decodeHeader raw).capacity) %
              (decodeHeader raw).capacity)
          (fun m => savedMapping registry savedIds m) hcap
          (List.range (min (decodeHeader raw).count (decodeHeader raw).capacity)) hsound
        refine ⟨out, hout, ⟨fun slot hslot => ⟨raw, hraw, hfinal.slots_lt slot hslot⟩,
          hfinal.rows_pos, hfinal.store_eq, hfinal.restored_eq, fun hgranted => ?_⟩,
          fun hreject => absurd ⟨raw, savedIds, hraw, haccept, hids⟩ hreject⟩
        rw [readAt_eq_read hgranted] at hids
        rw [hrows hgranted, savedRows, hheader hgranted]
        simp only [haccept, if_true, hids, List.nil_append]
    · next hreject =>
      refine ⟨_, rfl, hidle fun hgranted => ?_, fun _ => rfl⟩
      rw [savedRows, hheader hgranted]
      simp only [hreject, Bool.false_eq_true, if_false]

/-- No file makes a load fault: it reads slots below the capacity of the header and appends rows
with a valid timestamp, and a file that is not accepted leaves the store alone. -/
theorem loadChecked_safe (persist : Persist registry) (file : ByteFile) (granted : ℕ → ℕ → ℕ)
    (store : Store CFloat D registry) (tier : Fin STORE_TIERS) :
    ∃ out, loadChecked persist file granted store tier = .ok out ∧
      (∀ slot ∈ out.slots, ∃ raw, readAt file granted 0 PERSIST_HEADER_SIZE = some raw ∧
        slot < (decodeHeader raw).capacity) ∧
      (∀ row ∈ out.rows, 0 < row.timestamp) ∧
      out.store = restoreAll store tier out.rows ∧ out.restored = out.rows.length ∧
      (¬ LoadAccepted persist file granted → out.restored = 0 ∧ out.store = store) := by
  obtain ⟨out, hout, hfinished, hreject⟩ := loadChecked_ok persist file granted store tier
  refine ⟨out, hout, hfinished.slots_lt, hfinished.rows_pos, hfinished.store_eq,
    hfinished.restored_eq, fun h => ⟨?_, ?_⟩⟩
  · rw [hfinished.restored_eq, hreject h, List.length_nil]
  · rw [hfinished.store_eq, hreject h]
    rfl

/-- Where no read fails, the checked load is `persistLoad`. -/
theorem loadChecked_eq_persistLoad (persist : Persist registry) (file : ByteFile)
    {granted : ℕ → ℕ → ℕ} (hgranted : ∀ offset length, 0 < length → 0 < granted offset length)
    (store : Store CFloat D registry) (tier : Fin STORE_TIERS) :
    ∃ out, loadChecked persist file granted store tier = .ok out ∧
      (out.store, out.restored) = persistLoad persist file store tier := by
  obtain ⟨out, hout, hfinished, -⟩ := loadChecked_ok persist file granted store tier
  refine ⟨out, hout, ?_⟩
  rw [hfinished.store_eq, hfinished.restored_eq, hfinished.rows_eq hgranted]
  rfl

end AxisMetrics
