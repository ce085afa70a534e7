import AxisMetrics.Persist.Layout

/-!
# Loading a history file

`persistLoad` reads the live window of the file's record slots and carries each row over
to the current registry by metric id. `savedRows_eq` is the whole of it: which header and
which slots go in, which rows come out.
-/

namespace AxisMetrics

open Lib (Bytes ByteFile RingBuffer ringWindow guintSub)

variable {saved registry current : MetricRegistry}

/-- A row of the `saved` registry carried over to the `current` one. -/
def remapRow (saved current : MetricRegistry) (row : Row CFloat saved.count) :
    Row CFloat current.count :=
  ⟨row.timestamp, remapValues (fun m => current.metricsFind (saved.id m)) row.values⟩

/-- What a reader expects of a row carried over: the same time, its own value for each metric
both registries have, and NaN for each metric that is new. -/
structure RowRemapped (saved current : MetricRegistry) (row : Row CFloat saved.count)
    (row' : Row CFloat current.count) : Prop where
  timestamp_eq : row'.timestamp = row.timestamp
  value_of_find : ∀ m p, current.metricsFind (saved.id m) = some p → row'.values p = row.values m
  nan_of_new : ∀ p, (∀ m, current.metricsFind (saved.id m) ≠ some p) → row'.values p = CFloat.nan

/-- A run of rows carried over one by one. -/
def RowsRemapped (saved current : MetricRegistry) :
    List (Row CFloat saved.count) → List (Row CFloat current.count) → Prop :=
  List.Forall₂ (RowRemapped saved current)

section Remap

variable {a b : ℕ} {mapping : Fin a → Option (Fin b)} {values : Fin a → CFloat} {p : Fin b}

theorem remapValue_of_ne {m : Fin a} (h : mapping m ≠ some p) (out : Fin b → CFloat) :
    remapValue mapping values out m p = out p := by
  cases hq : mapping m with
  | none => rw [remapValue, hq]
  | some q =>
    rw [remapValue, hq]
    exact Function.update_of_ne (fun hpq => h (by rw [hq, hpq])) _ _

theorem remapValue_of_eq {m : Fin a} (h : mapping m = some p) (out : Fin b → CFloat) :
    remapValue mapping values out m p = values m := by
  rw [remapValue, h]
  exact Function.update_self _ _ _

theorem foldl_remapValue_of_ne (ms : List (Fin a)) (out : Fin b → CFloat)
    (h : ∀ m ∈ ms, mapping m ≠ some p) : ms.foldl (remapValue mapping values) out p = out p := by
  induction ms generalizing out with
  | nil => rfl
  | cons m ms ih =>
    rw [List.foldl_cons, ih _ fun m' hm' => h m' (List.mem_cons_of_mem _ hm'),
      remapValue_of_ne (h m List.mem_cons_self)]

/-- A position that no saved metric maps to is NaN. -/
theorem remapValues_of_forall_ne (h : ∀ m, mapping m ≠ some p) :
    remapValues mapping values p = CFloat.nan :=
  foldl_remapValue_of_ne _ _ fun m _ => h m

/-- A position that one saved metric maps to has its value. -/
theorem remapValues_of_unique {m : Fin a} (h : ∀ m', mapping m' = some p ↔ m' = m) :
    remapValues mapping values p = values m := by
  obtain ⟨before, after, hsplit⟩ := List.append_of_mem (List.mem_finRange m)
  have hnodup := List.nodup_finRange a
  rw [hsplit, List.nodup_append, List.nodup_cons] at hnodup
  have hafter : ∀ m' ∈ after, mapping m' ≠ some p := fun m' hm' hp =>
    hnodup.2.1.1 ((h m').mp hp ▸ hm')
  rw [remapValues, hsplit, List.foldl_append, List.foldl_cons,
    foldl_remapValue_of_ne _ _ hafter, remapValue_of_eq ((h m).mpr rfl)]

end Remap

/-- Rows are carried over as expected when the saved ids are distinct. -/
theorem rowRemapped_remapRow (hs : saved.Distinct) (row : Row CFloat saved.count) :
    RowRemapped saved current row (remapRow saved current row) where
  timestamp_eq := rfl
  value_of_find m p hp := by
    refine remapValues_of_unique fun m' => ⟨fun hp' => ?_, fun hm => hm ▸ hp⟩
    have hid : saved.id m' = saved.id m := by
      rw [← MetricRegistry.metricsFind_id hp, MetricRegistry.metricsFind_id hp']
    exact hs hid
  nan_of_new p hp := remapValues_of_forall_ne hp

theorem rowsRemapped_map (hs : saved.Distinct) (rows : List (Row CFloat saved.count)) :
    RowsRemapped saved current rows (rows.map (remapRow saved current)) := by
  rw [RowsRemapped, List.forall₂_map_right_iff, List.forall₂_same]
  exact fun row _ => rowRemapped_remapRow hs row

/-- Under the same registry nothing changes. -/
theorem remapRow_self (hs : registry.Distinct) (row : Row CFloat registry.count) :
    remapRow registry registry row = row := by
  have hr : RowRemapped registry registry row _ := rowRemapped_remapRow hs row
  have hvalues : (remapRow registry registry row).values = row.values :=
    funext fun p => hr.value_of_find p p (hs.metricsFind_self p)
  exact congrArg (Row.mk row.timestamp) hvalues

/-- Two steps come to one when the registry between them drops nothing that the last one
still has. -/
theorem RowRemapped.trans {row : Row CFloat saved.count} {mid : Row CFloat registry.count}
    {row' : Row CFloat current.count} (hr : registry.Distinct)
    (h : RowRemapped saved registry row mid) (h' : RowRemapped registry current mid row')
    (hkeep : ∀ m p, saved.id m = current.id p → ∃ q, registry.id q = saved.id m) :
    RowRemapped saved current row row' where
  timestamp_eq := h'.timestamp_eq.trans h.timestamp_eq
  value_of_find m p hp := by
    obtain ⟨q, hq⟩ := hkeep m p (MetricRegistry.metricsFind_id hp).symm
    rw [h'.value_of_find q p (hq ▸ hp), h.value_of_find m q (hq ▸ hr.metricsFind_self q)]
  nan_of_new p hp := by
    by_cases hfind : ∃ q, current.metricsFind (registry.id q) = some p
    · obtain ⟨q, hq⟩ := hfind
      rw [h'.value_of_find q p hq, h.nan_of_new q]
      intro m hm
      exact hp m (MetricRegistry.metricsFind_id hm ▸ hq)
    · exact h'.nan_of_new p fun q hq => hfind ⟨q, hq⟩

theorem rowsRemapped_map_map (hs : saved.Distinct) (hr : registry.Distinct)
    (hkeep : ∀ m p, saved.id m = current.id p → ∃ q, registry.id q = saved.id m)
    (rows : List (Row CFloat saved.count)) : RowsRemapped saved current rows
      ((rows.map (remapRow saved registry)).map (remapRow registry current)) := by
  rw [RowsRemapped, List.map_map, List.forall₂_map_right_iff, List.forall₂_same]
  exact fun row _ =>
    (rowRemapped_remapRow hs row).trans hr (rowRemapped_remapRow hr _) hkeep

/-- The header of a file of the `saved` registry. -/
def fileHeader (saved : MetricRegistry) (intervalS capacity head count : ℕ) : PersistHeader where
  magic := PERSIST_MAGIC
  version := PERSIST_VERSION
  nMetrics := saved.count
  capacity := capacity
  intervalS := intervalS
  head := head
  count := count
  reserved := 0

/-- Where every slot is within the file and no sum wraps around, the loop skips what has no
valid timestamp and carries the other rows over. -/
theorem loadRows_eq (file : ByteFile) (header : PersistHeader) (start : ℕ)
    (mapping : Fin header.nMetrics → Option (Fin registry.count)) (is : List ℕ)
    (hcap : 0 < header.capacity)
    (hsize : slotOffset header.nMetrics header.capacity ≤ file.size)
    (hwrap : ∀ i ∈ is, start + i < 2 ^ 32) :
    loadRows file header start mapping is =
      ((is.map fun i => slotRow file header.nMetrics ((start + i) % header.capacity)).filter
        fun row => 0 < row.timestamp).map
        fun row => ⟨row.timestamp, remapValues mapping row.values⟩ := by
  induction is with
  | nil => rfl
  | cons i is ih =>
    have hslot : slotOffset header.nMetrics ((start + i) % header.capacity) +
        recordBytes header.nMetrics ≤ file.size :=
      (slotOffset_add_le (Nat.mod_lt _ hcap)).trans hsize
    rw [loadRows, Lib.guint_of_lt (hwrap i List.mem_cons_self), ByteFile.read_of_le hslot,
      ih fun j hj => hwrap j (List.mem_cons_of_mem _ hj), List.map_cons]
    dsimp only
    split
    · next hle =>
      have hskip : ¬ 0 < (slotRow file header.nMetrics ((start + i) % header.capacity)).timestamp :=
        Int64.not_lt.mpr hle
      rw [List.filter_cons_of_neg (by simpa using hskip)]
    · next hgt =>
      have hkeep : 0 < (slotRow file header.nMetrics ((start + i) % header.capacity)).timestamp :=
        Int64.not_le.mp hgt
      rw [List.filter_cons_of_pos (by simpa using hkeep), List.map_cons]
      rfl

/-- A file whose header, id table and slots are in place restores the live window of its
slots, oldest first. -/
theorem savedRows_eq {persist : Persist registry} {file : ByteFile} {capacity head count : ℕ}
    (hheader : readHeader file = some (fileHeader saved persist.intervalS capacity head count))
    (htable : file.slice HEADER_BYTES (idTableBytes saved.count) = idTable saved)
    (hsize : slotOffset saved.count capacity ≤ file.size)
    (hcount : saved.count ≠ 0) (hcount' : saved.count ≤ 100000)
    (hcap : capacity < 2 ^ 31) (hhead : head < capacity) (hlive : count ≤ capacity) :
    savedRows persist file =
      ((ringWindow (slotRow file saved.count) capacity head count).filter
        fun row => 0 < row.timestamp).map (remapRow saved registry) := by
  set header := fileHeader saved persist.intervalS capacity head count
  have hcap0 : 0 < header.capacity := Nat.lt_of_le_of_lt (Nat.zero_le _) hhead
  have haccept : headerAccepted persist header = true := by
    have h0 : capacity ≠ 0 := hcap0.ne'
    simp [headerAccepted, header, fileHeader, hcount, hcount', h0]
  have hread : file.read HEADER_BYTES (idTableBytes header.nMetrics) = some (idTable saved) := by
    rw [← htable]
    exact ByteFile.read_of_le ((recordsOffset_le_slotOffset _ _).trans hsize)
  have hmapping (m : Fin header.nMetrics) : savedMapping registry (idTable saved) m =
      registry.metricsFind (saved.id m) :=
    congrArg registry.metricsFind (cString_drop_idTable saved m)
  have hlive' : min header.count header.capacity = count := min_eq_left hlive
  have hstart : guintSub (header.head + header.capacity) count = head + capacity - count :=
    Lib.guintSub_of_le (show count ≤ head + capacity by omega)
      (show head + capacity < 2 ^ 32 + count by omega) (by omega)
  have hwrap : ∀ i ∈ List.range count,
      (head + capacity - count) % header.capacity + i < 2 ^ 32 := fun i hi => by
    have hi := List.mem_range.mp hi
    have hlt : (head + capacity - count) % header.capacity < capacity := Nat.mod_lt _ hcap0
    omega
  rw [savedRows, hheader]
  dsimp only
  rw [if_pos haccept, hread]
  dsimp only
  rw [hlive', hstart, loadRows_eq file header _ _ _ hcap0 hsize hwrap]
  simp only [hmapping]
  rfl

end AxisMetrics
