import AxisMetrics.Store.Shape

/-!
# History files

One fixed-size circular file per tier, so a sample costs one record write. The header
index is only flushed every `HEADER_FLUSH_EVERY` appends.

The functions return the writes they complete, in program order, together with the new
`Persist`. The file after a crash is the file after a prefix of those writes.
-/

namespace AxisMetrics

open Lib (Bytes ByteFile FileOp ascii leBytes ofLeBytes zeroPad cString strlcpy guint guintSub)

variable {D : Type} {registry : MetricRegistry} {n : ℕ}

def PERSIST_MAGIC : Bytes := ascii "AXMETRIC"
def PERSIST_VERSION : ℕ := 1
def HEADER_BYTES : ℕ := 4096
def HEADER_FLUSH_EVERY : ℕ := 60

/-- `PersistHeader`: eight bytes and seven `guint32`. -/
structure PersistHeader where
  magic : Bytes
  version : ℕ
  nMetrics : ℕ
  capacity : ℕ
  intervalS : ℕ
  head : ℕ
  count : ℕ
  reserved : ℕ
  deriving DecidableEq

/-- `sizeof(PersistHeader)`. -/
def PERSIST_HEADER_SIZE : ℕ := 36

/-- The header as it lies in memory. -/
def encodeHeader (h : PersistHeader) : Bytes :=
  h.magic ++ (leBytes 4 h.version ++ (leBytes 4 h.nMetrics ++ (leBytes 4 h.capacity ++
    (leBytes 4 h.intervalS ++ (leBytes 4 h.head ++ (leBytes 4 h.count ++ leBytes 4 h.reserved))))))

/-- Bytes read into a header. -/
def decodeHeader (raw : Bytes) : PersistHeader where
  magic := raw.take 8
  version := ofLeBytes ((raw.drop 8).take 4)
  nMetrics := ofLeBytes ((raw.drop 12).take 4)
  capacity := ofLeBytes ((raw.drop 16).take 4)
  intervalS := ofLeBytes ((raw.drop 20).take 4)
  head := ofLeBytes ((raw.drop 24).take 4)
  count := ofLeBytes ((raw.drop 28).take 4)
  reserved := ofLeBytes ((raw.drop 32).take 4)

/-- `id_table_bytes`. -/
def idTableBytes (nMetrics : ℕ) : ℕ := nMetrics * METRIC_ID_MAX

/-- The metric ids, each zero-padded to `METRIC_ID_MAX` bytes. -/
def idTable (registry : MetricRegistry) : Bytes :=
  registry.defs.flatMap fun d => zeroPad METRIC_ID_MAX (strlcpy METRIC_ID_MAX d.id)

/-- `record_bytes`. -/
def recordBytes (nMetrics : ℕ) : ℕ := 8 + nMetrics * 4

/-- `records_offset`. -/
def recordsOffset (nMetrics : ℕ) : ℕ := HEADER_BYTES + idTableBytes nMetrics

/-- Where a record slot starts. -/
def slotOffset (nMetrics slot : ℕ) : ℕ := recordsOffset nMetrics + slot * recordBytes nMetrics

/-- One record: the timestamp and the values. -/
def encodeRow (row : Row CFloat n) : Bytes :=
  leBytes 8 row.timestamp.toUInt64.toNat ++ (List.finRange n).flatMap fun m => (row.values m).toBytes

/-- Bytes read as a record. -/
def decodeRow (n : ℕ) (raw : Bytes) : Row CFloat n where
  timestamp := (UInt64.ofNat (ofLeBytes (raw.take 8))).toInt64
  values m := CFloat.ofBytes ((raw.drop (8 + m * 4)).take 4)

/-- `Persist`, for one registry. The record size and offset follow from the registry. -/
structure Persist (registry : MetricRegistry) where
  capacity : ℕ
  intervalS : ℕ
  head : ℕ
  count : ℕ
  appendsSinceHeader : ℕ
  /-- Until `persist_sync` has laid the file out, head and count are still zero and writing
  them would destroy the saved index. -/
  ownsFile : Bool

/-- How a `write_at` ended: all bytes, or an error after some of them. -/
inductive WriteResult where
  | complete
  | failed (written : ℕ)

/-- `persist_open`, once storage was found and the file opened. -/
def persistOpen (tier : StoreTier CFloat D registry.count) : Persist registry where
  capacity := tier.ring.capacity
  intervalS := tier.intervalS
  head := 0
  count := 0
  appendsSinceHeader := 0
  ownsFile := false

/-- The header `write_header` fills in. -/
def persistHeader (persist : Persist registry) : PersistHeader where
  magic := PERSIST_MAGIC
  version := PERSIST_VERSION
  nMetrics := registry.count
  capacity := persist.capacity
  intervalS := persist.intervalS
  head := persist.head
  count := persist.count
  reserved := 0

/-- `write_header`. -/
def writeHeader (persist : Persist registry) : Persist registry × List FileOp :=
  ({ persist with appendsSinceHeader := 0 }, [.write 0 (encodeHeader (persistHeader persist))])

/-- `initialise_file`. -/
def initialiseFile (persist : Persist registry) : Persist registry × List FileOp :=
  let persist := { persist with head := 0, count := 0, ownsFile := true }
  let (persist, header) := writeHeader persist
  (persist, .write HEADER_BYTES (idTable registry) :: header ++
    [.truncate (recordsOffset registry.count + persist.capacity * recordBytes registry.count)])

/-- `persist_append`, with the outcome of its record write. -/
def persistAppend (persist : Persist registry) (row : Row CFloat registry.count) :
    WriteResult → Persist registry × List FileOp
  | .failed written =>
    (persist, [.write (slotOffset registry.count persist.head) ((encodeRow row).take written)])
  | .complete =>
    let record : FileOp := .write (slotOffset registry.count persist.head) (encodeRow row)
    let persist := { persist with
      head := (persist.head + 1) % persist.capacity
      count := if persist.count < persist.capacity then persist.count + 1 else persist.count
      appendsSinceHeader := persist.appendsSinceHeader + 1 }
    if HEADER_FLUSH_EVERY ≤ persist.appendsSinceHeader then
      let (persist, header) := writeHeader persist
      (persist, record :: header)
    else (persist, [record])

/-- Append rows one after the other, every write completing. -/
def persistAppends (persist : Persist registry) :
    List (Row CFloat registry.count) → Persist registry × List FileOp
  | [] => (persist, [])
  | row :: rows =>
    let (persist, ops) := persistAppend persist row .complete
    let (persist, rest) := persistAppends persist rows
    (persist, ops ++ rest)

/-- `persist_sync`: lay the file out and replay the tier into it. -/
def persistSync (persist : Persist registry) (store : Store CFloat D registry)
    (i : Fin STORE_TIERS) : Persist registry × List FileOp :=
  let (persist, layout) := initialiseFile persist
  let (persist, replay) := persistAppends persist
    ((List.range (storeTierCount store i)).filterMap (storeTierSample store i))
  (persist, layout ++ replay)

/-- `persist_close`. -/
def persistClose (persist : Persist registry) : List FileOp :=
  if persist.ownsFile then (writeHeader persist).2 else []

variable [SampleArith CFloat D]

/-- A `store_push` while `persist` listens to tier `i`: `on_tier_sample` appends each row the
tier reports. -/
def pushRecorded (i : Fin STORE_TIERS) (store : Store CFloat D registry)
    (persist : Persist registry) (row : Row CFloat registry.count) :
    Store CFloat D registry × Persist registry × List FileOp :=
  let (store, calls) := storePush store row
  let (persist, ops) := persistAppends persist
    (calls.filterMap fun (j, row) => if j = i then some row else none)
  (store, persist, ops)

/-- Push rows one after the other. -/
def pushAllRecorded (i : Fin STORE_TIERS) (store : Store CFloat D registry)
    (persist : Persist registry) :
    List (Row CFloat registry.count) → Store CFloat D registry × Persist registry × List FileOp
  | [] => (store, persist, [])
  | row :: rows =>
    let (store, persist, ops) := pushRecorded i store persist row
    let (store, persist, rest) := pushAllRecorded i store persist rows
    (store, persist, ops ++ rest)

/-- A tier while its file is open: sync, listen, push, stop listening, close. -/
def recordTier (i : Fin STORE_TIERS) (store : Store CFloat D registry)
    (persist : Persist registry) (rows : List (Row CFloat registry.count)) :
    Store CFloat D registry × List FileOp :=
  let (persist, synced) := persistSync persist store i
  let (store, persist, pushed) :=
    pushAllRecorded i (storeSetTierCallback store i true) persist rows
  (storeSetTierCallback store i false, synced ++ pushed ++ persistClose persist)

omit [SampleArith CFloat D]

/-- Read the header of a file. -/
def readHeader (file : ByteFile) : Option PersistHeader :=
  (file.read 0 PERSIST_HEADER_SIZE).map decodeHeader

/-- `mapping[]`: where each saved metric stands now. -/
def savedMapping (registry : MetricRegistry) (savedIds : Bytes) (m : ℕ) :
    Option (Fin registry.count) :=
  registry.metricsFind (cString (savedIds.drop (m * METRIC_ID_MAX)))

/-- Put one saved value where its metric stands now, if it still stands anywhere. -/
def remapValue {saved current : ℕ} (mapping : Fin saved → Option (Fin current))
    (values : Fin saved → CFloat) (out : Fin current → CFloat) (m : Fin saved) :
    Fin current → CFloat :=
  match mapping m with
  | some p => Function.update out p (values m)
  | none => out

/-- Values remapped by id: a metric the file does not have is NaN, and a later saved metric
overwrites an earlier one of the same id. -/
def remapValues {saved current : ℕ} (mapping : Fin saved → Option (Fin current))
    (values : Fin saved → CFloat) : Fin current → CFloat :=
  (List.finRange saved).foldl (remapValue mapping values) fun _ => CFloat.nan

/-- The loop of `persist_load` over the positions still to come: stop where the file ends,
skip what has no valid timestamp, and remap the rest. -/
def loadRows (file : ByteFile) (header : PersistHeader) (start : ℕ)
    (mapping : Fin header.nMetrics → Option (Fin registry.count)) :
    List ℕ → List (Row CFloat registry.count)
  | [] => []
  | i :: rest =>
    match file.read (slotOffset header.nMetrics (guint (start + i) % header.capacity))
        (recordBytes header.nMetrics) with
    | none => []
    | some raw =>
      let saved := decodeRow header.nMetrics raw
      if saved.timestamp ≤ 0 then loadRows file header start mapping rest
      else ⟨saved.timestamp, remapValues mapping saved.values⟩ ::
        loadRows file header start mapping rest

/-- Whether `persist_load` accepts a header. -/
def headerAccepted (persist : Persist registry) (header : PersistHeader) : Bool :=
  header.magic = PERSIST_MAGIC ∧ header.version = PERSIST_VERSION ∧
    header.intervalS = persist.intervalS ∧ header.nMetrics ≠ 0 ∧ header.nMetrics ≤ 100000 ∧
    header.capacity ≠ 0

/-- The rows `persist_load` reads from a file, in the order it restores them. -/
def savedRows (persist : Persist registry) (file : ByteFile) : List (Row CFloat registry.count) :=
  match readHeader file with
  | none => []
  | some header =>
    if headerAccepted persist header then
      match file.read HEADER_BYTES (idTableBytes header.nMetrics) with
      | none => []
      | some savedIds =>
        let count := min header.count header.capacity
        let start := guintSub (header.head + header.capacity) count % header.capacity
        loadRows file header start (fun m => savedMapping registry savedIds m) (List.range count)
    else []

/-- `persist_load`: the store with the saved rows restored, and how many there were. -/
def persistLoad (persist : Persist registry) (file : ByteFile) (store : Store CFloat D registry)
    (i : Fin STORE_TIERS) : Store CFloat D registry × ℕ :=
  (restoreAll store i (savedRows persist file), (savedRows persist file).length)

/-- `try_open_persistence` for one tier whose file was opened. Saved history is only adopted by
an empty tier. -/
def openTier (persist : Persist registry) (file : ByteFile) (store : Store CFloat D registry)
    (i : Fin STORE_TIERS) : Store CFloat D registry × Persist registry × List FileOp :=
  let store := if storeTierCount store i = 0 then (persistLoad persist file store i).1 else store
  let (persist, synced) := persistSync persist store i
  (storeSetTierCallback store i true, persist, synced)

end AxisMetrics
