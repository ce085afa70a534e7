import AxisMetrics.Lib.Runs
import AxisMetrics.Persist.Mirror

/-!
# Opening the history

Storage can mount long after boot, so opening the three files is retried, and a mount that is new
makes everything be rebuilt first. An attempt is described by what it meets: whether the mounts have
changed, and if not, on which storage each file could be opened. `try_open_persistence` and
`rebuild_for_new_storage` call each other, and this description tells how often.
-/

namespace AxisMetrics

open Lib (Bytes ByteFile ascii snprintf runFrom Always)

/-- `PERSIST_FILES`: the coarse tier keeps the original name. -/
def PERSIST_FILES : Fin STORE_TIERS → Bytes :=
  ![ascii "history-fine.bin", ascii "history-medium.bin", ascii "history.bin"]

def APP_SUBDIR : Bytes := ascii "Metrics"

/-- What `find_storage` gives. -/
abbrev StorageBase := {base : Bytes // base.length < 256}

/-- `persist->path`. -/
def persistFilePath (base : StorageBase) (i : Fin STORE_TIERS) : Bytes :=
  snprintf 512 (snprintf 512 (base ++ ascii "/" ++ APP_SUBDIR) ++ ascii "/" ++ PERSIST_FILES i)

/-- A `Persist` with the path of its file. -/
structure OpenFile (registry : MetricRegistry) where
  path : Bytes
  persist : Persist registry

/-- What one call of `try_open_persistence` meets: where each of the files opens, if it does; or
mounts that have changed, with what is rebuilt and what the next call meets. -/
inductive Attempt where
  | opens (results : Fin STORE_TIERS → Option StorageBase)
  | changed (registry : MetricRegistry) (sampleIntervalS memory : ℕ) (next : Attempt)

/-- The store, the open files and the disk, for one registry. -/
structure HistoryFiles (D : Type) (registry : MetricRegistry) where
  store : Store CFloat D registry
  persists : Fin STORE_TIERS → Option (OpenFile registry)
  /-- The files by their paths. -/
  disk : Bytes → ByteFile
  /-- How often `persist_load` found rows for a tier of this store. -/
  loads : Fin STORE_TIERS → ℕ

/-- The globals of `main.c` that opening the history is about. -/
structure History (D : Type) where
  registry : MetricRegistry
  files : HistoryFiles D registry
  persistPath : Option Bytes
  /-- Whether `persist_retry_timer` is set. -/
  retryTimer : Bool
  /-- How many timers of the main loop are to call `try_open_persistence`. -/
  timers : ℕ

inductive HistoryEvent where
  /-- `store_push`, with the outcomes of the record writes. -/
  | push (timestamp : Int64) (values : ℕ → CFloat) (results : Fin STORE_TIERS → WriteResult)
  /-- The retry timer. -/
  | retry (attempt : Attempt)

variable {D : Type} {registry : MetricRegistry}

namespace HistoryFiles

/-- One turn of the loop of `close_persistence`. -/
def closeTier (files : HistoryFiles D registry) (i : Fin STORE_TIERS) : HistoryFiles D registry :=
  match files.persists i with
  | none => files
  | some opened =>
    { files with
      store := storeSetTierCallback files.store i false
      persists := Function.update files.persists i none
      disk := Function.update files.disk opened.path
        ((files.disk opened.path).applyAll (persistClose opened.persist)) }

/-- The loop of `close_persistence`. -/
def closeAll (files : HistoryFiles D registry) : HistoryFiles D registry :=
  (List.finRange STORE_TIERS).foldl closeTier files

/-- One turn of the loop of `try_open_persistence`, once the file is open. -/
def openTierFile (files : HistoryFiles D registry) (i : Fin STORE_TIERS) (base : StorageBase) :
    HistoryFiles D registry :=
  let path := persistFilePath base i
  let persist := persistOpen (files.store.tiers i)
  let (store, opened, ops) := openTier persist (files.disk path) files.store i
  { store := store
    persists := Function.update files.persists i (some ⟨path, opened⟩)
    disk := Function.update files.disk path ((files.disk path).applyAll ops)
    loads := if storeTierCount files.store i = 0 ∧ savedRows persist (files.disk path) ≠ [] then
      Function.update files.loads i (files.loads i + 1) else files.loads }

/-- The loop of `try_open_persistence` over the tiers still to come, and whether they all opened. -/
def openTiers (results : Fin STORE_TIERS → Option StorageBase) (files : HistoryFiles D registry) :
    List (Fin STORE_TIERS) → HistoryFiles D registry × Bool
  | [] => (files, true)
  | i :: rest =>
    match results i with
    | none => (files.closeAll, false)
    | some base => openTiers results (files.openTierFile i base) rest

/-- `on_tier_sample`. -/
def onTierSample (results : Fin STORE_TIERS → WriteResult) (files : HistoryFiles D registry)
    (call : Fin STORE_TIERS × Row CFloat registry.count) : HistoryFiles D registry :=
  match files.persists call.1 with
  | none => files
  | some opened =>
    let (persist, ops) := persistAppend opened.persist call.2 (results call.1)
    { files with
      persists := Function.update files.persists call.1 (some ⟨opened.path, persist⟩)
      disk := Function.update files.disk opened.path ((files.disk opened.path).applyAll ops) }

variable [SampleArith CFloat D]

/-- A new store, with no file open. -/
def new (registry : MetricRegistry) (sampleIntervalS memory : ℕ) (disk : Bytes → ByteFile) :
    HistoryFiles D registry where
  store := storeNew registry sampleIntervalS memory
  persists := fun _ => none
  disk := disk
  loads := fun _ => 0

/-- `store_push` and the calls of `on_tier_sample` that it makes. -/
def push (files : HistoryFiles D registry) (row : Row CFloat registry.count)
    (results : Fin STORE_TIERS → WriteResult) : HistoryFiles D registry :=
  let (store, calls) := storePush files.store row
  calls.foldl (onTierSample results) { files with store := store }

end HistoryFiles

namespace History

variable [SampleArith CFloat D]

/-- `rebuild_for_new_storage` up to its call of `try_open_persistence`: the old store is freed. -/
def renew (h : History D) (registry : MetricRegistry) (sampleIntervalS memory : ℕ) : History D :=
  { h with
    registry := registry
    files := .new registry sampleIntervalS memory h.files.closeAll.disk
    persistPath := none }

/-- `rebuild_for_new_storage`; `tryOpen` is its call of `try_open_persistence`. -/
def rebuildForNewStorage (h : History D) (registry : MetricRegistry) (sampleIntervalS memory : ℕ)
    (tryOpen : History D → History D × Bool) : History D :=
  let (h, again) := tryOpen (h.renew registry sampleIntervalS memory)
  if again && !h.retryTimer then { h with retryTimer := true, timers := h.timers + 1 } else h

/-- `try_open_persistence`; `true` is `G_SOURCE_CONTINUE`. -/
def tryOpenPersistence (h : History D) (attempt : Attempt) : History D × Bool :=
  if (h.files.persists 2).isSome then (h, false)
  else
    match attempt with
    -- checked first: a new disk also needs a rebuild
    | .changed registry sampleIntervalS memory next =>
      (rebuildForNewStorage { h with retryTimer := false } registry sampleIntervalS memory
        fun h => h.tryOpenPersistence next, false)
    | .opens results =>
      match h.files.openTiers results (List.finRange STORE_TIERS) with
      | (files, true) =>
        ({ h with
          files := files
          persistPath := (files.persists 2).map OpenFile.path
          retryTimer := false }, false)
      | (files, false) => ({ h with files := files, persistPath := none }, true)
termination_by structural attempt

/-- Before the first call of `try_open_persistence`. -/
def boot (registry : MetricRegistry) (sampleIntervalS memory : ℕ) (disk : Bytes → ByteFile) :
    History D :=
  ⟨registry, .new registry sampleIntervalS memory disk, none, false, 0⟩

/-- What `main` does about the history before its loop. -/
def start (registry : MetricRegistry) (sampleIntervalS memory : ℕ) (disk : Bytes → ByteFile)
    (attempt : Attempt) : History D :=
  let (h, again) := (boot registry sampleIntervalS memory disk).tryOpenPersistence attempt
  if again then { h with retryTimer := true, timers := h.timers + 1 } else h

/-- One event; a timer that is not there cannot fire. -/
def step (h : History D) : HistoryEvent → Option (History D)
  | .push timestamp values results =>
    some { h with files := h.files.push ⟨timestamp, fun i => values i⟩ results }
  | .retry attempt =>
    if h.timers = 0 then none
    else
      let (h, again) := h.tryOpenPersistence attempt
      some (if again then h else { h with timers := h.timers - 1 })

end History

end AxisMetrics
