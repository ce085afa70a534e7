import AxisMetrics.Persist.Reopen
import AxisMetrics.Persist.Retry

/-!
# What the tiers owe

What a tier owes its reader is kept in a ledger: all the rows that were saved in the files opened for
it, in front of all the rows it was given since the start, whatever becomes of them. The history runs
next to its ledgers. `KeepsLedgers` is what a reader expects of a run, and `Harmless` says which
attempts to open the history discard nothing.
-/

namespace AxisMetrics

open Lib (Bytes ByteFile RingBuffer ascii snprintf runFrom Throughout)

variable {D : Type} {registry : MetricRegistry}

/-- A row under the registry it is a row of. -/
structure LedgerRow where
  registry : MetricRegistry
  row : Row CFloat registry.count

/-- A row under the metrics of a new registry. -/
def LedgerRow.carry (current : MetricRegistry) (r : LedgerRow) : LedgerRow :=
  ⟨current, remapRow r.registry current r.row⟩

/-- The rows a tier owes, and the files whose rows are counted among them. -/
structure TierLedger where
  rows : List LedgerRow
  counted : List Bytes

/-- A file is opened for the tier. What it holds counts once: later it is a copy of the tier. -/
def TierLedger.takeOver (ledger : TierLedger) (path : Bytes) (saved : List LedgerRow) :
    TierLedger :=
  if path ∈ ledger.counted ∧ ledger.rows.isEmpty = false then ledger
  else ⟨saved ++ ledger.rows, path :: ledger.counted⟩

abbrev Ledger := Fin STORE_TIERS → TierLedger

/-- The rows of a tier as a ledger has them. -/
def ledgerRows (rows : List (Row CFloat registry.count)) : List LedgerRow :=
  rows.map (LedgerRow.mk registry)

namespace Ledger

/-- Nothing is owed yet. -/
def empty : Ledger := fun _ => ⟨[], []⟩

/-- The rows that the file of a tier holds when it is opened. -/
def saved (files : HistoryFiles D registry) (i : Fin STORE_TIERS) (base : StorageBase) :
    List (Row CFloat registry.count) :=
  savedRows (persistOpen (files.store.tiers i)) (files.disk (persistFilePath base i))

/-- The file of a tier is opened. -/
def openTierFile (ledger : Ledger) (files : HistoryFiles D registry) (i : Fin STORE_TIERS)
    (base : StorageBase) : Ledger :=
  Function.update ledger i
    ((ledger i).takeOver (persistFilePath base i) (ledgerRows (saved files i base)))

/-- The files of the tiers still to come are opened, up to one that cannot be. -/
def openTiers (results : Fin STORE_TIERS → Option StorageBase) (ledger : Ledger)
    (files : HistoryFiles D registry) : List (Fin STORE_TIERS) → Ledger
  | [] => ledger
  | i :: rest =>
    match results i with
    | none => ledger
    | some base =>
      openTiers results (ledger.openTierFile files i base) (files.openTierFile i base) rest

variable [SampleArith CFloat D]

/-- What `try_open_persistence` changes about what is owed; a rebuild changes nothing but the
metrics. -/
def tryOpen (ledger : Ledger) (h : History D) (attempt : Attempt) : Ledger :=
  if (h.files.persists 2).isSome then ledger
  else
    match attempt with
    | .changed registry sampleIntervalS memory next =>
      tryOpen (fun i => { ledger i with rows := (ledger i).rows.map (LedgerRow.carry registry) })
        (History.renew { h with retryTimer := false } registry sampleIntervalS memory) next
    | .opens results => ledger.openTiers results h.files (List.finRange STORE_TIERS)
termination_by structural attempt

/-- One event; a push is owed to each tier it gives a row. -/
def step (ledger : Ledger) (h : History D) : HistoryEvent → Ledger
  | .push timestamp values _ => fun i =>
    let pushed := (tierPush i (h.files.store.tiers i) ⟨timestamp, fun m => values m⟩).2.toList
    { ledger i with rows := (ledger i).rows ++ ledgerRows pushed }
  | .retry attempt => if h.timers = 0 then ledger else ledger.tryOpen h attempt

end Ledger

/-- The history next to its ledgers. -/
abbrev Ledgered (D : Type) := History D × Ledger

section Machine

variable [SampleArith CFloat D]

def ledgeredStep (s : Ledgered D) (event : HistoryEvent) : Option (Ledgered D) :=
  (s.1.step event).map fun h => (h, s.2.step s.1 event)

def ledgeredStart (registry : MetricRegistry) (sampleIntervalS memory : ℕ)
    (disk : Bytes → ByteFile) (attempt : Attempt) : Ledgered D :=
  (History.start registry sampleIntervalS memory disk attempt,
    Ledger.empty.tryOpen (History.boot registry sampleIntervalS memory disk : History D) attempt)

/-- The ledgers only watch. -/
theorem runFrom_ledgeredStep (s : Ledgered D) (events : List HistoryEvent) :
    (runFrom ledgeredStep s events).map Prod.fst = runFrom History.step s.1 events :=
  Lib.map_runFrom Prod.fst (fun s event => by
    rw [ledgeredStep, Option.map_map]
    exact Option.map_id') s events

end Machine

/-- The records of a file are these rows, wherever the header's index stands. -/
def FileHolds (registry : MetricRegistry) (intervalS : ℕ) (file : ByteFile)
    (rows : List (Row CFloat registry.count)) : Prop :=
  ∃ written indexed, OnDisk registry intervalS file written indexed ∧ written.toList = rows

namespace HistoryFiles

/-- Each tier holds the end of what it owes. -/
def Owes (files : HistoryFiles D registry) (ledger : Ledger) : Prop :=
  ∀ i, ledgerRows (tierRows (files.store.tiers i)) =
    (ledger i).rows.rtake (files.store.tiers i).ring.capacity

/-- The open file of a tier holds the rows of the tier. -/
def Synced (files : HistoryFiles D registry) (i : Fin STORE_TIERS) : Prop :=
  ∃ base opened, files.persists i = some opened ∧ opened.path = persistFilePath base i ∧
    FileHolds registry (files.store.tiers i).intervalS (files.disk opened.path)
      (tierRows (files.store.tiers i))

/-- Opening the file of a tier discards no rows that are owed: the file has none, or the tier has none
or is full, or the file is a copy of the tier. -/
def TakesOver (files : HistoryFiles D registry) (ledger : Ledger) (i : Fin STORE_TIERS)
    (base : StorageBase) : Prop :=
  Ledger.saved files i base = [] ∨ tierRows (files.store.tiers i) = [] ∨
    (files.store.tiers i).ring.capacity ≤ (tierRows (files.store.tiers i)).length ∨
    persistFilePath base i ∈ (ledger i).counted

end HistoryFiles

/-- What a reader expects after the events of `done`, once the files are open: the tiers hold what
they owe, and where the last event has opened the files, these hold it too. -/
structure LedgersKept (done : List HistoryEvent) (s : Ledgered D) : Prop where
  tiers : s.1.files.Owes s.2
  files : (∀ event ∈ done.getLast?, ∃ attempt, event = .retry attempt) → ∀ i, s.1.files.Synced i

/-- So it is in every run. -/
def KeepsLedgers [SampleArith CFloat D] (start : Ledgered D) (events : List HistoryEvent) : Prop :=
  ∀ done s, done <+: events → runFrom ledgeredStep start done = some s → AllOpen s.1 →
    LedgersKept done s

/-- Numbers that fit the header of a history file. -/
def Sizes (registry : MetricRegistry) (sampleIntervalS : ℕ) : Prop :=
  registry.count ≤ 100000 ∧ sampleIntervalS < 2 ^ 32

/-- An attempt that discards no rows: a rebuild finds the tiers empty, and every file that is reached
can be taken over. -/
def Harmless [SampleArith CFloat D] (h : History D) (ledger : Ledger) : Attempt → Prop
  | .changed registry sampleIntervalS memory next =>
    Sizes registry sampleIntervalS ∧ (∀ i, tierRows (h.files.store.tiers i) = []) ∧
      Harmless (History.renew { h with retryTimer := false } registry sampleIntervalS memory)
        (fun i => { ledger i with rows := (ledger i).rows.map (LedgerRow.carry registry) }) next
  | .opens results => ∀ i base, (∀ j < i, (results j).isSome) → results i = some base →
    h.files.TakesOver ledger i base

/-- An event that discards no rows. -/
def LosesNothing [SampleArith CFloat D] (s : Ledgered D) : HistoryEvent → Prop
  | .push .. => True
  | .retry attempt => Harmless s.1 s.2 attempt

end AxisMetrics
