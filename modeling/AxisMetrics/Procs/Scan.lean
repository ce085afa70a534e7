import AxisMetrics.Collect.Sample
import AxisMetrics.Lib.Upsert
import AxisMetrics.Procs

/-!
# Scanning the processes

`procs_tick` reads every process once in ten seconds, and keeps of each what the next scan is
compared with. A process is found again by its pid.
-/

namespace AxisMetrics

open Lib (Bytes ascii cString decimalInt isDigit guint64 scanUnsigned upsert)

def PROCS_MAX : ℕ := 512

/-- `atoi`. -/
def atoi (text : Bytes) : ℤ := (Lib.strtol text + 2 ^ 31) % 2 ^ 32 - 2 ^ 31

/-- A process as it was read. `start` is the time at which it was started, which the code does not
read. -/
structure ProcReading where
  pid : ℤ
  start : Option Bytes
  name : Bytes
  jiffies : ℕ
  rssPages : ℕ
  deriving DecidableEq

/-- `%*s`, `n` times. -/
def skipWords : ℕ → Bytes → Option Bytes
  | 0, text => some text
  | n + 1, text => if Lib.nextWord text = [] then none else skipWords n (Lib.afterWord text)

/-- `read_stat`, of the content of the file. -/
def readStat (pid : ℤ) (content : Bytes) : Option ProcReading :=
  let contents := cString content
  let openParen := (contents.takeWhile (· ≠ 40)).length
  let upToClose := contents.rdropWhile (· ≠ 41)
  if openParen = contents.length ∨ upToClose = [] ∨ upToClose.length - 1 < openParen then none
  else do
    let behind := contents.drop (upToClose.length + 1)
    let rest ← skipWords 11 behind
    let (utime, rest) ← scanUnsigned rest
    let (stime, rest) ← scanUnsigned rest
    let rest ← skipWords 8 rest
    let (rss, _) ← scanUnsigned rest
    pure {
      pid := pid
      start := (Lib.words behind)[19]?
      name := ((contents.take (upToClose.length - 1)).drop (openParen + 1)).take 23
      jiffies := guint64 (utime + stime)
      rssPages := rss }

/-- The processes that can be read, in the order of the directory. -/
def Machine.procReadings (m : Machine) : List ProcReading :=
  ((m.dirNames (ascii "/proc")).getD []).filterMap fun entry =>
    if (entry.head?.any isDigit) = true then
      let pid := atoi entry
      (m.file (Lib.snprintf 64 (ascii "/proc/" ++ decimalInt pid ++ ascii "/stat"))).bind (readStat pid)
    else none

/-- `Proc`. -/
structure TrackedProc (T : Type) extends Proc T where
  jiffies : ℕ
  seen : Bool

/-- `struct Procs`. -/
structure TrackedProcs (T : Type) where
  entries : List (TrackedProc T)
  entries_le : entries.length ≤ PROCS_MAX
  lastScan : ℤ
  ticksPerSecond : ℕ
  ticks_pos : 0 < ticksPerSecond
  pageSize : ℕ
  cores : ℕ
  cores_pos : 0 < cores

/-- What `procs_json` shows. -/
def TrackedProcs.shown {T : Type} (procs : TrackedProcs T) : Procs T where
  entries := procs.entries.map TrackedProc.toProc
  cores := procs.cores

/-- `procs_new`, with what `sysconf` gives. -/
def procsNew (T : Type) (ticks pageSize cores : ℤ) : TrackedProcs T where
  entries := []
  entries_le := Nat.zero_le _
  lastScan := 0
  ticksPerSecond := if ticks ≤ 0 then 100 else ticks.toNat
  ticks_pos := by split <;> omega
  pageSize := if pageSize ≤ 0 then 4096 else pageSize.toNat
  cores := if 0 < cores then cores.toNat else 1
  cores_pos := by split <;> omega

section Scan

variable {T : Type} [DoubleArith T]

/-- The share of the device that a process had. -/
def procShare (ticksPerSecond cores : ℕ) (elapsed : T) (jiffies : ℕ) : T :=
  let seconds : T := ((jiffies : ℕ) : T) / ((ticksPerSecond : ℕ) : T)
  ((100 : ℕ) : T) * seconds / elapsed / ((cores : ℕ) : T)

/-- A process that is not in the table. -/
def freshProc (r : ProcReading) : TrackedProc T where
  pid := r.pid
  name := []
  rssBytes := 0
  cpuPercent := ((0 : ℕ) : T)
  jiffies := r.jiffies
  seen := false

/-- What a reading makes of its entry. -/
def updateProc (procs : TrackedProcs T) (elapsed : T) (r : ProcReading) (proc : TrackedProc T) :
    TrackedProc T where
  pid := proc.pid
  name := r.name
  rssBytes := guint64 (r.rssPages * procs.pageSize)
  cpuPercent :=
    if DoubleArith.less ((0 : ℕ) : T) elapsed && decide (proc.jiffies ≤ r.jiffies) then
      procShare procs.ticksPerSecond procs.cores elapsed (r.jiffies - proc.jiffies)
    else proc.cpuPercent
  jiffies := r.jiffies
  seen := true

/-- The entries after the processes were read. -/
def scanEntries (procs : TrackedProcs T) (elapsed : T) (readings : List ProcReading) :
    List (TrackedProc T) :=
  readings.foldl (upsert (fun proc => proc.pid) ProcReading.pid PROCS_MAX freshProc
    (updateProc procs elapsed)) (procs.entries.map fun proc => { proc with seen := false })

theorem length_scanEntries (procs : TrackedProcs T) (elapsed : T) (readings : List ProcReading) :
    (scanEntries procs elapsed readings).length ≤ PROCS_MAX :=
  Lib.length_foldl_upsert (by rw [List.length_map]; exact procs.entries_le) readings

/-- `scan`. Where the directory cannot be opened nothing is dropped. -/
def scan (procs : TrackedProcs T) (elapsed : T) (m : Machine) : TrackedProcs T :=
  match m.dirNames (ascii "/proc") with
  | none =>
    { procs with
      entries := procs.entries.map fun proc => { proc with seen := false }
      entries_le := by rw [List.length_map]; exact procs.entries_le }
  | some _ =>
    { procs with
      entries := (scanEntries procs elapsed m.procReadings).filter TrackedProc.seen
      entries_le := (List.length_filter_le _ _).trans (length_scanEntries procs elapsed _) }

/-- `procs_tick`. -/
def procsTick (procs : TrackedProcs T) (tick : ℤ × Machine) : TrackedProcs T :=
  if procs.lastScan ≠ 0 ∧ tick.1 - procs.lastScan < PROCS_INTERVAL_S * 1000000 then procs
  else
    let elapsed : T :=
      if procs.lastScan ≠ 0 then
        (((tick.1 - procs.lastScan).toNat : ℕ) : T) / ((1000000 : ℕ) : T)
      else ((0 : ℕ) : T)
    scan { procs with lastScan := tick.1 } elapsed tick.2

end Scan

end AxisMetrics
