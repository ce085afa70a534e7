import AxisMetrics.Collect.Rates
import AxisMetrics.Procs.Scan
import Mathlib.Algebra.Order.Field.Basic

/-!
# The baselines of the processes

What the process table shows after each scan of a run. A process that the scan before read as well
should be shown with its own share of the device, and every other process with zero. The table knows
a process by its pid alone: `scansReport_iff` says between which scans that is enough.
-/

namespace AxisMetrics

open Lib (Bytes ascii guint64 newcomers)

/-- Whether a tick scans. -/
def scanDue (lastScan now : ℤ) : Prop :=
  lastScan = 0 ∨ PROCS_INTERVAL_S * 1000000 ≤ now - lastScan

instance (lastScan now : ℤ) : Decidable (scanDue lastScan now) :=
  inferInstanceAs (Decidable (lastScan = 0 ∨ PROCS_INTERVAL_S * 1000000 ≤ now - lastScan))

/-- The ticks of a run that scan. -/
def scansOf : ℤ → List (ℤ × Machine) → List (ℤ × Machine)
  | _, [] => []
  | lastScan, tick :: run =>
    if scanDue lastScan tick.1 then tick :: scansOf tick.1 run else scansOf lastScan run

/-- The processes after some ticks, with what `sysconf` gives. -/
def procsAfter (ticks pageSize cores : ℤ) (run : List (ℤ × Machine)) : TrackedProcs (Option ℚ) :=
  run.foldl procsTick (procsNew (Option ℚ) ticks pageSize cores)

/-- The share of the device that an increase of the jiffies is. -/
def ownShare (ticksPerSecond cores : ℕ) (elapsed : ℚ) (jiffies jiffies' : ℕ) : ℚ :=
  100 * (((jiffies' : ℚ) - jiffies) / ticksPerSecond) / elapsed / cores

/-- A pid can be used again, but not with the same start time. -/
def SameProcess (r r' : ProcReading) : Prop := r.pid = r'.pid ∧ r.start = r'.start

instance (r r' : ProcReading) : Decidable (SameProcess r r') :=
  inferInstanceAs (Decidable (r.pid = r'.pid ∧ r.start = r'.start))

/-- The table holds exactly the processes that were read. -/
structure Tracks (readings : List ProcReading) (procs : TrackedProcs (Option ℚ)) : Prop where
  pids : (procs.entries.map fun proc => proc.pid).Nodup
  held : ∀ r ∈ readings, ∃ proc ∈ procs.entries, proc.pid = r.pid
  read : ∀ proc ∈ procs.entries, ∃ r ∈ readings, proc.pid = r.pid ∧ proc.name = r.name ∧
    proc.jiffies = r.jiffies ∧ proc.rssBytes = guint64 (r.rssPages * procs.pageSize)

/-- What a scan should leave, given the scan before it. -/
structure ScanReports (prev : Option (ℤ × Machine)) (scan : ℤ × Machine)
    (procs : TrackedProcs (Option ℚ)) : Prop extends Tracks scan.2.procReadings procs where
  own : ∀ last ∈ prev, ∀ r ∈ last.2.procReadings, ∀ r' ∈ scan.2.procReadings, SameProcess r r' →
    ∀ proc ∈ procs.entries, proc.pid = r'.pid → proc.cpuPercent =
      some (ownShare procs.ticksPerSecond procs.cores (secondsBetween last.1 scan.1) r.jiffies
        r'.jiffies)
  zero : ∀ r' ∈ scan.2.procReadings,
    (∀ last ∈ prev, ∀ r ∈ last.2.procReadings, ¬ SameProcess r r') →
    ∀ proc ∈ procs.entries, proc.pid = r'.pid → proc.cpuPercent = some 0

/-- What a scan read, if there was one. -/
def readBefore (prev : Option (ℤ × Machine)) : List ProcReading :=
  prev.elim [] fun last => last.2.procReadings

/-- The readings that the scan before has no process of the same pid for. -/
def newPids (prev : Option (ℤ × Machine)) (scan : ℤ × Machine) : List ProcReading :=
  scan.2.procReadings.filter fun r => r.pid ∉ (readBefore prev).map ProcReading.pid

/-- A scan that the table can follow: there is room for the new processes before the old ones go,
no counter went back, and a process that took over a pid has no share by chance. -/
structure Followed (prev : Option (ℤ × Machine)) (scan : ℤ × Machine)
    (procs : TrackedProcs (Option ℚ)) : Prop where
  opens : scan.2.dirNames (ascii "/proc") = none → readBefore prev = []
  room : (readBefore prev).length + (newPids prev scan).length ≤ PROCS_MAX
  counts : ∀ r ∈ readBefore prev, ∀ r' ∈ scan.2.procReadings, SameProcess r r' →
    r.jiffies ≤ r'.jiffies
  reused : ∀ r ∈ readBefore prev, ∀ r' ∈ scan.2.procReadings, r.pid = r'.pid → r.start ≠ r'.start →
    r'.jiffies = r.jiffies ∨ (r'.jiffies < r.jiffies ∧
      ∀ proc ∈ procs.entries, proc.pid = r'.pid → proc.cpuPercent = some 0)

/-- After every scan of a run the table shows what it should. -/
def ScansReport (ticks pageSize cores : ℤ) (run : List (ℤ × Machine)) : Prop :=
  ∀ done tick, done ++ [tick] <+: scansOf 0 run →
    ScanReports done.getLast? tick (procsAfter ticks pageSize cores (done ++ [tick]))

/-- The table can follow every scan of a run. -/
def ScansFollowed (ticks pageSize cores : ℤ) (run : List (ℤ × Machine)) : Prop :=
  ∀ done tick, done ++ [tick] <+: scansOf 0 run →
    Followed done.getLast? tick (procsAfter ticks pageSize cores done)

-- ════════════════════════════════════════════════════════════════════════
-- Ticks and scans
-- ════════════════════════════════════════════════════════════════════════

section Ticks

variable {T : Type} [DoubleArith T] {procs : TrackedProcs T} {tick : ℤ × Machine} {lastScan : ℤ}

theorem procsTick_early (h : ¬ scanDue procs.lastScan tick.1) : procsTick procs tick = procs := by
  rw [scanDue, not_or, not_le] at h
  exact if_pos h

theorem lastScan_scan (procs : TrackedProcs T) (elapsed : T) (m : Machine) :
    (scan procs elapsed m).lastScan = procs.lastScan := by
  rw [scan]
  split <;> rfl

theorem lastScan_procsTick (h : scanDue procs.lastScan tick.1) :
    (procsTick procs tick).lastScan = tick.1 := by
  rw [procsTick, if_neg, lastScan_scan]
  rw [not_and_or, not_not, not_lt]
  exact h

/-- Only the ticks that scan count. -/
theorem foldl_procsTick (procs : TrackedProcs T) (run : List (ℤ × Machine)) :
    run.foldl procsTick procs = (scansOf procs.lastScan run).foldl procsTick procs := by
  induction run generalizing procs with
  | nil => rfl
  | cons tick run ih =>
    rw [List.foldl_cons, ih, scansOf]
    by_cases hdue : scanDue procs.lastScan tick.1
    · rw [if_pos hdue, List.foldl_cons, lastScan_procsTick hdue]
    · rw [if_neg hdue, procsTick_early hdue]

theorem procsAfter_scansOf (ticks pageSize cores : ℤ) (run : List (ℤ × Machine)) :
    procsAfter ticks pageSize cores run = procsAfter ticks pageSize cores (scansOf 0 run) :=
  foldl_procsTick _ run

/-- Each scan is due after the one before it. -/
theorem isChain_scansOf (lastScan : ℤ) (run : List (ℤ × Machine)) :
    (scansOf lastScan run).IsChain (fun a b => scanDue a.1 b.1) ∧
      ∀ scan ∈ (scansOf lastScan run).head?, scanDue lastScan scan.1 := by
  induction run generalizing lastScan with
  | nil => exact ⟨List.isChain_nil, nofun⟩
  | cons tick run ih =>
    rw [scansOf]
    split
    · next hdue =>
      refine ⟨List.isChain_cons.mpr ⟨(ih tick.1).2, (ih tick.1).1⟩, ?_⟩
      intro scan hscan
      exact Option.some.inj hscan ▸ hdue
    · exact ih lastScan

end Ticks

-- ════════════════════════════════════════════════════════════════════════
-- The share of one process
-- ════════════════════════════════════════════════════════════════════════

section Share

variable {procs : TrackedProcs (Option ℚ)} {proc : TrackedProc (Option ℚ)} {r : ProcReading}
  {elapsed : ℚ} {ticksPerSecond cores jiffies jiffies' : ℕ}

theorem procShare_eq (hticks : 0 < ticksPerSecond) (hcores : 0 < cores) (helapsed : 0 < elapsed)
    (hle : jiffies ≤ jiffies') :
    (procShare ticksPerSecond cores (some elapsed) (jiffies' - jiffies) : Option ℚ) =
      some (ownShare ticksPerSecond cores elapsed jiffies jiffies') := by
  have hdiv : ∀ a b : ℚ, 0 < b → (some a / some b : Option ℚ) = some (a / b) :=
    fun a b hb => if_neg hb.ne'
  have hmul : ∀ a b : ℚ, (some a * some b : Option ℚ) = some (a * b) := fun _ _ => rfl
  change (some ((100 : ℕ) : ℚ) * (some ((jiffies' - jiffies : ℕ) : ℚ) / some (ticksPerSecond : ℚ)) /
    some elapsed / some (cores : ℚ) : Option ℚ) = _
  rw [hdiv _ _ (Nat.cast_pos.mpr hticks), hmul, hdiv _ _ helapsed,
    hdiv _ _ (Nat.cast_pos.mpr hcores), Nat.cast_sub hle, ownShare]
  norm_num

/-- What a reading makes of the share. -/
theorem cpuPercent_updateProc (helapsed : 0 < elapsed) :
    (updateProc procs (some elapsed) r proc).cpuPercent =
      if proc.jiffies ≤ r.jiffies then
        some (ownShare procs.ticksPerSecond procs.cores elapsed proc.jiffies r.jiffies)
      else proc.cpuPercent := by
  have hless : DoubleArith.less ((0 : ℕ) : Option ℚ) (some elapsed) = true :=
    decide_eq_true (by exact_mod_cast helapsed)
  by_cases hle : proc.jiffies ≤ r.jiffies
  · rw [if_pos hle, ← procShare_eq procs.ticks_pos procs.cores_pos helapsed hle]
    refine if_pos ?_
    rw [hless, decide_eq_true hle]
    rfl
  · rw [if_neg hle]
    refine if_neg ?_
    rw [decide_eq_false hle, Bool.and_false]
    exact Bool.false_ne_true

theorem ownShare_eq_zero_iff (hticks : 0 < ticksPerSecond) (hcores : 0 < cores)
    (helapsed : 0 < elapsed) :
    ownShare ticksPerSecond cores elapsed jiffies jiffies' = 0 ↔ jiffies' = jiffies := by
  have hticks' : (ticksPerSecond : ℚ) ≠ 0 := (Nat.cast_pos.mpr hticks).ne'
  have hcores' : (cores : ℚ) ≠ 0 := (Nat.cast_pos.mpr hcores).ne'
  rw [ownShare, div_eq_zero_iff, div_eq_zero_iff, mul_eq_zero, div_eq_zero_iff, sub_eq_zero,
    Nat.cast_inj]
  constructor
  · rintro (((h | h | h) | h) | h)
    · norm_num at h
    · exact h
    · exact absurd h hticks'
    · exact absurd h helapsed.ne'
    · exact absurd h hcores'
  · exact fun h => .inl (.inl (.inr (.inl h)))

theorem ownShare_nonneg (helapsed : 0 ≤ elapsed) (hle : jiffies ≤ jiffies') :
    0 ≤ ownShare ticksPerSecond cores elapsed jiffies jiffies' := by
  have hdiff : (0 : ℚ) ≤ (jiffies' : ℚ) - jiffies := sub_nonneg.mpr (Nat.cast_le.mpr hle)
  exact div_nonneg (div_nonneg (mul_nonneg (by norm_num) (div_nonneg hdiff (Nat.cast_nonneg _)))
    helapsed) (Nat.cast_nonneg _)

theorem ownShare_neg (hticks : 0 < ticksPerSecond) (hcores : 0 < cores) (helapsed : 0 < elapsed)
    (hlt : jiffies' < jiffies) : ownShare ticksPerSecond cores elapsed jiffies jiffies' < 0 := by
  have hdiff : (jiffies' : ℚ) - jiffies < 0 := sub_neg.mpr (Nat.cast_lt.mpr hlt)
  have hticks' : (0 : ℚ) < ticksPerSecond := Nat.cast_pos.mpr hticks
  have hcores' : (0 : ℚ) < cores := Nat.cast_pos.mpr hcores
  rw [ownShare]
  refine div_neg_of_neg_of_pos (div_neg_of_neg_of_pos ?_ helapsed) hcores'
  exact mul_neg_of_pos_of_neg (by norm_num) (div_neg_of_neg_of_pos hdiff hticks')

/-- The share is the process's own where the counter did not go back. -/
theorem cpuPercent_own_iff (helapsed : 0 < elapsed)
    (hnonneg : ∀ q, proc.cpuPercent = some q → 0 ≤ q) :
    (updateProc procs (some elapsed) r proc).cpuPercent =
      some (ownShare procs.ticksPerSecond procs.cores elapsed proc.jiffies r.jiffies) ↔
      proc.jiffies ≤ r.jiffies := by
  rw [cpuPercent_updateProc helapsed]
  by_cases hle : proc.jiffies ≤ r.jiffies
  · rw [if_pos hle]
    exact iff_of_true rfl hle
  · rw [if_neg hle]
    refine iff_of_false (fun heq => ?_) hle
    exact absurd (hnonneg _ heq)
      (ownShare_neg procs.ticks_pos procs.cores_pos helapsed (not_le.mp hle)).not_ge

/-- The share of a process that took over the pid is zero by chance only. -/
theorem cpuPercent_zero_iff (helapsed : 0 < elapsed) :
    (updateProc procs (some elapsed) r proc).cpuPercent = some 0 ↔
      r.jiffies = proc.jiffies ∨ (r.jiffies < proc.jiffies ∧ proc.cpuPercent = some 0) := by
  rw [cpuPercent_updateProc helapsed]
  by_cases hle : proc.jiffies ≤ r.jiffies
  · rw [if_pos hle, Option.some_inj,
      ownShare_eq_zero_iff procs.ticks_pos procs.cores_pos helapsed]
    exact ⟨.inl, fun h => h.resolve_right fun h => absurd h.1 (not_lt.mpr hle)⟩
  · rw [if_neg hle]
    exact ⟨fun h => .inr ⟨not_le.mp hle, h⟩, fun h => (h.resolve_left fun h => hle h.ge).2⟩

end Share

-- ════════════════════════════════════════════════════════════════════════
-- One scan
-- ════════════════════════════════════════════════════════════════════════

section Scan

variable {procs : TrackedProcs (Option ℚ)} {elapsed : Option ℚ} {m : Machine}
  {proc : TrackedProc (Option ℚ)} {r : ProcReading} {readings : List ProcReading}

/-- The entry that a reading is compared with. -/
def TrackedProcs.baseline (procs : TrackedProcs (Option ℚ)) (r : ProcReading) :
    TrackedProc (Option ℚ) :=
  (procs.entries.find? fun proc => proc.pid = r.pid).getD (freshProc r)

theorem upserts_procs (procs : TrackedProcs (Option ℚ)) (elapsed : Option ℚ) :
    Lib.Upserts (fun proc : TrackedProc (Option ℚ) => proc.pid) ProcReading.pid freshProc
      (updateProc procs elapsed) := ⟨fun _ _ => rfl, fun _ => rfl⟩

theorem map_pid_unseen (entries : List (TrackedProc (Option ℚ))) :
    (entries.map fun proc => { proc with seen := false }).map (fun proc => proc.pid) =
      entries.map fun proc => proc.pid := List.map_map

theorem newcomers_unseen (entries : List (TrackedProc (Option ℚ))) (readings : List ProcReading) :
    newcomers (fun proc : TrackedProc (Option ℚ) => proc.pid) ProcReading.pid
        (entries.map fun proc => { proc with seen := false }) readings =
      newcomers (fun proc => proc.pid) ProcReading.pid entries readings := by
  rw [newcomers, map_pid_unseen, newcomers]

/-- A scan that cannot open the directory keeps what is there. -/
theorem entries_scan_none (h : m.dirNames (ascii "/proc") = none) :
    (scan procs elapsed m).entries = procs.entries.map fun proc => { proc with seen := false } := by
  rw [scan]
  split
  · rfl
  · next hsome => rw [h] at hsome; cases hsome

theorem entries_scan_some {names : List Bytes} (h : m.dirNames (ascii "/proc") = some names) :
    (scan procs elapsed m).entries =
      (scanEntries procs elapsed m.procReadings).filter TrackedProc.seen := by
  rw [scan]
  split
  · next hnone => rw [h] at hnone; cases hnone
  · rfl

theorem procReadings_eq_nil (h : m.dirNames (ascii "/proc") = none) : m.procReadings = [] := by
  rw [Machine.procReadings, h]
  rfl

/-- The numbers of the device stay. -/
theorem frame_scan (procs : TrackedProcs (Option ℚ)) (elapsed : Option ℚ) (m : Machine) :
    (scan procs elapsed m).ticksPerSecond = procs.ticksPerSecond ∧
      (scan procs elapsed m).pageSize = procs.pageSize ∧
      (scan procs elapsed m).cores = procs.cores := by
  rw [scan]
  split <;> exact ⟨rfl, rfl, rfl⟩

/-- With distinct pids and room for all, the entries are those of the readings. -/
theorem mem_scan (hpids : (procs.entries.map fun proc => proc.pid).Nodup)
    (honce : (m.procReadings.map ProcReading.pid).Nodup)
    (hopens : m.dirNames (ascii "/proc") = none → procs.entries = [])
    (hroom : procs.entries.length + (newcomers (fun proc => proc.pid) ProcReading.pid procs.entries
      m.procReadings).length ≤ PROCS_MAX) :
    proc ∈ (scan procs elapsed m).entries ↔
      ∃ r ∈ m.procReadings, proc = updateProc procs elapsed r (procs.baseline r) := by
  cases hdir : m.dirNames (ascii "/proc") with
  | none =>
    rw [entries_scan_none hdir, hopens hdir, procReadings_eq_nil hdir]
    simp
  | some names =>
    have hold : ∀ proc ∈ procs.entries.map fun proc => { proc with seen := false },
        proc.seen = false := by
      intro proc hproc
      obtain ⟨_, _, rfl⟩ := List.mem_map.mp hproc
      rfl
    rw [entries_scan_some hdir]
    refine (Lib.mem_filter_foldl_upsert (upserts_procs procs elapsed) (by rwa [map_pid_unseen]) honce
      (by rwa [newcomers_unseen, List.length_map]) (fun _ _ => rfl) hold).trans
      (exists_congr fun r => and_congr_right fun _ => ?_)
    have hfind : (procs.entries.map fun proc => { proc with seen := false }).find?
        (fun proc => proc.pid = r.pid) =
          (procs.entries.find? fun proc => proc.pid = r.pid).map
            fun proc => { proc with seen := false } := List.find?_map
    rw [hfind, TrackedProcs.baseline]
    cases procs.entries.find? fun proc => proc.pid = r.pid <;> rfl

theorem pids_scan (hpids : (procs.entries.map fun proc => proc.pid).Nodup)
    (honce : (m.procReadings.map ProcReading.pid).Nodup)
    (hroom : procs.entries.length + (newcomers (fun proc => proc.pid) ProcReading.pid procs.entries
      m.procReadings).length ≤ PROCS_MAX) :
    ((scan procs elapsed m).entries.map fun proc => proc.pid).Nodup := by
  cases hdir : m.dirNames (ascii "/proc") with
  | none => rwa [entries_scan_none hdir, map_pid_unseen]
  | some names =>
    rw [entries_scan_some hdir]
    refine List.Nodup.sublist (List.filter_sublist.map _) ?_
    rw [scanEntries, Lib.foldl_upsert (upserts_procs procs elapsed) (by rwa [map_pid_unseen]) honce
      (by rwa [newcomers_unseen, List.length_map]), Lib.keys_updated (upserts_procs procs elapsed)]
    exact Lib.nodup_keys_updated (by rwa [map_pid_unseen]) honce

/-- Where each reading has an entry there was room for all. -/
theorem room_of_scan (hpids : (procs.entries.map fun proc => proc.pid).Nodup)
    (honce : (m.procReadings.map ProcReading.pid).Nodup)
    (hheld : ∀ r ∈ m.procReadings, ∃ proc ∈ (scan procs elapsed m).entries, proc.pid = r.pid) :
    procs.entries.length + (newcomers (fun proc => proc.pid) ProcReading.pid procs.entries
      m.procReadings).length ≤ PROCS_MAX := by
  cases hdir : m.dirNames (ascii "/proc") with
  | none =>
    rw [procReadings_eq_nil hdir]
    exact procs.entries_le
  | some names =>
    rw [← newcomers_unseen, ← List.length_map (fun proc : TrackedProc (Option ℚ) =>
      { proc with seen := false })]
    refine Lib.room_of_held (upserts_procs procs elapsed) (by rwa [map_pid_unseen]) honce
      (by rw [List.length_map]; exact procs.entries_le) fun r hr => ?_
    obtain ⟨proc, hproc, hpid⟩ := hheld r hr
    rw [entries_scan_some hdir] at hproc
    exact hpid ▸ List.mem_map_of_mem (List.mem_of_mem_filter hproc)

/-- No share is negative. -/
theorem cpuPercent_nonneg_scan {seconds : ℚ} (hseconds : 0 ≤ seconds)
    (h : ∀ proc ∈ procs.entries, ∀ q, proc.cpuPercent = some q → 0 ≤ q) :
    ∀ proc ∈ (scan procs (some seconds) m).entries, ∀ q, proc.cpuPercent = some q → 0 ≤ q := by
  have hunseen : ∀ proc ∈ procs.entries.map fun proc => { proc with seen := false },
      ∀ q, proc.cpuPercent = some q → 0 ≤ q := by
    intro proc hproc
    obtain ⟨old, hold, rfl⟩ := List.mem_map.mp hproc
    exact h old hold
  cases hdir : m.dirNames (ascii "/proc") with
  | none => rwa [entries_scan_none hdir]
  | some names =>
    rw [entries_scan_some hdir]
    intro proc hproc
    refine Lib.forall_foldl_upsert (p := fun proc => ∀ q, proc.cpuPercent = some q → 0 ≤ q) hunseen
      (fun r old hold q hq => ?_) (fun r q hq => ?_) m.procReadings proc
      (List.mem_of_mem_filter hproc)
    · rcases hseconds.eq_or_lt with rfl | hpos
      · exact hold q hq
      · rw [cpuPercent_updateProc hpos] at hq
        split at hq
        · next hle =>
          rw [← Option.some.inj hq]
          exact ownShare_nonneg hseconds hle
        · exact hold q hq
    · rw [← Option.some.inj hq]
      norm_num

end Scan

-- ════════════════════════════════════════════════════════════════════════
-- A scan after a scan
-- ════════════════════════════════════════════════════════════════════════

/-- What the table knows of the scan before. -/
structure Knows (prev : Option (ℤ × Machine)) (procs : TrackedProcs (Option ℚ)) : Prop where
  tracks : Tracks (readBefore prev) procs
  time : procs.lastScan = prev.elim 0 Prod.fst
  shares : ∀ proc ∈ procs.entries, ∀ q, proc.cpuPercent = some q → 0 ≤ q

section Step

variable {prev : Option (ℤ × Machine)} {tick : ℤ × Machine} {procs : TrackedProcs (Option ℚ)}
  {readings : List ProcReading} {proc : TrackedProc (Option ℚ)} {r r' : ProcReading}

theorem Tracks.mem_pids (h : Tracks readings procs) {pid : ℤ} :
    pid ∈ procs.entries.map (fun proc => proc.pid) ↔ pid ∈ readings.map ProcReading.pid := by
  constructor
  · intro hpid
    obtain ⟨proc, hproc, rfl⟩ := List.mem_map.mp hpid
    obtain ⟨r, hr, hsame, -⟩ := h.read proc hproc
    exact List.mem_map.mpr ⟨r, hr, hsame.symm⟩
  · intro hpid
    obtain ⟨r, hr, rfl⟩ := List.mem_map.mp hpid
    obtain ⟨proc, hproc, hsame⟩ := h.held r hr
    exact List.mem_map.mpr ⟨proc, hproc, hsame⟩

theorem Tracks.length_eq (h : Tracks readings procs)
    (honce : (readings.map ProcReading.pid).Nodup) : procs.entries.length = readings.length := by
  have hperm := (List.perm_ext_iff_of_nodup h.pids honce).mpr fun _ => h.mem_pids
  simpa using hperm.length_eq

theorem Tracks.newcomers_eq (h : Tracks (readBefore prev) procs) :
    newcomers (fun proc => proc.pid) ProcReading.pid procs.entries tick.2.procReadings =
      newPids prev tick :=
  List.filter_congr fun _ _ => decide_eq_decide.mpr (not_congr h.mem_pids)

/-- The entry of a process that was read. -/
theorem Tracks.entry (h : Tracks readings procs) (honce : (readings.map ProcReading.pid).Nodup)
    (hr : r ∈ readings) (hproc : proc ∈ procs.entries) (hpid : proc.pid = r.pid) :
    proc.jiffies = r.jiffies := by
  obtain ⟨r', hr', hsame, -, hjiffies, -⟩ := h.read proc hproc
  rw [hjiffies, List.inj_on_of_nodup_map honce hr' hr (hsame.symm.trans hpid)]

/-- A process that was read before is compared with its entry. -/
theorem baseline_eq (hpids : (procs.entries.map fun proc => proc.pid).Nodup)
    (hproc : proc ∈ procs.entries) (hpid : proc.pid = r.pid) : procs.baseline r = proc := by
  rw [TrackedProcs.baseline, ← hpid, Lib.find?_key hpids hproc]
  rfl

/-- Any other process is compared with itself. -/
theorem baseline_fresh (h : ∀ proc ∈ procs.entries, proc.pid ≠ r.pid) :
    procs.baseline r = freshProc r := by
  rw [TrackedProcs.baseline, List.find?_eq_none.mpr fun proc hproc => by simpa using h proc hproc]
  rfl

theorem pid_baseline (procs : TrackedProcs (Option ℚ)) (r : ProcReading) :
    (procs.baseline r).pid = r.pid := by
  rw [TrackedProcs.baseline]
  cases hfind : procs.entries.find? fun proc => proc.pid = r.pid with
  | none => rfl
  | some proc => simpa using List.find?_some hfind

/-- What the time since the scan before is. -/
def secondsSince (prev : Option (ℤ × Machine)) (now : ℤ) : ℚ :=
  prev.elim 0 fun last => secondsBetween last.1 now

theorem secondsSince_nonneg (prev : Option (ℤ × Machine)) (now : ℤ) : 0 ≤ secondsSince prev now := by
  cases prev with
  | none => exact le_rfl
  | some last => exact div_nonneg (Nat.cast_nonneg _) (by norm_num)

theorem procsTick_eq (h : Knows prev procs)
    (htime : ∀ last ∈ prev, last.1 ≠ 0 ∧ scanDue last.1 tick.1) :
    procsTick procs tick =
      scan { procs with lastScan := tick.1 } (some (secondsSince prev tick.1)) tick.2 := by
  cases prev with
  | none =>
    have hlast : procs.lastScan = 0 := h.time
    rw [procsTick, if_neg (fun hearly => hearly.1 hlast), if_neg (not_not.mpr hlast)]
    rfl
  | some last =>
    obtain ⟨hzero, hdue⟩ := htime last rfl
    have hlast : procs.lastScan = last.1 := h.time
    rw [procsTick, if_neg, if_pos (hlast ▸ hzero), hlast]
    · congr 1
    · rw [hlast]
      exact fun hearly => hdue.elim hzero (not_le.mpr hearly.2)

theorem entries_procsTick (h : Knows prev procs)
    (htime : ∀ last ∈ prev, last.1 ≠ 0 ∧ scanDue last.1 tick.1) : (procsTick procs tick).entries =
      (scan procs (some (secondsSince prev tick.1)) tick.2).entries := by
  rw [procsTick_eq h htime]
  cases hdir : tick.2.dirNames (ascii "/proc") with
  | none => rw [entries_scan_none hdir, entries_scan_none hdir]
  | some names =>
    rw [entries_scan_some hdir, entries_scan_some hdir]
    rfl

theorem frame_procsTick (procs : TrackedProcs (Option ℚ)) (tick : ℤ × Machine) :
    (procsTick procs tick).ticksPerSecond = procs.ticksPerSecond ∧
      (procsTick procs tick).pageSize = procs.pageSize ∧
      (procsTick procs tick).cores = procs.cores := by
  rw [procsTick]
  split
  · exact ⟨rfl, rfl, rfl⟩
  · exact frame_scan _ _ _

/-- Where the directory cannot be opened the table must have been empty. -/
theorem opens_of_tracks (hknows : Knows prev procs)
    (htime : ∀ last ∈ prev, last.1 ≠ 0 ∧ scanDue last.1 tick.1)
    (h : Tracks tick.2.procReadings (procsTick procs tick))
    (hdir : tick.2.dirNames (ascii "/proc") = none) : readBefore prev = [] := by
  refine List.eq_nil_iff_forall_not_mem.mpr fun r hr => ?_
  obtain ⟨proc, hproc, -⟩ := hknows.tracks.held r hr
  have hkept := entries_procsTick hknows htime
  rw [entries_scan_none hdir] at hkept
  obtain ⟨r', hr', -⟩ := h.read _ (hkept ▸ List.mem_map_of_mem hproc)
  rw [procReadings_eq_nil hdir] at hr'
  cases hr'

/-- What the table shows of a process after a scan. -/
def shownAs (prev : Option (ℤ × Machine)) (tick : ℤ × Machine) (procs : TrackedProcs (Option ℚ))
    (r : ProcReading) : TrackedProc (Option ℚ) :=
  updateProc procs (some (secondsSince prev tick.1)) r (procs.baseline r)

section Readings

variable (hknows : Knows prev procs)
  (htime : ∀ last ∈ prev, last.1 ≠ 0 ∧ scanDue last.1 tick.1)
  (hbefore : ((readBefore prev).map ProcReading.pid).Nodup)
  (honce : (tick.2.procReadings.map ProcReading.pid).Nodup)

include hknows htime hbefore honce

theorem mem_procsTick (hopens : tick.2.dirNames (ascii "/proc") = none → readBefore prev = [])
    (hroom : (readBefore prev).length + (newPids prev tick).length ≤ PROCS_MAX) :
    proc ∈ (procsTick procs tick).entries ↔
      ∃ r ∈ tick.2.procReadings, proc = shownAs prev tick procs r := by
  rw [entries_procsTick hknows htime]
  refine mem_scan hknows.tracks.pids honce (fun hdir => ?_) ?_
  · have hlength := hknows.tracks.length_eq hbefore
    rw [hopens hdir] at hlength
    exact List.length_eq_zero_iff.mp hlength
  · rwa [hknows.tracks.length_eq hbefore, hknows.tracks.newcomers_eq]

/-- A table that holds all processes had room for them. -/
theorem room_of_tracks (h : Tracks tick.2.procReadings (procsTick procs tick)) :
    (readBefore prev).length + (newPids prev tick).length ≤ PROCS_MAX := by
  have hheld := h.held
  rw [entries_procsTick hknows htime] at hheld
  have hroom := room_of_scan hknows.tracks.pids honce hheld
  rwa [← hknows.tracks.length_eq hbefore, ← hknows.tracks.newcomers_eq]

/-- With room, the table holds exactly the processes that were read. -/
theorem tracks_procsTick (hopens : tick.2.dirNames (ascii "/proc") = none → readBefore prev = [])
    (hroom : (readBefore prev).length + (newPids prev tick).length ≤ PROCS_MAX) :
    Tracks tick.2.procReadings (procsTick procs tick) where
  pids := by
    rw [entries_procsTick hknows htime]
    refine pids_scan hknows.tracks.pids honce ?_
    rwa [hknows.tracks.length_eq hbefore, hknows.tracks.newcomers_eq]
  held r hr :=
    ⟨_, (mem_procsTick hknows htime hbefore honce hopens hroom).mpr ⟨r, hr, rfl⟩,
      pid_baseline procs r⟩
  read proc hproc := by
    obtain ⟨r, hr, rfl⟩ := (mem_procsTick hknows htime hbefore honce hopens hroom).mp hproc
    refine ⟨r, hr, pid_baseline procs r, rfl, rfl, ?_⟩
    rw [(frame_procsTick procs tick).2.1]
    rfl

/-- The share that the table shows of a process. -/
theorem forall_share_iff (hopens : tick.2.dirNames (ascii "/proc") = none → readBefore prev = [])
    (hroom : (readBefore prev).length + (newPids prev tick).length ≤ PROCS_MAX)
    (hr : r ∈ tick.2.procReadings) (q : ℚ) :
    (∀ proc ∈ (procsTick procs tick).entries, proc.pid = r.pid → proc.cpuPercent = some q) ↔
      (shownAs prev tick procs r).cpuPercent = some q := by
  have hmem : ∀ proc, proc ∈ (procsTick procs tick).entries ↔
      ∃ r ∈ tick.2.procReadings, proc = shownAs prev tick procs r :=
    fun _ => mem_procsTick hknows htime hbefore honce hopens hroom
  constructor
  · exact fun h => h _ ((hmem _).mpr ⟨r, hr, rfl⟩) (pid_baseline procs r)
  · intro h proc hproc hpid
    obtain ⟨r', hr', rfl⟩ := (hmem proc).mp hproc
    rwa [List.inj_on_of_nodup_map honce hr' hr ((pid_baseline procs r').symm.trans hpid)]

end Readings

-- ════════════════════════════════════════════════════════════════════════
-- The share after a scan
-- ════════════════════════════════════════════════════════════════════════

theorem secondsSince_pos (htime : ∀ last ∈ prev, last.1 ≠ 0 ∧ scanDue last.1 tick.1)
    (hr : r ∈ readBefore prev) : 0 < secondsSince prev tick.1 := by
  cases prev with
  | none => cases hr
  | some last =>
    obtain ⟨hzero, hdue⟩ := htime last rfl
    have hlater := hdue.resolve_left hzero
    refine secondsBetween_pos.mpr ?_
    rw [PROCS_INTERVAL_S] at hlater
    omega

/-- The entry that a process is compared with is that of the process with its pid. -/
theorem exists_baseline (hknows : Knows prev procs)
    (hbefore : ((readBefore prev).map ProcReading.pid).Nodup) (hr : r ∈ readBefore prev)
    (hpid : r.pid = r'.pid) : procs.baseline r' ∈ procs.entries ∧
      (procs.baseline r').jiffies = r.jiffies := by
  obtain ⟨proc, hproc, hsame⟩ := hknows.tracks.held r hr
  rw [baseline_eq hknows.tracks.pids hproc (hsame.trans hpid)]
  exact ⟨hproc, hknows.tracks.entry hbefore hr hproc hsame⟩

/-- The process is shown with its own share where the counter did not go back. -/
theorem shown_own_iff (hknows : Knows prev procs)
    (htime : ∀ last ∈ prev, last.1 ≠ 0 ∧ scanDue last.1 tick.1)
    (hbefore : ((readBefore prev).map ProcReading.pid).Nodup) (hr : r ∈ readBefore prev)
    (hpid : r.pid = r'.pid) :
    (shownAs prev tick procs r').cpuPercent = some (ownShare procs.ticksPerSecond procs.cores
      (secondsSince prev tick.1) r.jiffies r'.jiffies) ↔ r.jiffies ≤ r'.jiffies := by
  obtain ⟨hmem, hjiffies⟩ := exists_baseline hknows hbefore hr hpid
  rw [← hjiffies]
  exact cpuPercent_own_iff (secondsSince_pos htime hr) (hknows.shares _ hmem)

/-- Another process is shown with zero where it has as many jiffies, or fewer and the one before it
was shown with zero. -/
theorem shown_zero_iff (hknows : Knows prev procs)
    (htime : ∀ last ∈ prev, last.1 ≠ 0 ∧ scanDue last.1 tick.1)
    (hbefore : ((readBefore prev).map ProcReading.pid).Nodup) (hr : r ∈ readBefore prev)
    (hpid : r.pid = r'.pid) :
    (shownAs prev tick procs r').cpuPercent = some 0 ↔
      r'.jiffies = r.jiffies ∨ (r'.jiffies < r.jiffies ∧
        ∀ proc ∈ procs.entries, proc.pid = r'.pid → proc.cpuPercent = some 0) := by
  obtain ⟨hmem, hjiffies⟩ := exists_baseline hknows hbefore hr hpid
  have hentry : (procs.baseline r').cpuPercent = some 0 ↔
      ∀ proc ∈ procs.entries, proc.pid = r'.pid → proc.cpuPercent = some 0 := by
    constructor
    · intro hzero proc hproc hsame
      rwa [← baseline_eq hknows.tracks.pids hproc hsame]
    · exact fun h => h _ hmem (pid_baseline procs r')
  rw [← hjiffies, ← hentry]
  exact cpuPercent_zero_iff (secondsSince_pos htime hr)

/-- A process with a new pid is shown with zero. -/
theorem shown_new (hknows : Knows prev procs) (h : ∀ r ∈ readBefore prev, r.pid ≠ r'.pid) :
    (shownAs prev tick procs r').cpuPercent = some 0 := by
  have hfresh : ∀ proc ∈ procs.entries, proc.pid ≠ r'.pid := by
    intro proc hproc
    obtain ⟨r, hr, hpid, -⟩ := hknows.tracks.read proc hproc
    exact hpid ▸ h r hr
  rw [shownAs, baseline_fresh hfresh]
  rcases (secondsSince_nonneg prev tick.1).eq_or_lt with hzero | hpos
  · rw [← hzero]
    rfl
  · exact (cpuPercent_zero_iff hpos).mpr (.inl rfl)

/-- After a scan the table shows what it should if and only if it could follow the scan. -/
theorem scanReports_iff (hknows : Knows prev procs)
    (htime : ∀ last ∈ prev, last.1 ≠ 0 ∧ scanDue last.1 tick.1)
    (hbefore : ((readBefore prev).map ProcReading.pid).Nodup)
    (honce : (tick.2.procReadings.map ProcReading.pid).Nodup) :
    ScanReports prev tick (procsTick procs tick) ↔ Followed prev tick procs := by
  obtain ⟨hticks, -, hcores⟩ := frame_procsTick procs tick
  constructor
  · intro h
    have hopens := opens_of_tracks hknows htime h.toTracks
    have hroom := room_of_tracks hknows htime hbefore honce h.toTracks
    refine ⟨hopens, hroom, ?_, ?_⟩
    · intro r hr r' hr' hsame
      refine (shown_own_iff hknows htime hbefore hr hsame.1).mp ?_
      refine (forall_share_iff hknows htime hbefore honce hopens hroom hr' _).mp ?_
      rw [← hticks, ← hcores]
      cases prev with
      | none => cases hr
      | some last => exact h.own last rfl r hr r' hr' hsame
    · intro r hr r' hr' hpid hstart
      refine (shown_zero_iff hknows htime hbefore hr hpid).mp ?_
      refine (forall_share_iff hknows htime hbefore honce hopens hroom hr' _).mp ?_
      refine h.zero r' hr' fun last hlast r'' hr'' hsame => hstart ?_
      obtain rfl := Option.mem_def.mp hlast
      rw [List.inj_on_of_nodup_map hbefore hr hr'' (hpid.trans hsame.1.symm)]
      exact hsame.2
  · intro h
    have hshare := fun r' (hr' : r' ∈ tick.2.procReadings) =>
      forall_share_iff hknows htime hbefore honce h.opens h.room hr'
    refine ⟨tracks_procsTick hknows htime hbefore honce h.opens h.room, ?_, ?_⟩
    · intro last hlast r hr r' hr' hsame
      obtain rfl := Option.mem_def.mp hlast
      rw [hticks, hcores]
      exact (hshare r' hr' _).mpr ((shown_own_iff hknows htime hbefore hr hsame.1).mpr
        (h.counts r hr r' hr' hsame))
    · intro r' hr' hnone
      refine (hshare r' hr' 0).mpr ?_
      by_cases hpid : ∃ r ∈ readBefore prev, r.pid = r'.pid
      · obtain ⟨r, hr, hpid⟩ := hpid
        refine (shown_zero_iff hknows htime hbefore hr hpid).mpr (h.reused r hr r' hr' hpid ?_)
        intro hstart
        cases prev with
        | none => cases hr
        | some last => exact hnone last rfl r hr ⟨hpid, hstart⟩
      · exact shown_new hknows fun r hr hsame => hpid ⟨r, hr, hsame⟩

end Step

-- ════════════════════════════════════════════════════════════════════════
-- A run of ticks
-- ════════════════════════════════════════════════════════════════════════

theorem procsTick_cases (procs : TrackedProcs (Option ℚ)) (tick : ℤ × Machine) :
    procsTick procs tick = procs ∨ ∃ seconds : ℚ, 0 ≤ seconds ∧ procsTick procs tick =
      scan { procs with lastScan := tick.1 } (some seconds) tick.2 := by
  by_cases hearly : procs.lastScan ≠ 0 ∧ tick.1 - procs.lastScan < PROCS_INTERVAL_S * 1000000
  · exact .inl (if_pos hearly)
  · refine .inr ?_
    rw [procsTick, if_neg hearly]
    by_cases hlast : procs.lastScan = 0
    · exact ⟨0, le_rfl, by rw [if_neg (not_not.mpr hlast)]; rfl⟩
    · exact ⟨secondsBetween procs.lastScan tick.1, div_nonneg (Nat.cast_nonneg _) (by norm_num),
        by rw [if_pos hlast]; rfl⟩

theorem procsAfter_append (ticks pageSize cores : ℤ) (done : List (ℤ × Machine))
    (tick : ℤ × Machine) : procsAfter ticks pageSize cores (done ++ [tick]) =
      procsTick (procsAfter ticks pageSize cores done) tick := List.foldl_concat _ _ _ _

section Run

variable {ticks pageSize cores : ℤ} {done scans run : List (ℤ × Machine)} {tick : ℤ × Machine}

/-- No share is negative after any ticks. -/
theorem cpuPercent_nonneg_run (ticks pageSize cores : ℤ) (run : List (ℤ × Machine)) :
    ∀ proc ∈ (procsAfter ticks pageSize cores run).entries,
      ∀ q, proc.cpuPercent = some q → 0 ≤ q := by
  induction run using List.reverseRecOn with
  | nil => exact nofun
  | append_singleton run tick ih =>
    rw [procsAfter_append]
    rcases procsTick_cases (procsAfter ticks pageSize cores run) tick with hsame | ⟨_, hpos, hscan⟩
    · rwa [hsame]
    · rw [hscan]
      exact cpuPercent_nonneg_scan hpos ih

theorem lastScan_procsAfter (hchain : scans.IsChain fun a b => scanDue a.1 b.1) :
    (procsAfter ticks pageSize cores scans).lastScan = scans.getLast?.elim 0 Prod.fst := by
  induction scans using List.reverseRecOn with
  | nil => rfl
  | append_singleton scans tick ih =>
    obtain ⟨hscans, -, hdue⟩ := List.isChain_append.mp hchain
    rw [procsAfter_append, lastScan_procsTick, List.getLast?_concat]
    · rfl
    · rw [ih hscans]
      cases hlast : scans.getLast? with
      | none => exact .inl rfl
      | some last => exact hdue last hlast tick rfl

theorem scansOf_sublist (lastScan : ℤ) (run : List (ℤ × Machine)) :
    (scansOf lastScan run).Sublist run := by
  induction run generalizing lastScan with
  | nil => exact List.Sublist.refl _
  | cons tick run ih =>
    rw [scansOf]
    split
    · exact (ih tick.1).cons_cons tick
    · exact (ih lastScan).cons tick

/-- What the table knows after scans that it shows as it should. -/
theorem knows_procsAfter (hchain : done.IsChain fun a b => scanDue a.1 b.1)
    (h : ∀ before last, done = before ++ [last] → ScanReports before.getLast? last
      (procsAfter ticks pageSize cores done)) :
    Knows done.getLast? (procsAfter ticks pageSize cores done) where
  tracks := by
    rcases List.eq_nil_or_concat done with rfl | ⟨before, last, rfl⟩
    · exact ⟨List.nodup_nil, nofun, nofun⟩
    · rw [List.concat_eq_append] at h ⊢
      rw [List.getLast?_concat]
      exact (h before last rfl).toTracks
  time := lastScan_procsAfter hchain
  shares := cpuPercent_nonneg_run ticks pageSize cores done

/-- In every run of ticks, every scan leaves the table as it should be if and only if the table can
follow every scan. -/
theorem scansReport_iff (ticks pageSize cores : ℤ) (run : List (ℤ × Machine))
    (hclock : ∀ tick ∈ run, 0 < tick.1)
    (htables : ∀ tick ∈ run, (tick.2.procReadings.map ProcReading.pid).Nodup) :
    ScansReport ticks pageSize cores run ↔ ScansFollowed ticks pageSize cores run := by
  have hstep : ∀ done tick, done ++ [tick] <+: scansOf 0 run →
      (∀ before last, done = before ++ [last] → ScanReports before.getLast? last
        (procsAfter ticks pageSize cores done)) →
      (ScanReports done.getLast? tick (procsAfter ticks pageSize cores (done ++ [tick])) ↔
        Followed done.getLast? tick (procsAfter ticks pageSize cores done)) := by
    intro done tick hpart hreports
    have hchain : (done ++ [tick]).IsChain fun a b => scanDue a.1 b.1 := by
      obtain ⟨rest, hrest⟩ := hpart
      exact (List.isChain_append.mp (hrest ▸ (isChain_scansOf 0 run).1)).1
    obtain ⟨hdone, -, hdue⟩ := List.isChain_append.mp hchain
    have hmem : ∀ scan ∈ done ++ [tick], scan ∈ run :=
      fun scan hscan => (scansOf_sublist 0 run).subset (hpart.subset hscan)
    have hlast : ∀ last ∈ done.getLast?, last ∈ run :=
      fun last hlast => hmem last (List.mem_append_left _ (List.mem_of_getLast? hlast))
    rw [procsAfter_append]
    refine scanReports_iff (knows_procsAfter hdone hreports) ?_ ?_
      (htables tick (hmem tick (by simp)))
    · exact fun last hl => ⟨(hclock last (hlast last hl)).ne', hdue last hl tick rfl⟩
    · cases hbefore : done.getLast? with
      | none => exact List.nodup_nil
      | some last => exact htables last (hlast last hbefore)
  constructor
  · intro h done tick hpart
    refine (hstep done tick hpart ?_).mp (h done tick hpart)
    rintro before last rfl
    exact h before last ((List.prefix_append _ _).trans hpart)
  · intro h done
    induction done using List.reverseRecOn with
    | nil =>
      intro tick hpart
      exact (hstep [] tick hpart fun before last hnil => by simp at hnil).mpr (h [] tick hpart)
    | append_singleton done last ih =>
      intro tick hpart
      refine (hstep _ tick hpart ?_).mpr (h _ tick hpart)
      intro before last' hsame
      obtain ⟨rfl, hlast⟩ := List.append_inj' hsame rfl
      obtain rfl : last = last' := by simpa using hlast
      exact ih last ((List.prefix_append _ _).trans hpart)

end Run

/-- A machine with one process, whose pid is 7. -/
def procMachine (stat : String) : Machine where
  file path := if path = ascii "/proc/7/stat" then some (ascii stat) else none
  isDir _ := false
  fileExists _ := false
  dirNames path := if path = ascii "/proc" then some [ascii "7"] else none
  statvfs _ := none
  vapixGet _ := none

def shell : Machine := procMachine "7 (sh) S 1 1 1 0 -1 0 0 0 0 0 300 200 0 0 20 0 1 0 100 0 50"

/-- The same process later. -/
def shellLater : Machine := procMachine "7 (sh) S 1 1 1 0 -1 0 0 0 0 0 400 200 0 0 20 0 1 0 100 0 50"

/-- Another process that took over the pid. -/
def otherShell : Machine :=
  procMachine "7 (sh) S 1 1 1 0 -1 0 0 0 0 0 400 200 0 0 20 0 1 0 10100 0 50"

theorem scansReport_shell : ScansReport 100 4096 1 [(100000000, shell), (110000000, shellLater)] := by
  refine (scansReport_iff 100 4096 1 [(100000000, shell), (110000000, shellLater)] (by decide)
    (by decide)).mpr ?_
  rintro done tick ⟨rest, hrun⟩
  have hscans : scansOf 0 [(100000000, shell), (110000000, shellLater)] =
      [(100000000, shell), (110000000, shellLater)] := rfl
  rw [hscans, List.append_assoc] at hrun
  rcases done with _ | ⟨first, _ | ⟨second, done⟩⟩
  · obtain ⟨rfl, -⟩ := List.cons_eq_cons.mp hrun
    exact ⟨fun _ => rfl, by decide, nofun, nofun⟩
  · obtain ⟨rfl, hrest⟩ := List.cons_eq_cons.mp hrun
    obtain ⟨rfl, -⟩ := List.cons_eq_cons.mp hrest
    exact ⟨nofun, by decide, by decide, by decide⟩
  · have hlength := congrArg List.length hrun
    simp at hlength

/-- The other process is shown with a tenth of the device. -/
theorem not_scansReport_reusedPid :
    ¬ ScansReport 100 4096 1 [(100000000, shell), (110000000, otherShell)] := by
  intro h
  have hzero := (h [(100000000, shell)] (110000000, otherShell) List.prefix_rfl).zero
  have hread : ∃ r ∈ otherShell.procReadings, r.pid = 7 ∧
      ∀ r' ∈ shell.procReadings, ¬ SameProcess r' r := by decide
  obtain ⟨r, hr, hpid, hother⟩ := hread
  have hshown : ∃ proc ∈ (procsAfter 100 4096 1 [(100000000, shell), (110000000, otherShell)]).entries,
      proc.pid = 7 ∧ proc.cpuPercent = some 10 := by decide +kernel
  obtain ⟨proc, hproc, hseven, hshare⟩ := hshown
  have hnone : ∀ last ∈ some ((100000000 : ℤ), shell), ∀ r' ∈ last.2.procReadings,
      ¬ SameProcess r' r := fun last hlast => Option.some.inj hlast ▸ hother
  have hsame := hzero r hr hnone proc hproc (hseven.trans hpid.symm)
  rw [hshare] at hsame
  exact absurd (Option.some.inj hsame) (by norm_num)

end AxisMetrics
