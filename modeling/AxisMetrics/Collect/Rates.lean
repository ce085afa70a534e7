import AxisMetrics.Collect.Slots
import AxisMetrics.Lib.Latest

/-!
# Rates

The counters of an interface or a disk are kept from its last reading, and the time from the last
sample. A rate is that of its source as long as the last reading was made in the last sample.
-/

namespace AxisMetrics

open Lib (Bytes ascii scanNumbers latest keyed logOf Continues)

deriving instance DecidableEq for IfaceCounters
deriving instance DecidableEq for DiskCounters

/-- The counter of a rate of an interface. -/
def IfaceMetric.counter : IfaceMetric → Option (IfaceCounters → ℕ)
  | .rxBps => some IfaceCounters.rxBytes
  | .txBps => some IfaceCounters.txBytes
  | .rxPps => some IfaceCounters.rxPkts
  | .txPps => some IfaceCounters.txPkts
  | .rxErr | .txErr | .rxDrop | .txDrop | .link | .up => none

/-- The counter of a rate of a disk, and what is published of it: bytes for sectors, and for the
milliseconds that the disk was busy the percentage of the time. -/
def DiskMetric.counter : DiskMetric → (DiskCounters → ℕ) × (ℚ → ℚ)
  | .readBps => (DiskCounters.readSectors, fun perSecond => perSecond * 512)
  | .writeBps => (DiskCounters.writeSectors, fun perSecond => perSecond * 512)
  | .readIops => (DiskCounters.reads, id)
  | .writeIops => (DiskCounters.writes, id)
  | .util => (DiskCounters.ioMs, fun perSecond => min 100 (perSecond / 10))

/-- The counters in a line of `/proc/net/dev`, behind its colon. -/
def ifaceCounters (rest : Bytes) : IfaceCounters where
  rxBytes := (scanNumbers 12 rest).getD 0 0
  txBytes := (scanNumbers 12 rest).getD 8 0
  rxPkts := (scanNumbers 12 rest).getD 1 0
  txPkts := (scanNumbers 12 rest).getD 9 0

namespace Machine

/-- The interfaces in `/proc/net/dev`, with their counters. -/
def ifaceReads (m : Machine) : List (Bytes × IfaceCounters) :=
  m.ifaceLines.map fun line => (line.1, ifaceCounters line.2)

/-- A line of `/proc/diskstats`: the device, and its counters. -/
def diskRead (line : Bytes) : Option (Bytes × DiskCounters) :=
  (CollectorSlots.scanDiskLine line).map fun scanned => ((diskWord line).getD [], scanned.2)

/-- The disks in `/proc/diskstats`, with their counters. -/
def diskReads (m : Machine) : List (Bytes × DiskCounters) :=
  (m.lines (ascii "/proc/diskstats") 512).filterMap diskRead

end Machine

namespace CollectorSlots

/-- Where the counters of an interface are kept. -/
def ifaceKey (c : CollectorSlots) (name : Bytes) : Option ℕ := (c.findIface name).map Prod.snd

/-- Where the counters of a disk are kept. -/
def diskKey (c : CollectorSlots) (word : Bytes) : Option ℕ :=
  (c.findDisk (word.take 31)).map Prod.snd

end CollectorSlots

/-- Each interface and disk that a sample reads was read in the sample before, and is read once. -/
structure ReadAgain (c : CollectorSlots) (prev later : Machine) : Prop where
  ifaces : ∀ r ∈ later.ifaceReads, c.ifaceKey r.1 ≠ none →
    Continues c.ifaceKey prev.ifaceReads later.ifaceReads r
  disks : ∀ r ∈ later.diskReads, c.diskKey r.1 ≠ none →
    Continues c.diskKey prev.diskReads later.diskReads r

instance (c : CollectorSlots) (prev later : Machine) : Decidable (ReadAgain c prev later) :=
  decidable_of_iff ((∀ r ∈ later.ifaceReads, c.ifaceKey r.1 ≠ none →
      Continues c.ifaceKey prev.ifaceReads later.ifaceReads r) ∧
      ∀ r ∈ later.diskReads, c.diskKey r.1 ≠ none →
        Continues c.diskKey prev.diskReads later.diskReads r)
    ⟨fun h => ⟨h.1, h.2⟩, fun h => ⟨h.1, h.2⟩⟩

/-- The increase of a counter between two readings, in a second. -/
def perSecond (a b : ℤ × ℕ) : ℚ := ((b.2 : ℚ) - a.2) / (((b.1 - a.1 : ℤ) : ℚ) / 1000000)

/-- The value is NaN or the rate between two readings of its source, and NaN if the counter went
backwards at the last one. -/
structure OwnRate (log : List (ℤ × ℕ)) (shape : ℚ → ℚ) (value : Option ℚ) : Prop where
  between : value = none ∨ ∃ a b, [a, b].Sublist log ∧ a.1 < b.1 ∧ a.2 ≤ b.2 ∧
    value = some (shape (perSecond a b))
  backwards : ∀ a b, [a, b] <:+ log → b.2 < a.2 → value = none

/-- The readings of a counter of an interface in some samples. -/
def ifaceLog (counter : IfaceCounters → ℕ) (name : Bytes) (samples : List (ℤ × Machine)) :
    List (ℤ × ℕ) :=
  (logOf name (samples.map fun sample => (sample.1, sample.2.ifaceReads))).map fun r =>
    (r.1, counter r.2)

/-- The readings of a counter of a disk in some samples. -/
def diskLog (counter : DiskCounters → ℕ) (name : Bytes) (samples : List (ℤ × Machine)) :
    List (ℤ × ℕ) :=
  (logOf name (samples.map fun sample => (sample.1, sample.2.diskReads))).map fun r =>
    (r.1, counter r.2)

/-- The last sample is later than the one before. -/
def TimePassed (samples : List (ℤ × Machine)) : Prop := ∃ a b, [a, b] <:+ samples ∧ a.1 < b.1

/-- Each rate that is published in the last of some samples is a rate of its source. How busy a disk
was is asked for over some time only. -/
structure RatesOwn (samples : List (ℤ × Machine)) (writes : List (Write (Option ℚ))) : Prop where
  ifaces : ∀ w ∈ writes, ∀ name q counter, w.source = .iface name q → q.counter = some counter →
    OwnRate (ifaceLog counter name samples) id w.value
  disks : ∀ w ∈ writes, ∀ name q, w.source = .disk name q → (q = .util → TimePassed samples) →
    OwnRate (diskLog q.counter.1 name samples) q.counter.2 w.value

-- ════════════════════════════════════════════════════════════════════════
-- The rate between two readings
-- ════════════════════════════════════════════════════════════════════════

section Rate

variable {log : List (ℤ × ℕ)} {t now : ℤ} {prev cur : ℕ}

/-- The seconds between two times. -/
def secondsBetween (t now : ℤ) : ℚ := ((now - t).toNat : ℚ) / 1000000

theorem secondsBetween_pos : 0 < secondsBetween t now ↔ t < now := by
  have hpos : (0 : ℚ) < (now - t).toNat ↔ t < now := by
    rw [Nat.cast_pos]
    omega
  rw [secondsBetween, lt_div_iff₀ (by norm_num), zero_mul, hpos]

theorem rate_eq (seconds : ℚ) : CollectorSlots.rate cur prev (some seconds : Option ℚ) =
    if 0 < seconds ∧ prev ≤ cur then some (((cur - prev : ℕ) : ℚ) / seconds) else none := by
  by_cases hpos : 0 < seconds
  · by_cases hle : prev ≤ cur
    · have hless : DoubleArith.less (((0 : ℕ) : Option ℚ)) (some seconds) = true :=
        decide_eq_true hpos
      rw [if_pos ⟨hpos, hle⟩, CollectorSlots.rate, hless, decide_eq_false (Nat.not_lt.mpr hle)]
      exact if_neg hpos.ne'
    · rw [if_neg fun h => hle h.2, CollectorSlots.rate, decide_eq_true (Nat.not_le.mp hle),
        Bool.or_true]
      rfl
  · have hless : DoubleArith.less (((0 : ℕ) : Option ℚ)) (some seconds) = false :=
      decide_eq_false hpos
    rw [if_neg fun h => hpos h.1, CollectorSlots.rate, hless]
    rfl

/-- The rate of the last two readings. -/
theorem ownRate_rate (h : [(t, prev), (now, cur)] <:+ log) (shape : ℚ → ℚ) : OwnRate log shape
    ((CollectorSlots.rate cur prev (some (secondsBetween t now) : Option ℚ)).map shape) := by
  rw [rate_eq]
  simp only [secondsBetween_pos]
  refine ⟨?_, fun a b hab hback => ?_⟩
  · by_cases hgrew : t < now ∧ prev ≤ cur
    · refine .inr ⟨(t, prev), (now, cur), h.sublist, hgrew.1, hgrew.2, ?_⟩
      rw [if_pos hgrew, perSecond, secondsBetween, Nat.cast_sub hgrew.2]
      have htime : (((now - t).toNat : ℕ) : ℚ) = ((now - t : ℤ) : ℚ) := by
        exact_mod_cast Int.toNat_of_nonneg (by omega)
      rw [htime]
      rfl
    · exact .inl (by rw [if_neg hgrew]; rfl)
  · have hsame : [a, b] = [(t, prev), (now, cur)] :=
      List.IsSuffix.eq_of_length (List.suffix_of_suffix_length_le hab h le_rfl) rfl
    obtain ⟨rfl, rfl⟩ : a = (t, prev) ∧ b = (now, cur) := by simpa using hsame
    rw [if_neg fun hgrew => Nat.not_lt.mpr hgrew.2 hback]
    rfl

end Rate

-- ════════════════════════════════════════════════════════════════════════
-- Interfaces
-- ════════════════════════════════════════════════════════════════════════

namespace CollectorSlots

variable {c : CollectorSlots} {m : Machine} {seconds : Option ℚ} {first : Bool}
  {s : CollectorState (Option ℚ)} {w : Write (Option ℚ)}

theorem ifaces_sampleIfaceLine (line : Bytes × Bytes) :
    (c.sampleIfaceLine m seconds first s line).1.ifaces =
      latest s.ifaces (keyed c.ifaceKey [(line.1, ifaceCounters line.2)]) := by
  cases hentry : c.findIface line.1 with
  | none => simp [sampleIfaceLine, keyed, ifaceKey, hentry, latest]
  | some entry =>
    simp [sampleIfaceLine, keyed, ifaceKey, hentry, latest, ifaceCounters]

/-- The counters that are kept of interfaces after some lines. -/
theorem ifaces_sampleEach (lines : List (Bytes × Bytes)) :
    (sampleEach (c.sampleIfaceLine m seconds first) s lines).1.ifaces =
      latest s.ifaces (keyed c.ifaceKey (lines.map fun line => (line.1, ifaceCounters line.2))) := by
  induction lines generalizing s with
  | nil => rfl
  | cons line lines ih =>
    rw [sampleEach_cons, ih, ifaces_sampleIfaceLine, ← Lib.latest_append, ← Lib.keyed_append]
    rfl

/-- What a rate in a line is computed from. -/
theorem rate_sampleIfaceLine {line : Bytes × Bytes} {name : Bytes} {q : IfaceMetric}
    {counter : IfaceCounters → ℕ} (hw : w ∈ (c.sampleIfaceLine m seconds first s line).2)
    (hsource : w.source = .iface name q) (hq : q.counter = some counter) :
    first = false ∧ line.1 = name ∧ ∃ i, c.ifaceKey name = some i ∧
      w.value = rate (counter (ifaceCounters line.2)) (counter (s.ifaces i)) seconds := by
  rw [sampleIfaceLine] at hw
  cases hentry : c.findIface line.1 with
  | none =>
    rw [hentry] at hw
    cases hw
  | some entry =>
    have hkey : c.ifaceKey line.1 = some entry.2 := by rw [ifaceKey, hentry]; rfl
    rw [hentry] at hw
    simp only [List.mem_append, List.mem_cons, List.not_mem_nil, or_false] at hw
    rcases hw with (hw | hw) | hw
    · cases first with
      | true => cases hw
      | false =>
        simp only [Bool.false_eq_true, if_false, List.mem_cons, List.not_mem_nil, or_false] at hw
        rcases hw with rfl | rfl | rfl | rfl
        all_goals
          cases hsource
          cases hq
          exact ⟨rfl, rfl, entry.2, hkey, rfl⟩
    · rcases hw with rfl | rfl | rfl | rfl | rfl
      all_goals
        cases hsource
        cases hq
    · split at hw
      · cases hw
      · rw [List.mem_singleton.mp hw] at hsource
        cases hsource
        cases hq

-- ════════════════════════════════════════════════════════════════════════
-- Disks
-- ════════════════════════════════════════════════════════════════════════

/-- A line of `/proc/diskstats` that is read. -/
theorem sampleDiskLine_of_read {line word : Bytes} {counters : DiskCounters}
    (hread : Machine.diskRead line = some (word, counters)) :
    scanDiskLine line = some (word.take 31, counters) ∧
      (Machine.diskWord line).getD [] = word := by
  obtain ⟨⟨name, now⟩, hscan, hpair⟩ := Option.map_eq_some_iff.mp hread
  obtain ⟨whole, hwhole, rfl⟩ := Machine.diskWord_of_scanDiskLine hscan
  rw [hwhole] at hpair ⊢
  obtain ⟨rfl, rfl⟩ := Prod.mk.inj hpair
  exact ⟨hscan, rfl⟩

theorem disks_sampleDiskLine (line : Bytes) :
    (c.sampleDiskLine seconds first s line).1.disks =
      latest s.disks (keyed c.diskKey (Machine.diskRead line).toList) := by
  cases hread : Machine.diskRead line with
  | none => simp [sampleDiskLine, Option.map_eq_none_iff.mp hread, keyed, latest]
  | some read =>
    obtain ⟨hscan, -⟩ := sampleDiskLine_of_read hread
    cases hentry : c.findDisk (read.1.take 31) with
    | none => simp [sampleDiskLine, hscan, hentry, keyed, diskKey, latest]
    | some entry => simp [sampleDiskLine, hscan, hentry, keyed, diskKey, latest]

/-- The counters that are kept of disks after some lines. -/
theorem disks_sampleEach (lines : List Bytes) :
    (sampleEach (c.sampleDiskLine seconds first) s lines).1.disks =
      latest s.disks (keyed c.diskKey (lines.filterMap Machine.diskRead)) := by
  induction lines generalizing s with
  | nil => rfl
  | cons line lines ih =>
    have hsplit : (line :: lines).filterMap Machine.diskRead =
        (Machine.diskRead line).toList ++ lines.filterMap Machine.diskRead := by
      cases hread : Machine.diskRead line <;> simp [hread]
    rw [sampleEach_cons, ih, disks_sampleDiskLine, ← Lib.latest_append, ← Lib.keyed_append, hsplit]

/-- How busy a disk was, over some time. -/
theorem util_eq {σ : ℚ} (hσ : 0 < σ) (now prev : ℕ) :
    (if DoubleArith.isnan (rate now prev ((1 : ℕ) : Option ℚ)) then DoubleArith.nan
      else if DoubleArith.less ((100 : ℕ) : Option ℚ)
          (rate now prev ((1 : ℕ) : Option ℚ) / (some σ * ((10 : ℕ) : Option ℚ)))
        then ((100 : ℕ) : Option ℚ)
        else rate now prev ((1 : ℕ) : Option ℚ) / (some σ * ((10 : ℕ) : Option ℚ))) =
      (rate now prev (some σ : Option ℚ)).map DiskMetric.util.counter.2 := by
  by_cases hle : prev ≤ now
  · have hbusy : rate now prev ((1 : ℕ) : Option ℚ) = some ((now - prev : ℕ) : ℚ) := by
      rw [show ((1 : ℕ) : Option ℚ) = some 1 from rfl, rate_eq, if_pos ⟨one_pos, hle⟩, div_one]
    have hquotient : (some ((now - prev : ℕ) : ℚ) / (some σ * ((10 : ℕ) : Option ℚ)) : Option ℚ) =
        some (((now - prev : ℕ) : ℚ) / σ / 10) := by
      have hne : σ * 10 ≠ 0 := by positivity
      rw [div_div]
      exact if_neg hne
    have hrate : rate now prev (some σ : Option ℚ) = some (((now - prev : ℕ) : ℚ) / σ) := by
      rw [rate_eq, if_pos ⟨hσ, hle⟩]
    rw [hbusy, hquotient, hrate]
    refine (if_neg Bool.false_ne_true).trans ?_
    rcases lt_or_ge (100 : ℚ) (((now - prev : ℕ) : ℚ) / σ / 10) with hover | hunder
    · refine (if_pos (decide_eq_true hover)).trans ?_
      exact congrArg some (min_eq_left hover.le).symm
    · refine (if_neg fun h => absurd (of_decide_eq_true h) (not_lt.mpr hunder)).trans ?_
      exact congrArg some (min_eq_right hunder).symm
  · have hnone : ∀ seconds : ℚ, rate now prev (some seconds : Option ℚ) = none := fun seconds => by
      rw [rate_eq, if_neg fun h => hle h.2]
    rw [show ((1 : ℕ) : Option ℚ) = some 1 from rfl, hnone, hnone]
    rfl

theorem bytes_eq (value : Option ℚ) :
    value * ((512 : ℕ) : Option ℚ) = value.map DiskMetric.readBps.counter.2 := by
  cases value <;> rfl

/-- What a value in a line is computed from. -/
theorem rate_sampleDiskLine {line name : Bytes} {q : DiskMetric} {σ : ℚ}
    (hw : w ∈ (c.sampleDiskLine (some σ) first s line).2) (hsource : w.source = .disk name q)
    (hutil : q = .util → first = false → 0 < σ) :
    first = false ∧ ∃ counters i, Machine.diskRead line = some (name, counters) ∧
      c.diskKey name = some i ∧
      w.value = (rate (q.counter.1 counters) (q.counter.1 (s.disks i)) (some σ)).map
        q.counter.2 := by
  rw [sampleDiskLine] at hw
  cases hread : Machine.diskRead line with
  | none =>
    rw [Option.map_eq_none_iff.mp hread] at hw
    cases hw
  | some read =>
    obtain ⟨word, counters⟩ := read
    obtain ⟨hscan, hword⟩ := sampleDiskLine_of_read hread
    rw [hscan, hword] at hw
    dsimp only at hw
    cases hentry : c.findDisk (word.take 31) with
    | none =>
      rw [hentry] at hw
      cases hw
    | some entry =>
      have hkey : c.diskKey word = some entry.2 := by rw [diskKey, hentry]; rfl
      rw [hentry] at hw
      cases first with
      | true => cases hw
      | false =>
        simp only [Bool.false_eq_true, if_false, List.mem_cons, List.not_mem_nil, or_false] at hw
        rcases hw with rfl | rfl | rfl | rfl | rfl
        · cases hsource
          exact ⟨rfl, counters, entry.2, rfl, hkey, bytes_eq _⟩
        · cases hsource
          exact ⟨rfl, counters, entry.2, rfl, hkey, bytes_eq _⟩
        · cases hsource
          exact ⟨rfl, counters, entry.2, rfl, hkey, Option.map_id.symm ▸ rfl⟩
        · cases hsource
          exact ⟨rfl, counters, entry.2, rfl, hkey, Option.map_id.symm ▸ rfl⟩
        · cases hsource
          exact ⟨rfl, counters, entry.2, rfl, hkey, util_eq (hutil rfl rfl) _ _⟩

-- ════════════════════════════════════════════════════════════════════════
-- A sample
-- ════════════════════════════════════════════════════════════════════════

/-- A source with rates: an interface or a disk. -/
def hasRates : Source → Bool
  | .iface _ _ | .disk _ _ => true
  | _ => false

theorem hasRates_cpu (hw : w ∈ (c.sampleCpu m seconds first s).2) : hasRates w.source = false := by
  rw [sampleCpu] at hw
  split at hw
  · cases hw
  · dsimp only at hw
    rcases List.mem_append.mp hw with hw | hw
    · rcases List.mem_append.mp hw with hw | hw
      · obtain ⟨line, -, s', hw⟩ := mem_sampleEach hw
        rw [sampleStatLine] at hw
        split at hw
        · split at hw
          · cases hw
          · rw [List.mem_singleton.mp hw]
            rfl
        · split at hw
          · rw [List.mem_singleton.mp hw]
            rfl
          · split at hw
            · cases hw
            · next cpu _ =>
              cases cpu with
              | core core rest =>
                rw [List.mem_singleton.mp hw]
                rfl
              | aggregate rest =>
                simp only [sampleCpuLine, List.mem_cons] at hw
                rcases hw with rfl | hw
                · rfl
                · split at hw
                  · simp only [List.mem_cons, List.not_mem_nil, or_false] at hw
                    rcases hw with rfl | rfl | rfl | rfl | rfl <;> rfl
                  · cases hw
      · obtain ⟨freq, -, rfl⟩ := List.mem_map.mp hw
        rfl
    · rw [List.mem_singleton.mp hw]
      rfl

theorem hasRates_memory (hw : w ∈ (c.sampleMemory m : List (Write (Option ℚ)))) :
    hasRates w.source = false := by
  rw [sampleMemory] at hw
  split at hw
  · cases hw
  · simp only [List.mem_cons, List.not_mem_nil, or_false] at hw
    rcases hw with rfl | rfl | rfl | rfl | rfl | rfl | rfl | rfl | rfl | rfl <;> rfl

theorem hasRates_system (hw : w ∈ (c.sampleSystem m : List (Write (Option ℚ)))) :
    hasRates w.source = false := by
  rw [sampleSystem] at hw
  rcases List.mem_append.mp hw with hw | hw
  · split at hw
    · cases hw
    · simp only [List.mem_cons, List.not_mem_nil, or_false] at hw
      rcases hw with rfl | rfl | rfl | rfl <;> rfl
  · rcases List.mem_cons.mp hw with rfl | hw
    · rfl
    · obtain ⟨line, -, hw⟩ := List.mem_flatMap.mp hw
      simp only [sampleSockLine] at hw
      repeat' split at hw
      all_goals first
        | cases hw; done
        | rw [List.mem_singleton.mp hw]; rfl

theorem source_sampleIfaceLine {line : Bytes × Bytes}
    (hw : w ∈ (c.sampleIfaceLine m seconds first s line).2) : ∃ q, w.source = .iface line.1 q := by
  rw [sampleIfaceLine] at hw
  split at hw
  · cases hw
  · simp only [List.mem_append, List.mem_cons, List.not_mem_nil, or_false] at hw
    rcases hw with (hw | rfl | rfl | rfl | rfl | rfl) | hw
    · split at hw
      · cases hw
      · simp only [List.mem_cons, List.not_mem_nil, or_false] at hw
        rcases hw with rfl | rfl | rfl | rfl
        all_goals exact ⟨_, rfl⟩
    all_goals try exact ⟨_, rfl⟩
    split at hw
    · cases hw
    · rw [List.mem_singleton.mp hw]
      exact ⟨_, rfl⟩

theorem source_sampleDiskLine {line : Bytes} (hw : w ∈ (c.sampleDiskLine seconds first s line).2) :
    ∃ name q, w.source = .disk name q := by
  rw [sampleDiskLine] at hw
  split at hw
  · cases hw
  · dsimp only at hw
    split at hw
    · cases hw
    · split at hw
      · cases hw
      · simp only [List.mem_cons, List.not_mem_nil, or_false] at hw
        rcases hw with rfl | rfl | rfl | rfl | rfl
        all_goals exact ⟨_, _, rfl⟩

/-- The writes of a sample that are about interfaces and disks. -/
theorem mem_values_of_hasRates {now : ℤ} (hw : w ∈ (c.sampleReadings now m s).2.values)
    (hsource : hasRates w.source = true) :
    w ∈ (c.sampleIfaces m (elapsed s now) (decide (s.prevUs = 0)) (c.afterCpu m s now)).2 ∨
      w ∈ (c.sampleDisks m (elapsed s now) (decide (s.prevUs = 0)) (c.afterIfaces m s now)).2 := by
  have hnot : hasRates w.source ≠ false := by rw [hsource]; exact nofun
  rw [sampleReadings] at hw
  simp only [List.mem_append] at hw
  rcases hw with (((((hw | hw) | hw) | hw) | hw) | hw) | hw
  · exact absurd (hasRates_cpu hw) hnot
  · exact absurd (hasRates_memory hw) hnot
  · exact absurd (hasRates_system hw) hnot
  · obtain ⟨zone, -, rfl⟩ := List.mem_map.mp hw
    exact absurd rfl hnot
  · exact .inl hw
  · exact .inr hw
  · obtain ⟨mount, -, hw⟩ := List.mem_flatMap.mp hw
    obtain ⟨q, -, rfl⟩ := List.mem_map.mp hw
    exact absurd rfl hnot

/-- What a sample keeps of interfaces and disks. -/
theorem kept_sampleReadings (c : CollectorSlots) (now : ℤ) (m : Machine)
    (s : CollectorState (Option ℚ)) :
    (c.sampleReadings now m s).1.ifaces = latest s.ifaces (keyed c.ifaceKey m.ifaceReads) ∧
      (c.sampleReadings now m s).1.disks = latest s.disks (keyed c.diskKey m.diskReads) := by
  obtain ⟨hifaces, hdisks⟩ : (c.afterCpu m s now).ifaces = s.ifaces ∧
      (c.afterCpu m s now).disks = s.disks := c.sampleCpu_frame m _ _ s
  have hdisks' : (c.afterIfaces m s now).disks = (c.afterCpu m s now).disks :=
    (c.sampleIfaces_frame m _ _ (c.afterCpu m s now)).2.2
  have hifaces' : (c.sampleReadings now m s).1.ifaces = (c.afterIfaces m s now).ifaces :=
    (c.sampleDisks_frame m _ _ (c.afterIfaces m s now)).2.2
  constructor
  · rw [hifaces', ← hifaces]
    exact ifaces_sampleEach _
  · rw [← hdisks, ← hdisks']
    exact disks_sampleEach _

theorem elapsed_eq {now : ℤ} (h : s.prevUs ≠ 0) :
    (elapsed s now : Option ℚ) = some (secondsBetween s.prevUs now) := by
  rw [elapsed, decide_eq_false h]
  exact if_neg (by norm_num)

/-- A rate of an interface in a sample. -/
theorem exists_ifaceRate {now : ℤ} {name : Bytes} {q : IfaceMetric} {counter : IfaceCounters → ℕ}
    (hw : w ∈ (c.sampleReadings now m s).2.values) (hsource : w.source = .iface name q)
    (hq : q.counter = some counter) :
    s.prevUs ≠ 0 ∧ ∃ pre counters post i, m.ifaceReads = pre ++ (name, counters) :: post ∧
      c.ifaceKey name = some i ∧ w.value = rate (counter counters)
        (counter (latest s.ifaces (keyed c.ifaceKey pre) i))
          (some (secondsBetween s.prevUs now)) := by
  rcases mem_values_of_hasRates hw (by rw [hsource]; rfl) with hw | hw
  · obtain ⟨pre, line, post, hlines, hw⟩ := mem_sampleEach_split hw
    obtain ⟨hfirst, rfl, i, hkey, hvalue⟩ := rate_sampleIfaceLine hw hsource hq
    have hifaces : (c.afterCpu m s now).ifaces = s.ifaces := (c.sampleCpu_frame m _ _ s).1
    rw [ifaces_sampleEach, hifaces, elapsed_eq (of_decide_eq_false hfirst)] at hvalue
    refine ⟨of_decide_eq_false hfirst, _, ifaceCounters line.2,
      post.map fun line => (line.1, ifaceCounters line.2), i, ?_, hkey, hvalue⟩
    rw [Machine.ifaceReads, hlines, List.map_append, List.map_cons]
  · obtain ⟨line, -, s', hw⟩ := mem_sampleEach hw
    obtain ⟨name', q', hdisk⟩ := source_sampleDiskLine hw
    rw [hsource] at hdisk
    cases hdisk

/-- A rate of a disk in a sample. -/
theorem exists_diskRate {now : ℤ} {name : Bytes} {q : DiskMetric}
    (hw : w ∈ (c.sampleReadings now m s).2.values) (hsource : w.source = .disk name q)
    (hutil : q = .util → s.prevUs < now) :
    s.prevUs ≠ 0 ∧ ∃ pre counters post i, m.diskReads = pre ++ (name, counters) :: post ∧
      c.diskKey name = some i ∧ w.value = (rate (q.counter.1 counters)
        (q.counter.1 (latest s.disks (keyed c.diskKey pre) i))
          (some (secondsBetween s.prevUs now))).map q.counter.2 := by
  rcases mem_values_of_hasRates hw (by rw [hsource]; rfl) with hw | hw
  · obtain ⟨line, -, s', hw⟩ := mem_sampleEach hw
    obtain ⟨q', hiface⟩ := source_sampleIfaceLine hw
    rw [hsource] at hiface
    cases hiface
  · obtain ⟨pre, line, post, hlines, hw⟩ := mem_sampleEach_split hw
    by_cases hzero : s.prevUs = 0
    · rw [elapsed, if_pos (decide_eq_true hzero)] at hw
      obtain ⟨hfirst, -⟩ := rate_sampleDiskLine (σ := 0) (q := q) hw hsource
        (fun _ h => absurd hzero (of_decide_eq_false h))
      exact absurd hzero (of_decide_eq_false hfirst)
    · rw [elapsed_eq hzero] at hw
      obtain ⟨-, counters, i, hread, hkey, hvalue⟩ := rate_sampleDiskLine hw hsource
        fun hq _ => secondsBetween_pos.mpr (hutil hq)
      have hdisks : (c.afterIfaces m s now).disks = s.disks :=
        (c.sampleIfaces_frame m _ _ (c.afterCpu m s now)).2.2.trans (c.sampleCpu_frame m _ _ s).2
      rw [disks_sampleEach, hdisks] at hvalue
      refine ⟨hzero, _, counters, post.filterMap Machine.diskRead, i, ?_, hkey, hvalue⟩
      rw [Machine.diskReads, hlines, List.filterMap_append, List.filterMap_cons_some hread]

end CollectorSlots

-- ════════════════════════════════════════════════════════════════════════
-- A run of samples
-- ════════════════════════════════════════════════════════════════════════

/-- What a collector publishes in a sample after a run. -/
def publishedAfter (found : Machine) (run : List (ℤ × Machine)) (now : ℤ) (later : Machine) :
    List (Write (Option ℚ)) :=
  ((collectorAfter (Option ℚ) found run).slots.sampleReadings now later
    (collectorAfter (Option ℚ) found run).state).2.values

section Run

variable {found prev later : Machine} {before : List (ℤ × Machine)} {t now : ℤ}

/-- What a sample leaves for the next one. -/
theorem state_after_sample (found prev : Machine) (before : List (ℤ × Machine)) (t : ℤ) :
    (collectorAfter (Option ℚ) found (before ++ [(t, prev)])).state.prevUs = t ∧
      (collectorAfter (Option ℚ) found (before ++ [(t, prev)])).state.ifaces =
        latest (collectorAfter (Option ℚ) found before).state.ifaces
          (keyed (CollectorSlots.discover found).ifaceKey prev.ifaceReads) ∧
      (collectorAfter (Option ℚ) found (before ++ [(t, prev)])).state.disks =
        latest (collectorAfter (Option ℚ) found before).state.disks
          (keyed (CollectorSlots.discover found).diskKey prev.diskReads) := by
  obtain ⟨hifaces, hdisks⟩ := CollectorSlots.kept_sampleReadings
    (collectorAfter (Option ℚ) found before).slots t prev
    (collectorAfter (Option ℚ) found before).state
  rw [state_collectorAfter_append, ← slots_collectorAfter (V := Option ℚ) found before]
  exact ⟨rfl, hifaces, hdisks⟩

/-- A sample that reads what the one before read. -/
theorem ratesOwn_of_readAgain (h : t = 0 ∨ ReadAgain (CollectorSlots.discover found) prev later) :
    RatesOwn (before ++ [(t, prev), (now, later)])
      (publishedAfter found (before ++ [(t, prev)]) now later) := by
  obtain ⟨htime, hifaces, hdisks⟩ := state_after_sample found prev before t
  constructor
  · intro w hw name q counter hsource hq
    obtain ⟨hnotFirst, pre, counters, post, i, hreads, hkey, hvalue⟩ :=
      CollectorSlots.exists_ifaceRate hw hsource hq
    rw [htime] at hnotFirst hvalue
    rw [slots_collectorAfter] at hkey hvalue
    have hagain := h.resolve_left hnotFirst
    have hcontinues := hagain.ifaces (name, counters) (by rw [hreads]; simp)
      (by rw [hkey]; exact nofun)
    obtain ⟨c, hbase, hlog⟩ := hcontinues.baseline hkey hreads
      (collectorAfter (Option ℚ) found before).state.ifaces
      (before.map fun sample => (sample.1, sample.2.ifaceReads)) t now
    have hsuffix : [(t, counter c), (now, counter counters)] <:+
        ifaceLog counter name (before ++ [(t, prev), (now, later)]) := by
      rw [ifaceLog, List.map_append]
      exact hlog.map fun r => (r.1, counter r.2)
    rw [hvalue, hifaces, hbase]
    have hown := ownRate_rate hsuffix id
    rwa [Option.map_id] at hown
  · intro w hw name q hsource hutil
    have hlater : q = .util → (collectorAfter (Option ℚ) found
        (before ++ [(t, prev)])).state.prevUs < now := by
      intro hq
      obtain ⟨a, b, hsuffix, hlt⟩ := hutil hq
      have hsame := List.IsSuffix.eq_of_length (List.suffix_of_suffix_length_le hsuffix
        (List.suffix_append before [(t, prev), (now, later)]) le_rfl) rfl
      obtain ⟨rfl, rfl⟩ : a = (t, prev) ∧ b = (now, later) := by simpa using hsame
      rw [htime]
      exact hlt
    obtain ⟨hnotFirst, pre, counters, post, i, hreads, hkey, hvalue⟩ :=
      CollectorSlots.exists_diskRate hw hsource hlater
    rw [htime] at hnotFirst hvalue
    rw [slots_collectorAfter] at hkey hvalue
    have hagain := h.resolve_left hnotFirst
    have hcontinues := hagain.disks (name, counters) (by rw [hreads]; simp)
      (by rw [hkey]; exact nofun)
    obtain ⟨c, hbase, hlog⟩ := hcontinues.baseline hkey hreads
      (collectorAfter (Option ℚ) found before).state.disks
      (before.map fun sample => (sample.1, sample.2.diskReads)) t now
    have hsuffix : [(t, q.counter.1 c), (now, q.counter.1 counters)] <:+
        diskLog q.counter.1 name (before ++ [(t, prev), (now, later)]) := by
      rw [diskLog, List.map_append]
      exact hlog.map fun r => (r.1, q.counter.1 r.2)
    rw [hvalue, hdisks, hbase]
    exact ownRate_rate hsuffix q.counter.2

/-- The first sample publishes no rates. -/
theorem ratesOwn_nil : RatesOwn [(now, later)] (publishedAfter found [] now later) where
  ifaces _ hw _ _ _ hsource hq := absurd rfl (CollectorSlots.exists_ifaceRate hw hsource hq).1
  disks w hw name q hsource hutil := by
    have hnone : ¬ TimePassed [(now, later)] := by
      rintro ⟨a, b, hsuffix, -⟩
      exact absurd hsuffix.length_le (by simp)
    have hq : q ≠ .util := fun hq => hnone (hutil hq)
    exact absurd rfl (CollectorSlots.exists_diskRate hw hsource fun h => absurd h hq).1

end Run

/-- In a run in which each interface and disk that a sample reads was read in the sample before, and
is read once, every rate that is published is one of its source. -/
theorem ratesOwn_run (found : Machine) (run : List (ℤ × Machine))
    (h : run.IsChain fun a b => a.1 = 0 ∨ ReadAgain (CollectorSlots.discover found) a.2 b.2) :
    ∀ done now later, done ++ [(now, later)] <+: run →
      RatesOwn (done ++ [(now, later)]) (publishedAfter found done now later) := by
  rintro done now later ⟨rest, rfl⟩
  rcases List.eq_nil_or_concat done with rfl | ⟨before, ⟨t, prev⟩, rfl⟩
  · exact ratesOwn_nil
  · have hagain := (List.isChain_append.mp (List.isChain_append.mp h).1).2.2 (t, prev)
      (by simp) (now, later) (by simp)
    rw [List.concat_eq_append, List.append_assoc]
    exact ratesOwn_of_readAgain hagain

/-- While an interface is missing its counters stay. -/
theorem ifaces_over_gap {found : Machine} {i : ℕ} (before gap : List (ℤ × Machine))
    (hgap : ∀ sample ∈ gap, ∀ r ∈ sample.2.ifaceReads,
      (CollectorSlots.discover found).ifaceKey r.1 ≠ some i) :
    (collectorAfter (Option ℚ) found (before ++ gap)).state.ifaces i =
      (collectorAfter (Option ℚ) found before).state.ifaces i := by
  induction gap using List.reverseRecOn with
  | nil => rw [List.append_nil]
  | append_singleton gap sample ih =>
    obtain ⟨hold, hlast⟩ := List.forall_mem_append.mp hgap
    rw [← List.append_assoc, (state_after_sample found _ _ _).2.1, Lib.latest_of_notMem, ih hold]
    intro read hread hi
    obtain ⟨r, hr, hkeyed⟩ := List.mem_filterMap.mp hread
    obtain ⟨k, hk, rfl⟩ := Option.map_eq_some_iff.mp hkeyed
    obtain rfl : k = i := hi
    exact hlast sample (List.mem_singleton.mpr rfl) r hr hk

/-- An interface that comes back is given its increase over the whole gap, in the time of the last
sample. -/
theorem ifaceRate_after_gap {found later : Machine} {before gap : List (ℤ × Machine)} {t now : ℤ}
    {missing : Machine} {w : Write (Option ℚ)} {name : Bytes} {q : IfaceMetric}
    {counter : IfaceCounters → ℕ} {i : ℕ}
    (hw : w ∈ publishedAfter found (before ++ (gap ++ [(t, missing)])) now later)
    (hsource : w.source = .iface name q) (hq : q.counter = some counter)
    (hkey : (CollectorSlots.discover found).ifaceKey name = some i)
    (hgap : ∀ sample ∈ gap ++ [(t, missing)], ∀ r ∈ sample.2.ifaceReads,
      (CollectorSlots.discover found).ifaceKey r.1 ≠ some i)
    (halone : ∀ pre r post, later.ifaceReads = pre ++ r :: post → r.1 = name →
      ∀ r' ∈ pre, (CollectorSlots.discover found).ifaceKey r'.1 ≠ some i) :
    ∃ counters, (name, counters) ∈ later.ifaceReads ∧ w.value =
      CollectorSlots.rate (counter counters)
        (counter ((collectorAfter (Option ℚ) found before).state.ifaces i))
        (some (secondsBetween t now)) := by
  obtain ⟨-, pre, counters, post, i', hreads, hkey', hvalue⟩ :=
    CollectorSlots.exists_ifaceRate hw hsource hq
  rw [slots_collectorAfter] at hkey' hvalue
  obtain rfl : i = i' := Option.some.inj (hkey.symm.trans hkey')
  have htime : (collectorAfter (Option ℚ) found (before ++ (gap ++ [(t, missing)]))).state.prevUs =
      t := by
    rw [← List.append_assoc]
    exact (state_after_sample found _ _ _).1
  refine ⟨counters, by rw [hreads]; simp, ?_⟩
  rw [hvalue, htime, Lib.latest_of_notMem, ifaces_over_gap before _ hgap]
  intro read hread hi
  obtain ⟨r, hr, hkeyed⟩ := List.mem_filterMap.mp hread
  obtain ⟨k, hk, rfl⟩ := Option.map_eq_some_iff.mp hkeyed
  obtain rfl : k = i := hi
  exact halone pre (name, counters) post hreads rfl r hr hk

/-- A machine with nothing to read but the interfaces. -/
def netMachine (lines : String) : Machine where
  file path := if path = ascii "/proc/net/dev" then some (ascii "Inter-|\n face |\n" ++ ascii lines)
    else none
  isDir _ := false
  fileExists _ := false
  dirNames _ := none
  statvfs _ := none
  vapixGet _ := none

def foundMachine : Machine := netMachine "eth0: 0\n"

def steadyBefore : Machine := netMachine "eth0: 0 0 0 0 0 0 0 0 0 0 0 0\n"

def steadyAfter : Machine := netMachine "eth0: 500 5 0 0 0 0 0 0 0 0 0 0\n"

theorem ratesOwn_steadyRun :
    RatesOwn [(1000000, steadyBefore), (3000000, steadyAfter)]
      (publishedAfter foundMachine [(1000000, steadyBefore)] 3000000 steadyAfter) :=
  ratesOwn_run foundMachine [(1000000, steadyBefore), (3000000, steadyAfter)] (by decide)
    [(1000000, steadyBefore)] 3000000 steadyAfter List.prefix_rfl

/-- The interface is missing from two samples. -/
def gapRun : List (ℤ × Machine) :=
  [(1000000, steadyBefore), (2000000, netMachine ""), (3000000, netMachine "")]

def backMachine : Machine := netMachine "eth0: 3000 30 0 0 0 0 0 0 0 0 0 0\n"

/-- The bytes of three seconds are published as those of one. -/
theorem not_ratesOwn_gapRun : ¬ RatesOwn (gapRun ++ [(4000000, backMachine)])
    (publishedAfter foundMachine gapRun 4000000 backMachine) := by
  intro hown
  have hwrite : ∃ w ∈ publishedAfter foundMachine gapRun 4000000 backMachine,
      w.source = .iface (ascii "eth0") .rxBps ∧ w.value = some 3000 := by decide +kernel
  obtain ⟨w, hw, hsource, hvalue⟩ := hwrite
  have hlog : ifaceLog IfaceCounters.rxBytes (ascii "eth0") (gapRun ++ [(4000000, backMachine)]) =
      [(1000000, 0), (4000000, 3000)] := by decide
  have hrate := (hown.ifaces w hw _ _ _ hsource rfl).between
  rw [hvalue, hlog] at hrate
  obtain ⟨a, b, hsublist, -, -, hsame⟩ := hrate.resolve_left nofun
  have hpair := hsublist.eq_of_length rfl
  obtain ⟨rfl, rfl⟩ : a = (1000000, 0) ∧ b = (4000000, 3000) := by simpa using hpair
  norm_num [perSecond] at hsame

end AxisMetrics
