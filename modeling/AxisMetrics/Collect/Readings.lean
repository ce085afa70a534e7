import AxisMetrics.Collect.Found
import AxisMetrics.Collect.Sample

/-!
# What a sample writes

Each write of `collector_sample` goes to an index field of the collector. `FastReading` and
`HeldReading` say which, for what was read.
-/

namespace AxisMetrics

open Lib (Bytes ascii)

namespace CollectorSlots

variable {V T : Type} [DoubleArith T] [Narrows V T]

-- ════════════════════════════════════════════════════════════════════════
-- Steps through a text
-- ════════════════════════════════════════════════════════════════════════

section Each

variable {S A : Type} {step : S → A → S × List (Write V)} {s : S} {l : List A} {a : A} {w : Write V}

theorem sampleEach_append (step : S → A → S × List (Write V)) (s : S) (l : List A) (a : A) :
    sampleEach step s (l ++ [a]) =
      ((step (sampleEach step s l).1 a).1,
        (sampleEach step s l).2 ++ (step (sampleEach step s l).1 a).2) := by
  rw [sampleEach, List.foldl_append]
  rfl

theorem sampleEach_cons (step : S → A → S × List (Write V)) (s : S) (a : A) (l : List A) :
    sampleEach step s (a :: l) =
      ((sampleEach step (step s a).1 l).1, (step s a).2 ++ (sampleEach step (step s a).1 l).2) := by
  induction l using List.reverseRecOn with
  | nil => simp [sampleEach]
  | append_singleton l b ih =>
    rw [← List.cons_append, sampleEach_append, ih, sampleEach_append, List.append_assoc]

/-- What no step changes is as it was. -/
theorem sampleEach_frame {B : Type} (step : S → A → S × List (Write V)) (part : S → B)
    (h : ∀ s a, part (step s a).1 = part s) (s : S) (l : List A) :
    part (sampleEach step s l).1 = part s := by
  induction l generalizing s with
  | nil => rfl
  | cons a l ih => rw [sampleEach_cons, ih, h]

/-- Every write is one of a step. -/
theorem mem_sampleEach (h : w ∈ (sampleEach step s l).2) : ∃ a ∈ l, ∃ s', w ∈ (step s' a).2 := by
  induction l using List.reverseRecOn with
  | nil => cases h
  | append_singleton l a ih =>
    rw [sampleEach_append] at h
    rcases List.mem_append.mp h with hold | hlast
    · obtain ⟨b, hb, hw⟩ := ih hold
      exact ⟨b, List.mem_append_left _ hb, hw⟩
    · exact ⟨a, List.mem_append_right _ (List.mem_singleton.mpr rfl), _, hlast⟩

/-- A write is made by one of the steps, in the state that those before it left. -/
theorem mem_sampleEach_split (h : w ∈ (sampleEach step s l).2) : ∃ pre a post, l = pre ++ a :: post ∧
    w ∈ (step (sampleEach step s pre).1 a).2 := by
  induction l using List.reverseRecOn with
  | nil => cases h
  | append_singleton l b ih =>
    rw [sampleEach_append] at h
    rcases List.mem_append.mp h with hold | hlast
    · obtain ⟨pre, a, post, rfl, hw⟩ := ih hold
      exact ⟨pre, a, post ++ [b], by rw [List.append_assoc, List.cons_append], hw⟩
    · exact ⟨l, b, [], rfl, hlast⟩

/-- A write that a step makes in any state is made. -/
theorem exists_mem_sampleEach {P : Write V → Prop} (ha : a ∈ l)
    (h : ∀ s', ∃ w ∈ (step s' a).2, P w) : ∃ w ∈ (sampleEach step s l).2, P w := by
  induction l using List.reverseRecOn with
  | nil => cases ha
  | append_singleton l b ih =>
    rw [sampleEach_append]
    rcases List.mem_append.mp ha with hold | hlast
    · obtain ⟨w, hw, hP⟩ := ih hold
      exact ⟨w, List.mem_append_left _ hw, hP⟩
    · obtain rfl := List.mem_singleton.mp hlast
      obtain ⟨w, hw, hP⟩ := h (sampleEach step s l).1
      exact ⟨w, List.mem_append_right _ hw, hP⟩

end Each

-- ════════════════════════════════════════════════════════════════════════
-- What sampling leaves alone
-- ════════════════════════════════════════════════════════════════════════

section Frame

variable (c : CollectorSlots) (m : Machine) (seconds : T) (first : Bool) (s : CollectorState V)

/-- `sample_cpu` leaves interfaces and disks alone. -/
theorem sampleCpu_frame : (c.sampleCpu m seconds first s).1.ifaces = s.ifaces ∧
    (c.sampleCpu m seconds first s).1.disks = s.disks := by
  have hstep : ∀ (s : CollectorState V) (line : Bytes),
      ((c.sampleStatLine seconds first s line).1.ifaces,
        (c.sampleStatLine seconds first s line).1.disks) = (s.ifaces, s.disks) := by
    intro s line
    rw [sampleStatLine]
    split
    · rfl
    · split
      · rfl
      · split
        · rfl
        · next cpu _ => cases cpu <;> rfl
  rw [sampleCpu]
  split
  · exact ⟨rfl, rfl⟩
  · exact Prod.mk.inj (sampleEach_frame _ (fun s => (s.ifaces, s.disks)) hstep s _)

/-- `sample_ifaces` leaves processors and disks alone. -/
theorem sampleIfaces_frame : (c.sampleIfaces m seconds first s).1.prevTotal = s.prevTotal ∧
    (c.sampleIfaces m seconds first s).1.prevCpuField = s.prevCpuField ∧
      (c.sampleIfaces m seconds first s).1.disks = s.disks := by
  have hframe := sampleEach_frame (c.sampleIfaceLine m seconds first)
    (fun s => (s.prevTotal, s.prevCpuField, s.disks)) (fun s line => by
      rw [sampleIfaceLine]
      split <;> rfl) s m.ifaceLines
  simp only [Prod.mk.injEq] at hframe
  exact hframe

/-- `sample_disks` leaves processors and interfaces alone. -/
theorem sampleDisks_frame : (c.sampleDisks m seconds first s).1.prevTotal = s.prevTotal ∧
    (c.sampleDisks m seconds first s).1.prevCpuField = s.prevCpuField ∧
      (c.sampleDisks m seconds first s).1.ifaces = s.ifaces := by
  have hframe := sampleEach_frame (c.sampleDiskLine seconds first)
    (fun s => (s.prevTotal, s.prevCpuField, s.ifaces)) (fun s line => by
      rw [sampleDiskLine]
      split
      · rfl
      · dsimp only
        split <;> rfl) s (m.lines (ascii "/proc/diskstats") 512)
  simp only [Prod.mk.injEq] at hframe
  exact hframe

/-- The seconds that `collector_sample` divides by. -/
def elapsed (s : CollectorState V) (now : ℤ) : T :=
  if decide (s.prevUs = 0) then ((0 : ℕ) : T)
  else (((now - s.prevUs).toNat : ℕ) : T) / ((1000000 : ℕ) : T)

/-- The states that `sample_cpu` and `sample_ifaces` leave in a sample. -/
def afterCpu (now : ℤ) : CollectorState V :=
  (c.sampleCpu m (elapsed s now : T) (decide (s.prevUs = 0)) s).1

def afterIfaces (now : ℤ) : CollectorState V :=
  (c.sampleIfaces m (elapsed s now : T) (decide (s.prevUs = 0)) (c.afterCpu m s now)).1

/-- A sample leaves the processors as `sample_cpu` left them. -/
theorem sampleReadings_cpu (now : ℤ) :
    (c.sampleReadings now m s).1.prevTotal = (c.afterCpu m s now).prevTotal ∧
      (c.sampleReadings now m s).1.prevCpuField = (c.afterCpu m s now).prevCpuField := by
  obtain ⟨htotal, hfield, -⟩ := c.sampleIfaces_frame m (elapsed s now : T) (decide (s.prevUs = 0))
    (c.afterCpu m s now)
  obtain ⟨htotal', hfield', -⟩ := c.sampleDisks_frame m (elapsed s now : T) (decide (s.prevUs = 0))
    (c.afterIfaces m s now)
  exact ⟨htotal'.trans htotal, hfield'.trans hfield⟩

end Frame

-- ════════════════════════════════════════════════════════════════════════
-- Where writes go
-- ════════════════════════════════════════════════════════════════════════

/-- The writes into the values. `first` marks a first sample. -/
inductive FastReading (T : Type) [DoubleArith T] (c : CollectorSlots) (first : Bool)
    (later : Machine) : Source → ℕ → Prop where
  | fixed {f : FixedMetric} (h : f ∈ cpuMetrics ++ systemMetrics) :
    FastReading T c first later (.fixed f) (c.idx f)
  | coreUsage {line rest : Bytes} {core : ℕ} (h : line ∈ later.lines (ascii "/proc/stat") 512)
      (hcpu : c.cpuLine line = some (.core core rest)) :
    FastReading T c first later (.core core .usage) (c.idxCore core .usage)
  | coreFreq {freq : ℕ × T} (hfile : later.file (ascii "/proc/stat") ≠ none)
      (h : freq ∈ c.coreFreqs later) :
    FastReading T c first later (.core freq.1 .freq) (c.idxCore freq.1 .freq)
  | zone {zone : Zone} (h : zone ∈ c.zones) : FastReading T c first later (.zone zone.zone) zone.idx
  | iface {line : Bytes × Bytes} {entry : Iface × ℕ} (h : line ∈ later.ifaceLines)
      (hentry : c.findIface line.1 = some entry) (q : IfaceMetric) :
    FastReading T c first later (.iface line.1 q) (entry.1.idx q)
  | disk {line name : Bytes} {now : DiskCounters} {entry : Disk × ℕ} (hfirst : first = false)
      (h : line ∈ later.lines (ascii "/proc/diskstats") 512)
      (hscan : scanDiskLine line = some (name, now)) (hentry : c.findDisk name = some entry)
      (q : DiskMetric) :
    FastReading T c first later (.disk ((Machine.diskWord line).getD []) q) (entry.1.idx q)
  | mount {mount : Mount} (h : mount ∈ c.mounts) (q : MountMetric) :
    FastReading T c first later (.mount mount.mountpoint q) (mount.idx q)

/-- The writes into the readings that are held, when they are due. -/
inductive HeldReading (c : CollectorSlots) (later : Machine) : Source → ℕ → Prop where
  | sensor {sensor : Sensor} (h : sensor ∈ c.sensors) :
    HeldReading c later (.sensor sensor.index) sensor.idx
  | fixed {f : FixedMetric} (h : f = .fanRpm ∨ f = .heater) (hidx : c.idx f ≠ 0) :
    HeldReading c later (.fixed f) (c.idx f)
  | poe {body : Bytes} {entry : PoePort × Bytes} (hbody : later.portStatuses = some body)
      (h : entry ∈ c.poe.zip (statusesFrom c.poe.length body)) (q : PoeMetric) :
    HeldReading c later (.poe (statusPort entry.2) q) (entry.1.idx q)
  | poeFixed {f : FixedMetric} (h : f = .poeTotal ∨ f = .poeBudget) (hpoe : c.poe ≠ []) :
    HeldReading c later (.fixed f) (c.idx f)
  | flash {f : FixedMetric} (h : f = .flashLife ∨ f = .flashEol) (hpath : c.flashLifePath ≠ []) :
    HeldReading c later (.fixed f) (c.idx f)

variable {c : CollectorSlots} {first : Bool} {seconds : T} {later : Machine} {s : CollectorState V}
  {w : Write V}

theorem fastReading_statLine {line : Bytes} (hline : line ∈ later.lines (ascii "/proc/stat") 512)
    (h : w ∈ (c.sampleStatLine seconds first s line).2) :
    FastReading T c first later w.source w.idx := by
  rw [sampleStatLine] at h
  split at h
  · split at h
    · cases h
    · rw [List.mem_singleton.mp h]
      exact .fixed (by decide)
  · split at h
    · rw [List.mem_singleton.mp h]
      exact .fixed (by decide)
    · cases hcpu : c.cpuLine line with
      | none =>
        rw [hcpu] at h
        cases h
      | some cpu =>
        rw [hcpu] at h
        cases cpu with
        | core core rest =>
          rw [List.mem_singleton.mp h]
          exact .coreUsage hline hcpu
        | aggregate rest =>
          simp only [sampleCpuLine, List.mem_cons] at h
          rcases h with rfl | h
          · exact .fixed (by decide)
          · split at h
            · simp only [List.mem_cons, List.not_mem_nil, or_false] at h
              rcases h with rfl | rfl | rfl | rfl | rfl
              all_goals exact .fixed (by decide)
            · cases h

theorem fastReading_cpu (h : w ∈ (c.sampleCpu later seconds first s).2) :
    FastReading T c first later w.source w.idx := by
  rw [sampleCpu] at h
  split at h
  · cases h
  · next content hcontent =>
    dsimp only at h
    rcases List.mem_append.mp h with h | h
    · rcases List.mem_append.mp h with h | h
      · obtain ⟨line, hline, s', hw⟩ := mem_sampleEach h
        exact fastReading_statLine hline hw
      · rw [List.map_map] at h
        obtain ⟨freq, hfreq, rfl⟩ := List.mem_map.mp h
        have hfile : later.file (ascii "/proc/stat") ≠ none := by
          rw [hcontent]
          exact Option.some_ne_none _
        have hreading : FastReading T c first later (.core freq.1 .freq) (c.idxCore freq.1 .freq) :=
          .coreFreq hfile hfreq
        exact hreading
    · rw [List.mem_singleton.mp h]
      exact .fixed (by decide)

theorem fastReading_memory (h : w ∈ (c.sampleMemory later : List (Write V))) :
    FastReading T c first later w.source w.idx := by
  rw [sampleMemory] at h
  split at h
  · cases h
  · simp only [List.mem_cons, List.not_mem_nil, or_false] at h
    rcases h with rfl | rfl | rfl | rfl | rfl | rfl | rfl | rfl | rfl | rfl
    all_goals exact .fixed (by decide)

theorem fastReading_system (h : w ∈ (c.sampleSystem later : List (Write V))) :
    FastReading T c first later w.source w.idx := by
  rw [sampleSystem] at h
  rcases List.mem_append.mp h with h | h
  · split at h
    · cases h
    · simp only [List.mem_cons, List.not_mem_nil, or_false] at h
      rcases h with rfl | rfl | rfl | rfl
      all_goals exact .fixed (by decide)
  · rcases List.mem_cons.mp h with rfl | h
    · exact .fixed (by decide)
    · obtain ⟨line, -, hw⟩ := List.mem_flatMap.mp h
      simp only [sampleSockLine] at hw
      split at hw
      · rw [List.mem_singleton.mp hw]
        exact .fixed (by decide)
      · split at hw
        · rw [List.mem_singleton.mp hw]
          exact .fixed (by decide)
        · split at hw
          · rw [List.mem_singleton.mp hw]
            exact .fixed (by decide)
          · cases hw

theorem fastReading_zones (h : w ∈ (c.sampleZones later : List (Write V))) :
    FastReading T c first later w.source w.idx := by
  obtain ⟨zone, hzone, rfl⟩ := List.mem_map.mp h
  exact .zone hzone

theorem fastReading_ifaces (h : w ∈ (c.sampleIfaces later seconds first s).2) :
    FastReading T c first later w.source w.idx := by
  obtain ⟨line, hline, s', hw⟩ := mem_sampleEach h
  rw [sampleIfaceLine] at hw
  cases hentry : c.findIface line.1 with
  | none =>
    rw [hentry] at hw
    cases hw
  | some entry =>
    have hreading : ∀ q, FastReading T c first later (.iface line.1 q) (entry.1.idx q) :=
      fun q => .iface hline hentry q
    rw [hentry] at hw
    simp only [List.mem_append, List.mem_cons, List.not_mem_nil, or_false] at hw
    rcases hw with (hw | hw) | hw
    · split at hw
      · cases hw
      · simp only [List.mem_cons, List.not_mem_nil, or_false] at hw
        rcases hw with rfl | rfl | rfl | rfl
        all_goals exact hreading _
    · rcases hw with rfl | rfl | rfl | rfl | rfl
      all_goals exact hreading _
    · split at hw
      · cases hw
      · rw [List.mem_singleton.mp hw]
        exact hreading _

theorem fastReading_disks (h : w ∈ (c.sampleDisks later seconds first s).2) :
    FastReading T c first later w.source w.idx := by
  obtain ⟨line, hline, s', hw⟩ := mem_sampleEach h
  rw [sampleDiskLine] at hw
  cases hscan : scanDiskLine line with
  | none =>
    rw [hscan] at hw
    cases hw
  | some scanned =>
    rw [hscan] at hw
    dsimp only at hw
    cases hentry : c.findDisk scanned.1 with
    | none =>
      rw [hentry] at hw
      cases hw
    | some entry =>
      rw [hentry] at hw
      dsimp only at hw
      cases first with
      | true => cases hw
      | false =>
        have hreading : ∀ q, FastReading T c false later
            (.disk ((Machine.diskWord line).getD []) q) (entry.1.idx q) :=
          fun q => .disk rfl hline hscan hentry q
        simp only [Bool.false_eq_true, if_false, List.mem_cons, List.not_mem_nil, or_false] at hw
        rcases hw with rfl | rfl | rfl | rfl | rfl
        all_goals exact hreading _

theorem fastReading_mounts (h : w ∈ (c.sampleMounts later : List (Write V))) :
    FastReading T c first later w.source w.idx := by
  obtain ⟨mount, hmount, hw⟩ := List.mem_flatMap.mp h
  obtain ⟨q, -, rfl⟩ := List.mem_map.mp hw
  exact .mount hmount q

theorem heldReading_sensors (h : w ∈ (c.sampleSensors later : List (Write V))) :
    HeldReading c later w.source w.idx := by
  rw [sampleSensors] at h
  split at h
  · cases h
  · split at h
    · cases h
    · rcases List.mem_append.mp h with h | h
      · rcases List.mem_append.mp h with h | h
        · obtain ⟨sensor, hsensor, hw⟩ := List.mem_flatMap.mp h
          split at hw
          · cases hw
          · rw [List.mem_singleton.mp hw]
            exact .sensor hsensor
        · split at h
          · cases h
          · split at h
            · cases h
            · next hidx =>
              have hreading : HeldReading c later (.fixed .fanRpm) (c.idx .fanRpm) :=
                .fixed (.inl rfl) hidx
              split at h
              all_goals
                rw [List.mem_singleton.mp h]
                exact hreading
      · split at h
        · cases h
        · split at h
          · cases h
          · next hidx =>
            rw [List.mem_singleton.mp h]
            exact .fixed (.inr rfl) hidx

theorem heldReading_poe (h : w ∈ (c.samplePoe later : List (Write V))) :
    HeldReading c later w.source w.idx := by
  rw [samplePoe] at h
  split at h
  · cases h
  · next hpoe =>
    cases hbody : later.portStatuses with
    | none =>
      rw [hbody] at h
      cases h
    | some body =>
      rw [hbody] at h
      rcases List.mem_append.mp h with h | h
      · obtain ⟨entry, hentry, hw⟩ := List.mem_flatMap.mp h
        obtain ⟨q, -, rfl⟩ := List.mem_map.mp hw
        exact .poe hbody hentry q
      · rcases List.mem_cons.mp h with rfl | h
        · exact .poeFixed (.inl rfl) hpoe
        · split at h
          · cases h
          · rw [List.mem_singleton.mp h]
            exact .poeFixed (.inr rfl) hpoe

theorem heldReading_flashWear (h : w ∈ (c.sampleFlashWear later : List (Write V))) :
    HeldReading c later w.source w.idx := by
  rw [sampleFlashWear] at h
  split at h
  · cases h
  · next hpath =>
    rcases List.mem_append.mp h with h | h
    · split at h
      · cases h
      · dsimp only at h
        split at h
        · cases h
        · rw [List.mem_singleton.mp h]
          exact .flash (.inl rfl) hpath
    · split at h
      · cases h
      · rw [List.mem_singleton.mp h]
        exact .flash (.inr rfl) hpath

variable {now : ℤ}

/-- The writes into the values. -/
theorem fastReading_of_mem (h : w ∈ (c.sampleReadings now later s).2.values) :
    FastReading T c (decide (s.prevUs = 0)) later w.source w.idx := by
  rw [sampleReadings] at h
  simp only [List.mem_append] at h
  rcases h with (((((h | h) | h) | h) | h) | h) | h
  · exact fastReading_cpu h
  · exact fastReading_memory h
  · exact fastReading_system h
  · exact fastReading_zones h
  · exact fastReading_ifaces h
  · exact fastReading_disks h
  · exact fastReading_mounts h

/-- The writes into the readings that are held. -/
theorem heldReading_of_mem (h : w ∈ (c.sampleReadings now later s).2.held) :
    s.slowDeadline ≤ now ∧ HeldReading c later w.source w.idx := by
  rw [sampleReadings] at h
  by_cases hdue : s.slowDeadline ≤ now
  · refine ⟨hdue, ?_⟩
    simp only [hdue, decide_true, if_true, List.mem_append] at h
    rcases h with (h | h) | h
    · exact heldReading_sensors h
    · exact heldReading_poe h
    · exact heldReading_flashWear h
  · simp only [hdue, decide_false, Bool.false_eq_true, if_false] at h
    cases h

-- ════════════════════════════════════════════════════════════════════════
-- Writes that are made
-- ════════════════════════════════════════════════════════════════════════

theorem file_of_mem_lines {path line : Bytes} {size : ℕ} (h : line ∈ later.lines path size) :
    later.file path ≠ none := by
  intro hnone
  rw [Machine.lines, hnone] at h
  cases h

/-- A line for a processor is no other line of `/proc/stat`. -/
theorem not_prefix_of_cpu {key line : Bytes} (hcpu : ascii "cpu" <+: line)
    (hlength : 3 ≤ key.length) (hkey : ¬ ascii "cpu" <+: key) : ¬ key <+: line := by
  intro h
  exact hkey (List.prefix_of_prefix_length_le hcpu h hlength)

variable (c s later now)

/-- The usage of a core that is read is written. -/
theorem exists_write_core {line rest : Bytes} {core : ℕ}
    (hline : line ∈ later.lines (ascii "/proc/stat") 512)
    (hcpu : c.cpuLine line = some (.core core rest)) :
    ∃ w ∈ (c.sampleReadings now later s).2.values,
      w.source = .core core .usage ∧ w.idx = c.idxCore core .usage := by
  have hbegins : ascii "cpu" <+: line := by
    by_contra hnot
    rw [cpuLine, if_pos hnot] at hcpu
    cases hcpu
  have hstep : ∀ (seconds : T) (first : Bool) (s' : CollectorState V),
      ∃ w ∈ (c.sampleStatLine seconds first s' line).2,
        w.source = .core core .usage ∧ w.idx = c.idxCore core .usage := by
    intro seconds first s'
    rw [sampleStatLine, if_neg (not_prefix_of_cpu hbegins (by decide) (by decide)),
      if_neg (not_prefix_of_cpu hbegins (by decide) (by decide)), hcpu]
    exact ⟨_, List.mem_singleton.mpr rfl, rfl, rfl⟩
  obtain ⟨content, hcontent⟩ := Option.ne_none_iff_exists'.mp (file_of_mem_lines hline)
  have hcpuWrites : ∀ (seconds : T) (first : Bool),
      ∃ w ∈ (c.sampleCpu later seconds first s).2,
        w.source = .core core .usage ∧ w.idx = c.idxCore core .usage := by
    intro seconds first
    obtain ⟨w, hw, hP⟩ := exists_mem_sampleEach (s := s) hline (hstep seconds first)
    refine ⟨w, ?_, hP⟩
    rw [sampleCpu, hcontent]
    exact List.mem_append_left _ (List.mem_append_left _ hw)
  obtain ⟨w, hw, hP⟩ := hcpuWrites _ _
  refine ⟨w, ?_, hP⟩
  rw [sampleReadings]
  simp only [List.mem_append]
  exact .inl (.inl (.inl (.inl (.inl (.inl hw)))))

/-- The frequency of a core that is read is written. -/
theorem exists_write_freq {freq : ℕ × T} (hfile : later.file (ascii "/proc/stat") ≠ none)
    (hfreq : freq ∈ c.coreFreqs later) :
    ∃ w ∈ (c.sampleReadings now later s).2.values,
      w.source = .core freq.1 .freq ∧ w.idx = c.idxCore freq.1 .freq := by
  obtain ⟨content, hcontent⟩ := Option.ne_none_iff_exists'.mp hfile
  have hcpuWrites : ∀ (seconds : T) (first : Bool),
      ∃ w ∈ (c.sampleCpu later seconds first s).2,
        w.source = .core freq.1 .freq ∧ w.idx = c.idxCore freq.1 .freq := by
    intro seconds first
    rw [sampleCpu, hcontent]
    refine ⟨_, List.mem_append_left _ (List.mem_append_right _ (List.mem_map_of_mem
      (List.mem_map_of_mem hfreq))), rfl, rfl⟩
  obtain ⟨w, hw, hP⟩ := hcpuWrites _ _
  refine ⟨w, ?_, hP⟩
  rw [sampleReadings]
  simp only [List.mem_append]
  exact .inl (.inl (.inl (.inl (.inl (.inl hw)))))

/-- The errors of an interface that is read are written. -/
theorem exists_write_iface {line : Bytes × Bytes} {entry : Iface × ℕ}
    (hline : line ∈ later.ifaceLines) (hentry : c.findIface line.1 = some entry) :
    ∃ w ∈ (c.sampleReadings now later s).2.values,
      w.source = .iface line.1 .rxErr ∧ w.idx = entry.1.idx .rxErr := by
  have hstep : ∀ (seconds : T) (first : Bool) (s' : CollectorState V),
      ∃ w ∈ (c.sampleIfaceLine later seconds first s' line).2,
        w.source = .iface line.1 .rxErr ∧ w.idx = entry.1.idx .rxErr := by
    intro seconds first s'
    rw [sampleIfaceLine, hentry]
    exact ⟨_, List.mem_append_left _ (List.mem_append_right _ List.mem_cons_self), rfl, rfl⟩
  obtain ⟨w, hw, hP⟩ := exists_mem_sampleEach hline (hstep _ _)
  refine ⟨w, ?_, hP⟩
  rw [sampleReadings]
  simp only [List.mem_append]
  exact .inl (.inl (.inr hw))

/-- The utilisation of a disk that is read again is written. -/
theorem exists_write_disk {line name : Bytes} {counters : DiskCounters} {entry : Disk × ℕ}
    (hfirst : s.prevUs ≠ 0) (hline : line ∈ later.lines (ascii "/proc/diskstats") 512)
    (hscan : scanDiskLine line = some (name, counters)) (hentry : c.findDisk name = some entry) :
    ∃ w ∈ (c.sampleReadings now later s).2.values,
      w.source = .disk ((Machine.diskWord line).getD []) .util ∧ w.idx = entry.1.idx .util := by
  have hstep : ∀ (seconds : T) (s' : CollectorState V),
      ∃ w ∈ (c.sampleDiskLine seconds (decide (s.prevUs = 0)) s' line).2,
        w.source = .disk ((Machine.diskWord line).getD []) .util ∧ w.idx = entry.1.idx .util := by
    intro seconds s'
    rw [sampleDiskLine, hscan, decide_eq_false hfirst]
    dsimp only
    rw [hentry]
    refine ⟨_, List.mem_cons_of_mem _ (List.mem_cons_of_mem _ (List.mem_cons_of_mem _
      (List.mem_cons_of_mem _ List.mem_cons_self))), rfl, rfl⟩
  obtain ⟨w, hw, hP⟩ := exists_mem_sampleEach hline (hstep _)
  refine ⟨w, ?_, hP⟩
  rw [sampleReadings]
  simp only [List.mem_append]
  exact .inl (.inr hw)

/-- The power of a port that is read is written when it is due. -/
theorem exists_write_poe {body : Bytes} {entry : PoePort × Bytes} (hdue : s.slowDeadline ≤ now)
    (hbody : later.portStatuses = some body)
    (hentry : entry ∈ c.poe.zip (statusesFrom c.poe.length body)) :
    ∃ w ∈ (c.sampleReadings now later s).2.held,
      w.source = .poe (statusPort entry.2) .power ∧ w.idx = entry.1.idx .power := by
  have hpoe : c.poe ≠ [] := by
    rintro hnil
    rw [hnil] at hentry
    cases hentry
  have hpoeWrites : ∃ w ∈ (c.samplePoe later : List (Write V)),
      w.source = .poe (statusPort entry.2) .power ∧ w.idx = entry.1.idx .power := by
    rw [samplePoe, if_neg hpoe, hbody]
    exact ⟨_, List.mem_append_left _ (List.mem_flatMap.mpr ⟨entry, hentry,
      List.mem_map_of_mem (List.mem_cons_self (a := PoeMetric.power))⟩), rfl, rfl⟩
  obtain ⟨w, hw, hP⟩ := hpoeWrites
  refine ⟨w, ?_, hP⟩
  rw [sampleReadings]
  dsimp only
  rw [if_pos (decide_eq_true hdue)]
  exact List.mem_append_left _ (List.mem_append_right _ hw)

end CollectorSlots

end AxisMetrics
