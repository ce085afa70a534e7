import AxisMetrics.Collect.Ids
import AxisMetrics.Collect.Readings

/-!
# One source, one slot

Which values a sample writes where, over any run of samples. The slots keep their sources apart just
if the names of the devices do, and a reading has its own slot just if what is read is about a device
that was found.
-/

namespace AxisMetrics

open Lib (Bytes ascii strlcpy)

open CollectorSlots (SampleWrites sampleReadings readDouble freqPath scanDiskLine statusesFrom statusPort
  discover)

variable {V T : Type} [DoubleArith T] [Narrows V T]

/-- The core that a line of `/proc/stat` is for. -/
def Machine.coreLine (text : Bytes) : Option ℕ :=
  if ascii "cpu" <+: text ∧ text[3]? ≠ some 32 ∧ 32 ∈ text then Machine.scanCore text else none

/-- The collector after discovery and a run of samples, each at a time. -/
def collectorAfter (V : Type) {T : Type} [DoubleArith T] [Narrows V T] (found : Machine)
    (run : List (ℤ × Machine)) : Collector V :=
  run.foldl (fun c sample => (collectorSample c sample.1 sample.2).1) (collectorNew found)

/-- Every write goes to the index that was registered for its source, sources have indices of their
own, no value is covered by a reading that is held, and the first index is for the line of all
processors. -/
structure OneSourceOneSlot (c : CollectorSlots) (writes : SampleWrites V) : Prop where
  registered : ∀ w ∈ writes.values ++ writes.held, ∃ e ∈ c.discovery.log,
    e.source = w.source ∧ e.idx = w.idx ∧ c.discovery.registry.idAt w.idx = some e.id
  apart : ∀ e ∈ c.discovery.log, ∀ e' ∈ c.discovery.log, e.idx = e'.idx → e.source = e'.source
  uncovered : ∀ w ∈ writes.values, c.isSlow w.idx = false
  slotZero : ∀ w ∈ writes.values ++ writes.held, w.idx = 0 → w.source = .fixed .cpuUsage

/-- What is read is about devices that were found: a core below another one was found itself, a name
that was cut is read of the device it was cut from, and the statuses are of the ports in their
order. -/
structure ReadsKnown (T : Type) [DoubleArith T] (found : Machine) (s : CollectorState V) (now : ℤ)
    (later : Machine) : Prop where
  coreLines : ∀ line ∈ later.lines (ascii "/proc/stat") 512, ∀ n,
    Machine.coreLine line = some n → (∃ k ∈ found.cores, n ≤ k) → n ∈ found.cores
  coreFreqs : later.file (ascii "/proc/stat") ≠ none → ∀ n,
    DoubleArith.isnan (readDouble later (freqPath n) : T) = false →
      (∃ k ∈ found.cores, n ≤ k) → n ∈ found.cores
  ifaces : ∀ line ∈ later.ifaceLines, ∀ name ∈ found.ifaceNames,
    strlcpy 32 name = line.1 → name = line.1
  disks : s.prevUs ≠ 0 → ∀ line ∈ later.lines (ascii "/proc/diskstats") 512,
    (scanDiskLine line).isSome = true → ∀ name ∈ found.diskNames, ∀ word,
      Machine.diskWord line = some word → name.take 31 = word.take 31 → name = word
  ports : s.slowDeadline ≤ now → ∀ body, later.portStatuses = some body →
    ∀ entry ∈ found.ports.zip (statusesFrom found.ports.length body),
      statusPort entry.2 = some entry.1

-- ════════════════════════════════════════════════════════════════════════
-- Names are C strings
-- ════════════════════════════════════════════════════════════════════════

namespace Machine

variable {m : Machine} {line name word : Bytes}

theorem zero_notMem_of_mem_lines {path : Bytes} {size : ℕ} (h : line ∈ m.lines path size) :
    0 ∉ line := by
  rw [lines] at h
  cases hfile : m.file path with
  | none =>
    rw [hfile] at h
    cases h
  | some content =>
    rw [hfile] at h
    exact Lib.zero_notMem_of_mem_fgetsLines h

theorem mem_of_mem_strstrip {b : UInt8} {text : Bytes} (h : b ∈ strstrip text) : b ∈ text :=
  (List.dropWhile_suffix _).subset ((List.rdropWhile_prefix _ _).subset h)

theorem zero_notMem_of_mem_ifaceNames (h : name ∈ m.ifaceNames) : 0 ∉ name := by
  obtain ⟨entry, hentry, rfl⟩ := List.mem_map.mp (List.mem_of_mem_filter (List.mem_of_mem_take h))
  obtain ⟨line, hline, hentry⟩ := List.mem_filterMap.mp hentry
  have hzero := zero_notMem_of_mem_lines (List.mem_of_mem_drop hline)
  rw [ifaceLine] at hentry
  split at hentry
  · rw [← Option.some.inj hentry]
    intro hmem
    exact hzero ((List.takeWhile_prefix _).subset (mem_of_mem_strstrip hmem))
  · cases hentry

/-- Scanning the name of a disk, step by step. -/
theorem scanDisk_eq_some {width : ℕ} {rest : Bytes} :
    scanDisk width line = some (name, rest) ↔
      ∃ major rest₁ minor rest₂, Lib.scanUnsigned line = some (major, rest₁) ∧
        Lib.scanUnsigned rest₁ = some (minor, rest₂) ∧
        Lib.scanWord width rest₂ = some (name, rest) := by
  simp [scanDisk, Option.bind_eq_some_iff]

theorem zero_notMem_of_diskWord (hline : 0 ∉ line) (h : diskWord line = some word) : 0 ∉ word := by
  obtain ⟨⟨name, rest⟩, hscan, rfl⟩ := Option.map_eq_some_iff.mp h
  obtain ⟨_, _, _, _, hmajor, hminor, hword⟩ := scanDisk_eq_some.mp hscan
  intro hmem
  exact hline ((Lib.suffix_of_scanUnsigned hmajor).subset
    ((Lib.suffix_of_scanUnsigned hminor).subset (Lib.mem_of_mem_scanWord hword hmem)))

theorem zero_notMem_of_mem_diskNames (h : word ∈ m.diskNames) : 0 ∉ word := by
  obtain ⟨line, hline, hword⟩ :=
    List.mem_filterMap.mp (List.mem_of_mem_filter (List.mem_of_mem_take h))
  exact zero_notMem_of_diskWord (zero_notMem_of_mem_lines hline) hword

/-- The name that a line of `/proc/diskstats` gives is the beginning of its word. -/
theorem diskWord_of_scanDiskLine {counters : DiskCounters}
    (h : scanDiskLine line = some (name, counters)) :
    ∃ word, diskWord line = some word ∧ name = word.take 31 := by
  obtain ⟨⟨name', rest⟩, hscan, hrest⟩ := Option.bind_eq_some_iff.mp h
  obtain rfl : name' = name := by
    simp only [Option.bind_eq_bind, Option.bind_eq_some_iff, Option.pure_def,
      Option.some.injEq, Prod.mk.injEq] at hrest
    obtain ⟨_, _, _, _, _, _, _, _, _, _, _, _, _, _, _, _, _, _, _, _, rfl, -⟩ := hrest
    rfl
  obtain ⟨major, rest₁, minor, rest₂, hmajor, hminor, hword⟩ := scanDisk_eq_some.mp hscan
  obtain ⟨whole, rest', hwhole, htake⟩ :=
    Lib.scanWord_take hword (Nat.le_add_left 31 line.length)
  refine ⟨whole, ?_, htake⟩
  rw [diskWord, scanDisk_eq_some.mpr ⟨_, _, _, _, hmajor, hminor, hwhole⟩]
  rfl

end Machine

-- ════════════════════════════════════════════════════════════════════════
-- The slots over a run
-- ════════════════════════════════════════════════════════════════════════

/-- The last sample of a run. -/
theorem state_collectorAfter_append (found : Machine) (run : List (ℤ × Machine))
    (sample : ℤ × Machine) :
    (collectorAfter V found (run ++ [sample])).state =
      ((collectorAfter V found run).slots.sampleReadings sample.1 sample.2
        (collectorAfter V found run).state).1 := by
  rw [collectorAfter, List.foldl_append]
  rfl

/-- Sampling leaves the slots as discovery made them. -/
theorem slots_collectorAfter (found : Machine) (run : List (ℤ × Machine)) :
    (collectorAfter V found run).slots = discover found := by
  induction run using List.reverseRecOn with
  | nil => rfl
  | append_singleton run sample ih =>
    rw [collectorAfter, List.foldl_append]
    exact ih

namespace CollectorSlots

variable {m : Machine} {c : CollectorSlots} {source : Source} {i j : ℕ}

theorem Filed.registered (h : Filed m c) (hhas : c.discovery.Has source i) :
    ∃ r, Found m r ∧ r.source = source ∧ c.discovery.registry.idAt i = some r.id.text := by
  obtain ⟨e, he, rfl, rfl⟩ := hhas
  obtain ⟨r, hr, hkey⟩ := (h.keys (e.source, e.id)).mp (List.mem_map_of_mem he)
  obtain ⟨hsource, hid⟩ := Prod.mk.inj hkey
  exact ⟨r, hr, hsource.symm, hid ▸ c.discovery.idAt_of_mem e he⟩

/-- Where names are apart, an index is registered for one source. -/
theorem Filed.source_eq (h : Filed m c) (hapart : NamesApart m) {source' : Source}
    (hhas : c.discovery.Has source i) (hhas' : c.discovery.Has source' i) : source = source' := by
  obtain ⟨r, hr, rfl, hid⟩ := h.registered hhas
  obtain ⟨r', hr', rfl, hid'⟩ := h.registered hhas'
  rw [hid] at hid'
  exact source_eq_of_id hapart hr hr' (Option.some.inj hid')

/-- Where indices tell the sources apart, so do the names. -/
theorem Filed.namesApart (h : Filed m c)
    (hapart : ∀ e ∈ c.discovery.log, ∀ e' ∈ c.discovery.log, e.idx = e'.idx →
      e.source = e'.source) : NamesApart m := by
  apply namesApart_of_ids
  intro r r' hr hr' hid
  obtain ⟨e, he, hkey⟩ := List.mem_map.mp ((h.keys r.key).mpr ⟨r, hr, rfl⟩)
  obtain ⟨e', he', hkey'⟩ := List.mem_map.mp ((h.keys r'.key).mpr ⟨r', hr', rfl⟩)
  obtain ⟨hsource, heid⟩ := Prod.mk.inj hkey
  obtain ⟨hsource', heid'⟩ := Prod.mk.inj hkey'
  rw [← hsource, ← hsource']
  refine hapart e he e' he' ((Discovery.idx_eq_iff he he').mpr ?_)
  rw [heid, heid', hid]

theorem Filed.has_cpuUsage (h : Filed m c) : c.discovery.Has (.fixed .cpuUsage) 0 := by
  have hhas := h.fixed .cpuUsage (by simp [fixedFound, cpuMetrics])
  rwa [h.cpuUsage] at hhas

/-- Sources of readings that are held. -/
def Source.slow : Source → Bool
  | .fixed f => f ∈ [.fanRpm, .heater, .poeTotal, .poeBudget, .flashLife, .flashEol]
  | .sensor _ => true
  | .poe _ _ => true
  | _ => false

/-- Held indices are registered for such a source. -/
theorem Filed.has_of_isSlow (h : Filed m c) (hslow : c.isSlow i = true) :
    ∃ source, Source.slow source = true ∧ c.discovery.Has source i := by
  rw [isSlow, Bool.or_eq_true, Bool.or_eq_true] at hslow
  rcases hslow with (hslow | hslow) | hslow
  · obtain ⟨sensor, hsensor, hidx⟩ := List.any_eq_true.mp hslow
    obtain rfl := of_decide_eq_true hidx
    exact ⟨_, rfl, h.sensors sensor hsensor⟩
  · obtain ⟨f, hf, hidx⟩ := List.any_eq_true.mp hslow
    obtain ⟨hset, rfl⟩ := of_decide_eq_true hidx
    refine ⟨.fixed f, decide_eq_true hf, h.fixed f ?_⟩
    by_contra hnone
    exact hset (h.unset f hnone)
  · obtain ⟨port, hport, hfield⟩ := List.any_eq_true.mp hslow
    obtain ⟨q, -, hidx⟩ := List.any_eq_true.mp hfield
    obtain rfl := of_decide_eq_true hidx
    exact ⟨_, rfl, h.poe port hport q⟩

-- ════════════════════════════════════════════════════════════════════════
-- Lines and entries
-- ════════════════════════════════════════════════════════════════════════

theorem coreLine_of_cpuLine {line rest : Bytes} {n : ℕ}
    (h : c.cpuLine line = some (.core n rest)) : Machine.coreLine line = some n ∧ n < c.nCores := by
  rw [cpuLine] at h
  split at h
  · cases h
  · next hcpu =>
    split at h
    · cases h
    · next haggregate =>
      cases hcore : Machine.scanCore line with
      | none =>
        rw [hcore] at h
        cases h
      | some core =>
        rw [hcore] at h
        dsimp only at h
        split at h
        · cases h
        · next hlt =>
          split at h
          · cases h
          · next hrest =>
            obtain ⟨rfl, -⟩ := CpuLine.core.inj (Option.some.inj h)
            refine ⟨?_, not_le.mp hlt⟩
            have hspace : 32 ∈ line := by
              by_contra hspace
              apply hrest
              rw [List.dropWhile_eq_nil_iff]
              intro b hb
              exact decide_eq_true fun hb32 => hspace (hb32 ▸ hb)
            rw [Machine.coreLine, if_pos ⟨not_not.mp hcpu, haggregate, hspace⟩, hcore]

theorem exists_cpuLine {line : Bytes} {n : ℕ} (h : Machine.coreLine line = some n)
    (hlt : n < c.nCores) : ∃ rest, c.cpuLine line = some (.core n rest) := by
  rw [Machine.coreLine] at h
  split at h
  · next hline =>
    obtain ⟨hcpu, haggregate, hspace⟩ := hline
    rw [cpuLine, if_neg (not_not.mpr hcpu), if_neg haggregate, h]
    dsimp only
    rw [if_neg (not_le.mpr hlt)]
    cases hrest : line.dropWhile (· ≠ 32) with
    | nil =>
      rw [List.dropWhile_eq_nil_iff] at hrest
      exact absurd rfl (of_decide_eq_true (hrest 32 hspace))
    | cons b rest => exact ⟨_, rfl⟩
  · cases h

/-- The last of the entries that pass a test, if one does. -/
theorem exists_getLast?_filter {A : Type} {l : List A} {p : A → Bool} {a : A} (ha : a ∈ l)
    (hp : p a = true) : ∃ b, (l.zipIdx.filter fun entry => p entry.1).getLast? = some b := by
  obtain ⟨i, hi, rfl⟩ := List.getElem_of_mem ha
  have hmem : (l[i], i) ∈ l.zipIdx.filter fun entry => p entry.1 :=
    List.mem_filter.mpr ⟨List.mk_mem_zipIdx_iff_getElem?.mpr (List.getElem?_eq_getElem hi), hp⟩
  exact ⟨_, List.getLast?_eq_some_getLast (List.ne_nil_of_mem hmem)⟩

theorem findIface_eq_some {name : Bytes} {entry : Iface × ℕ} (h : c.findIface name = some entry) :
    entry.1 ∈ c.ifaces ∧ entry.1.name = name := by
  obtain ⟨hmem, hname⟩ := List.mem_filter.mp (List.mem_of_getLast? h)
  exact ⟨List.fst_mem_of_mem_zipIdx hmem, of_decide_eq_true hname⟩

theorem findDisk_eq_some {name : Bytes} {entry : Disk × ℕ} (h : c.findDisk name = some entry) :
    entry.1 ∈ c.disks ∧ entry.1.name = name := by
  obtain ⟨hmem, hname⟩ := List.mem_filter.mp (List.mem_of_getLast? h)
  exact ⟨List.fst_mem_of_mem_zipIdx hmem, of_decide_eq_true hname⟩

theorem Filed.exists_findIface (h : Filed m c) {name : Bytes} (hname : name ∈ m.ifaceNames) :
    ∃ entry, c.findIface (strlcpy 32 name) = some entry := by
  have hmem : strlcpy 32 name ∈ c.ifaces.map Iface.name := by
    rw [h.ifaceNames]
    exact List.mem_map_of_mem hname
  obtain ⟨iface, hiface, htext⟩ := List.mem_map.mp hmem
  exact exists_getLast?_filter (p := fun iface => iface.name = strlcpy 32 name) hiface
    (decide_eq_true htext)

theorem strlcpy_disk {word : Bytes} (hword : 0 ∉ word) :
    strlcpy 32 (word.take 31) = word.take 31 :=
  Lib.strlcpy_eq_self (fun h => hword (List.mem_of_mem_take h))
    (lt_of_le_of_lt (List.length_take_le _ _) (by decide))

theorem Filed.exists_findDisk (h : Filed m c) {word : Bytes} (hword : word ∈ m.diskNames) :
    ∃ entry, c.findDisk (word.take 31) = some entry := by
  have hmem : strlcpy 32 (word.take 31) ∈ c.disks.map Disk.name := by
    rw [h.diskNames]
    exact List.mem_map_of_mem hword
  rw [strlcpy_disk (Machine.zero_notMem_of_mem_diskNames hword)] at hmem
  obtain ⟨disk, hdisk, htext⟩ := List.mem_map.mp hmem
  exact exists_getLast?_filter (p := fun disk => disk.name = word.take 31) hdisk
    (decide_eq_true htext)

/-- A mount with a short name is asked for at its own mount point. -/
theorem strlcpy_mountpoint {mountpoint : Bytes} (hzero : 0 ∉ mountpoint)
    (h : (mountName mountpoint).length ≤ 56) : strlcpy 128 mountpoint = mountpoint := by
  have hlength : mountpoint.length ≤ (mountShortName mountpoint).length + 25 := by
    rw [mountShortName]
    split
    · next hroot =>
      rw [hroot]
      decide
    · split
      · rw [List.length_drop]
        omega
      · split
        · rw [List.length_drop]
          omega
        · rw [List.length_tail]
          omega
  rw [mountName, sanitizeName, List.length_map, List.length_take] at h
  refine Lib.strlcpy_eq_self hzero ?_
  omega

theorem zero_notMem_of_mem_mountEntries {n : ℕ} {text : Bytes} {entry : Machine.MountEntry}
    (h : entry ∈ Machine.mountEntries n text) : 0 ∉ entry.mountpoint := by
  obtain ⟨before, rest, hscan⟩ := Machine.exists_scanMount h
  simp only [Machine.scanMount, Option.bind_eq_bind, Option.bind_eq_some_iff,
    Option.pure_def] at hscan
  obtain ⟨_, _, _, _, _, _, _, _, hpair⟩ := hscan
  obtain ⟨rfl, -⟩ := Prod.mk.inj (Option.some.inj hpair)
  exact Lib.zero_notMem_cString _

theorem mem_of_mem_firsts {entry : Machine.MountEntry} {entries seen : List Machine.MountEntry}
    (h : entry ∈ entries.foldl (fun seen entry =>
      if seen.any (·.device = entry.device) then seen else seen ++ [entry]) seen) :
    entry ∈ seen ∨ entry ∈ entries := by
  induction entries generalizing seen with
  | nil => exact .inl h
  | cons next entries ih =>
    rw [List.foldl_cons] at h
    rcases ih h with hseen | hlater
    · split at hseen
      · exact .inl hseen
      · rcases List.mem_append.mp hseen with hseen | hnext
        · exact .inl hseen
        · exact .inr (List.mem_cons.mpr (.inl (List.mem_singleton.mp hnext)))
    · exact .inr (List.mem_cons_of_mem _ hlater)

theorem zero_notMem_of_mem_mountpoints {mountpoint : Bytes} (h : mountpoint ∈ m.mountpoints) :
    0 ∉ mountpoint := by
  obtain ⟨entry, hentry, rfl⟩ := List.mem_map.mp h
  rcases mem_of_mem_firsts (List.mem_of_mem_take hentry) with hnone | hmem
  · cases hnone
  · exact zero_notMem_of_mem_mountEntries (List.mem_of_mem_filter hmem)

-- ════════════════════════════════════════════════════════════════════════
-- Where readings go
-- ════════════════════════════════════════════════════════════════════════

variable {s : CollectorState V} {now : ℤ} {later : Machine} {first : Bool}

omit [Narrows V T] in
/-- What is known goes to the index of its source. -/
theorem Filed.has_of_fastReading (h : Filed m c) (hapart : NamesApart m)
    (hknown : ReadsKnown T m s now later)
    (hreading : FastReading T c (decide (s.prevUs = 0)) later source i) :
    c.discovery.Has source i := by
  cases hreading with
  | @fixed f hf =>
    refine h.fixed f ?_
    rcases List.mem_append.mp hf with hf | hf <;> simp [fixedFound, hf]
  | coreUsage hline hcpu =>
    obtain ⟨hcore, hlt⟩ := coreLine_of_cpuLine hcpu
    exact h.cores _ (hknown.coreLines _ hline _ hcore ((h.nCores _).mp hlt)) _
  | @coreFreq freq hfile hfreq =>
    obtain ⟨hmem, hnum⟩ := List.mem_filter.mp hfreq
    obtain ⟨n, hn, rfl⟩ := List.mem_map.mp hmem
    have hlt := (h.nCores n).mp (List.mem_range.mp hn)
    exact h.cores n (hknown.coreFreqs hfile n (by simpa using hnum) hlt) _
  | zone hzone => exact h.zones _ hzone
  | @iface line entry hline hentry q =>
    obtain ⟨hmem, hname⟩ := findIface_eq_some hentry
    obtain ⟨name, hfound, htext, hhas⟩ := h.ifaces _ hmem
    have hsame := hknown.ifaces line hline name hfound (htext.symm.trans hname)
    exact hsame ▸ hhas q
  | @disk line name counters entry hfirst hline hscan hentry q =>
    obtain ⟨hmem, hname⟩ := findDisk_eq_some hentry
    obtain ⟨word, hfound, htext, hhas⟩ := h.disks _ hmem
    obtain ⟨whole, hwhole, rfl⟩ := Machine.diskWord_of_scanDiskLine hscan
    rw [strlcpy_disk (Machine.zero_notMem_of_mem_diskNames hfound)] at htext
    have hsame := hknown.disks (of_decide_eq_false hfirst) line hline
      (by rw [hscan]; rfl) word hfound whole hwhole (htext.symm.trans hname)
    rw [hwhole, Option.getD_some, ← hsame]
    exact hhas q
  | @mount mount hmount q =>
    obtain ⟨mountpoint, hfound, htext, hhas⟩ := h.mounts _ hmount
    rw [htext, strlcpy_mountpoint (zero_notMem_of_mem_mountpoints hfound)
      (hapart.mountLength _ hfound)]
    exact hhas q

/-- The statuses that the ports get, by the numbers of the ports. -/
theorem Filed.zip_ports (h : Filed m c) (statuses : List Bytes) :
    m.ports.zip statuses = (c.poe.zip statuses).map fun entry => (entry.1.port, entry.2) := by
  rw [← h.ports, List.zip_map_left]
  rfl

theorem Filed.length_ports (h : Filed m c) : m.ports.length = c.poe.length := by
  rw [← h.ports, List.length_map]

omit [Narrows V T] in
theorem Filed.has_of_heldReading (h : Filed m c) (hknown : ReadsKnown T m s now later)
    (hdue : s.slowDeadline ≤ now) (hreading : HeldReading c later source i) :
    c.discovery.Has source i := by
  cases hreading with
  | sensor hsensor => exact h.sensors _ hsensor
  | @fixed f _ hidx =>
    refine h.fixed f ?_
    by_contra hnone
    exact hidx (h.unset f hnone)
  | @poe body entry hbody hentry q =>
    have hzip : (entry.1.port, entry.2) ∈ m.ports.zip (statusesFrom m.ports.length body) := by
      rw [h.zip_ports, h.length_ports]
      exact List.mem_map_of_mem hentry
    have hport := hknown.ports hdue body hbody _ hzip
    rw [hport]
    exact h.poe _ (List.of_mem_zip hentry).1 q
  | @poeFixed f hf hpoe =>
    refine h.fixed f ?_
    have hports : m.ports ≠ [] := by
      rw [← h.ports]
      simpa using hpoe
    rcases hf with rfl | rfl <;> simp [fixedFound, poeMetrics, hports]
  | @flash f hf hpath =>
    refine h.fixed f ?_
    obtain ⟨hlife, heol⟩ := h.flash hpath
    rcases hf with rfl | rfl
    · exact hlife
    · exact heol

-- ════════════════════════════════════════════════════════════════════════
-- Both directions
-- ════════════════════════════════════════════════════════════════════════

omit [Narrows V T] in
theorem slow_of_fastReading (h : FastReading T c first later source i) :
    Source.slow source = false := by
  cases h with
  | @fixed f hf =>
    have hnone : ∀ f ∈ cpuMetrics ++ systemMetrics, Source.slow (.fixed f) = false := by decide
    exact hnone f hf
  | _ => rfl

/-- Known readings under names that are apart have slots of their own. -/
theorem Filed.oneSourceOneSlot (h : Filed m c) (hapart : NamesApart m)
    (hknown : ReadsKnown T m s now later) :
    OneSourceOneSlot c (c.sampleReadings now later s).2 := by
  have hfast : ∀ w ∈ (c.sampleReadings now later s).2.values, c.discovery.Has w.source w.idx :=
    fun w hw => h.has_of_fastReading hapart hknown (fastReading_of_mem hw)
  have hheld : ∀ w ∈ (c.sampleReadings now later s).2.held, c.discovery.Has w.source w.idx := by
    intro w hw
    obtain ⟨hdue, hreading⟩ := heldReading_of_mem hw
    exact h.has_of_heldReading hknown hdue hreading
  have hall : ∀ w ∈ (c.sampleReadings now later s).2.values ++
      (c.sampleReadings now later s).2.held, c.discovery.Has w.source w.idx := by
    intro w hw
    rcases List.mem_append.mp hw with hw | hw
    · exact hfast w hw
    · exact hheld w hw
  constructor
  · intro w hw
    obtain ⟨e, he, hsource, hidx⟩ := hall w hw
    exact ⟨e, he, hsource, hidx, hidx ▸ c.discovery.idAt_of_mem e he⟩
  · intro e he e' he' hidx
    exact h.source_eq hapart ⟨e, he, rfl, rfl⟩ ⟨e', he', rfl, hidx.symm⟩
  · intro w hw
    by_contra hslow
    obtain ⟨source, hsource, hhas⟩ := h.has_of_isSlow ((Bool.not_eq_false _).mp hslow)
    rw [h.source_eq hapart hhas (hfast w hw), slow_of_fastReading (fastReading_of_mem hw)] at hsource
    cases hsource
  · intro w hw hzero
    exact h.source_eq hapart (hzero ▸ hall w hw) h.has_cpuUsage

theorem Filed.mem_cores_of_has (h : Filed m c) {n : ℕ} {q : CoreMetric}
    (hhas : c.discovery.Has (.core n q) i) : n ∈ m.cores := by
  obtain ⟨r, hr, hsource, -⟩ := h.registered hhas
  cases hr with
  | core hn q => exact (Source.core.inj hsource).1 ▸ hn
  | _ => cases hsource

theorem Filed.mem_ifaceNames_of_has (h : Filed m c) {name : Bytes} {q : IfaceMetric}
    (hhas : c.discovery.Has (.iface name q) i) : name ∈ m.ifaceNames := by
  obtain ⟨r, hr, hsource, -⟩ := h.registered hhas
  cases hr with
  | iface hname q => exact (Source.iface.inj hsource).1 ▸ hname
  | _ => cases hsource

theorem Filed.mem_diskNames_of_has (h : Filed m c) {name : Bytes} {q : DiskMetric}
    (hhas : c.discovery.Has (.disk name q) i) : name ∈ m.diskNames := by
  obtain ⟨r, hr, hsource, -⟩ := h.registered hhas
  cases hr with
  | disk hname q => exact (Source.disk.inj hsource).1 ▸ hname
  | _ => cases hsource

/-- Where every reading has a slot of its own, what is read was found. -/
theorem Filed.readsKnown (h : Filed m c) (hapart : NamesApart m)
    (hregistered : ∀ w ∈ (c.sampleReadings now later s).2.values ++
      (c.sampleReadings now later s).2.held, c.discovery.Has w.source w.idx) :
    ReadsKnown T m s now later where
  coreLines line hline n hcore hbelow := by
    obtain ⟨rest, hcpu⟩ := exists_cpuLine hcore ((h.nCores n).mpr hbelow)
    obtain ⟨w, hw, hsource, -⟩ := exists_write_core c later s now hline hcpu
    exact h.mem_cores_of_has (hsource ▸ hregistered w (List.mem_append_left _ hw))
  coreFreqs hfile n hnum hbelow := by
    have hfreq : (n, (readDouble later (freqPath n) : T)) ∈ c.coreFreqs later :=
      List.mem_filter.mpr ⟨List.mem_map_of_mem (List.mem_range.mpr ((h.nCores n).mpr hbelow)),
        by simpa using hnum⟩
    obtain ⟨w, hw, hsource, -⟩ := exists_write_freq c later s now hfile hfreq
    exact h.mem_cores_of_has (hsource ▸ hregistered w (List.mem_append_left _ hw))
  ifaces line hline name hname htext := by
    obtain ⟨entry, hentry⟩ := h.exists_findIface hname
    rw [htext] at hentry
    obtain ⟨w, hw, hsource, -⟩ := exists_write_iface c later s now hline hentry
    have hfound := h.mem_ifaceNames_of_has (hsource ▸ hregistered w (List.mem_append_left _ hw))
    refine hapart.ifaces name hname line.1 hfound ?_
    rw [Lib.strlcpy, Lib.cString_eq_self (Machine.zero_notMem_of_mem_ifaceNames hname)] at htext
    rw [sanitizeName, sanitizeName, ← htext, List.take_take, Nat.min_self]
  disks hfirst line hline hscanned name hname word hword htext := by
    obtain ⟨⟨scanned, counters⟩, hscan⟩ := Option.isSome_iff_exists.mp hscanned
    obtain ⟨whole, hwhole, rfl⟩ := Machine.diskWord_of_scanDiskLine hscan
    obtain rfl : whole = word := Option.some.inj (hwhole.symm.trans hword)
    obtain ⟨entry, hentry⟩ := h.exists_findDisk hname
    rw [htext] at hentry
    obtain ⟨w, hw, hsource, -⟩ := exists_write_disk c later s now hfirst hline hscan hentry
    rw [hword, Option.getD_some] at hsource
    have hfound := h.mem_diskNames_of_has (hsource ▸ hregistered w (List.mem_append_left _ hw))
    exact hapart.disks name hname whole hfound (by rw [htext])
  ports hdue body hbody entry hentry := by
    rw [h.zip_ports, h.length_ports] at hentry
    obtain ⟨pair, hpair, rfl⟩ := List.mem_map.mp hentry
    obtain ⟨w, hw, hsource, hidx⟩ := exists_write_poe c later s now hdue hbody hpair
    have hhas := hregistered w (List.mem_append_right _ hw)
    rw [hsource, hidx] at hhas
    have hown := h.poe _ (List.of_mem_zip hpair).1 .power
    exact (Source.poe.inj (h.source_eq hapart hhas hown)).1

end CollectorSlots

/-- Whatever discovery finds, and whatever is read in the last of any run of samples. -/
theorem oneSourceOneSlot_iff (found : Machine) (run : List (ℤ × Machine)) (now : ℤ)
    (later : Machine) :
    OneSourceOneSlot (collectorAfter V found run).slots
        ((collectorAfter V found run).slots.sampleReadings now later
          (collectorAfter V found run).state).2 ↔
      NamesApart found ∧ ReadsKnown T found (collectorAfter V found run).state now later := by
  rw [slots_collectorAfter]
  have hfiled := CollectorSlots.filed_discover found
  constructor
  · intro hone
    have hapart := hfiled.namesApart hone.apart
    refine ⟨hapart, hfiled.readsKnown hapart fun w hw => ?_⟩
    obtain ⟨e, he, hsource, hidx, -⟩ := hone.registered w hw
    exact ⟨e, he, hsource, hidx⟩
  · rintro ⟨hapart, hknown⟩
    exact hfiled.oneSourceOneSlot hapart hknown

/-- A machine with nothing to read but a processor file. -/
def statMachine (stat : Bytes) : Machine where
  file path := if path = ascii "/proc/stat" then some stat else none
  isDir _ := false
  fileExists _ := false
  dirNames _ := none
  statvfs _ := none
  vapixGet _ := none

/-- The second core is off at discovery, and on at the first sample. -/
def coreOff : Machine := statMachine (ascii "cpu  90 0 90 0\ncpu0 45 0 45 0\ncpu2 45 0 45 0\n")

def coreOn : Machine :=
  statMachine (ascii "cpu  99 0 99 0\ncpu0 45 0 45 0\ncpu1 9 0 9 0\ncpu2 45 0 45 0\n")

/-- The usage of the core that came on goes where that of all cores goes. -/
theorem not_oneSourceOneSlot_coreOn :
    ¬ OneSourceOneSlot (collectorAfter (Option ℚ) coreOff []).slots
      ((collectorAfter (Option ℚ) coreOff []).slots.sampleReadings 1000000 coreOn
        (collectorAfter (Option ℚ) coreOff []).state).2 := by
  intro hone
  have hfiled := CollectorSlots.filed_discover coreOff
  have hcores : coreOff.cores = [0, 2] := by decide
  have hline : ascii "cpu1 9 0 9 0\n" ∈ coreOn.lines (ascii "/proc/stat") 512 := by decide
  have hcore : Machine.coreLine (ascii "cpu1 9 0 9 0\n") = some 1 := by decide
  have hbelow : 1 < (discover coreOff).nCores :=
    (hfiled.nCores 1).mpr ⟨2, by rw [hcores]; decide, by decide⟩
  obtain ⟨rest, hcpu⟩ := CollectorSlots.exists_cpuLine hcore hbelow
  obtain ⟨w, hw, hsource, hidx⟩ := CollectorSlots.exists_write_core (discover coreOff) coreOn
    (collectorAfter (Option ℚ) coreOff []).state 1000000 hline hcpu
  rw [hfiled.gaps 1 (by rw [hcores]; decide)] at hidx
  have hzero := hone.slotZero w (List.mem_append_left _ hw) hidx
  rw [hsource] at hzero
  cases hzero

end AxisMetrics
