import AxisMetrics.Collect.Collector

/-!
# What discovery leaves

Every index field of the collector holds the index that its own metric was registered with, or zero
where nothing was registered for it.
-/

namespace AxisMetrics

open Lib (Bytes ascii strlcpy)

/-- An entry of the mount table was scanned. -/
theorem Machine.exists_scanMount {n : ℕ} {text : Bytes} {entry : Machine.MountEntry}
    (h : entry ∈ mountEntries n text) : ∃ before rest, scanMount before = some (entry, rest) := by
  induction n generalizing text with
  | zero => cases h
  | succ n ih =>
    rw [mountEntries] at h
    cases hscan : scanMount text with
    | none =>
      rw [hscan] at h
      cases h
    | some scanned =>
      rw [hscan] at h
      rcases List.mem_cons.mp h with rfl | hrest
      · exact ⟨text, scanned.2, hscan⟩
      · exact ih hrest

namespace CollectorSlots

/-- The metrics that are registered without a device. -/
def fixedFound (m : Machine) : List FixedMetric :=
  cpuMetrics ++ systemMetrics ++ sensorMetrics m ++ poeMetrics m ++ flashMetrics m

/-- What is registered. -/
inductive Found (m : Machine) : Registration → Prop where
  | fixed {metric : FixedMetric} (h : metric ∈ fixedFound m) : Found m metric.registration
  | core {core : ℕ} (h : core ∈ m.cores) (q : CoreMetric) : Found m (q.registration core)
  | zone {zone : ℕ} {type : Bytes} (h : (type, zone) ∈ m.zoneTypes.zipIdx) :
    Found m (zoneRegistration zone type)
  | iface {name : Bytes} (h : name ∈ m.ifaceNames) (q : IfaceMetric) : Found m (q.registration name)
  | disk {name : Bytes} (h : name ∈ m.diskNames) (q : DiskMetric) : Found m (q.registration name)
  | mount {mountpoint : Bytes} (h : mountpoint ∈ m.mountpoints) (q : MountMetric) :
    Found m (q.registration mountpoint)
  | sensor {index : ℕ} {name : Bytes} (h : (index, name) ∈ m.sensorNames) :
    Found m (sensorRegistration index name)
  | poe {port : ℕ} (h : port ∈ m.ports) (q : PoeMetric) : Found m (q.registration port)

theorem mem_coreFields (q : CoreMetric) : q ∈ coreFields := by cases q <;> simp [coreFields]

theorem mem_ifaceFields (q : IfaceMetric) : q ∈ ifaceFields := by cases q <;> simp [ifaceFields]

theorem mem_diskFields (q : DiskMetric) : q ∈ diskFields := by cases q <;> simp [diskFields]

theorem mem_mountFields (q : MountMetric) : q ∈ mountFields := by cases q <;> simp [mountFields]

theorem mem_poeFields (q : PoeMetric) : q ∈ poeFields := by cases q <;> simp [poeFields]

/-- What the collector keeps is what discovery found, each with its own index. -/
structure Filed (m : Machine) (c : CollectorSlots) : Prop where
  keys : ∀ key, key ∈ c.discovery.keys ↔ ∃ r, Found m r ∧ key = r.key
  fixed : ∀ f ∈ fixedFound m, c.discovery.Has (.fixed f) (c.idx f)
  unset : ∀ f ∉ fixedFound m, c.idx f = 0
  cpuUsage : c.idx .cpuUsage = 0
  cores : ∀ n ∈ m.cores, ∀ q, c.discovery.Has (.core n q) (c.idxCore n q)
  gaps : ∀ n ∉ m.cores, c.idxCore n = fun _ => 0
  nCores : ∀ n, n < c.nCores ↔ ∃ k ∈ m.cores, n ≤ k
  zones : ∀ zone ∈ c.zones, c.discovery.Has (.zone zone.zone) zone.idx
  ifaces : ∀ iface ∈ c.ifaces, ∃ name ∈ m.ifaceNames, iface.name = strlcpy 32 name ∧
    ∀ q, c.discovery.Has (.iface name q) (iface.idx q)
  ifaceNames : c.ifaces.map Iface.name = m.ifaceNames.map (strlcpy 32)
  disks : ∀ disk ∈ c.disks, ∃ name ∈ m.diskNames, disk.name = strlcpy 32 (name.take 31) ∧
    ∀ q, c.discovery.Has (.disk name q) (disk.idx q)
  diskNames : c.disks.map Disk.name = m.diskNames.map fun name => strlcpy 32 (name.take 31)
  mounts : ∀ mount ∈ c.mounts, ∃ mountpoint ∈ m.mountpoints,
    mount.mountpoint = strlcpy 128 mountpoint ∧
    ∀ q, c.discovery.Has (.mount mountpoint q) (mount.idx q)
  sensors : ∀ sensor ∈ c.sensors, c.discovery.Has (.sensor sensor.index) sensor.idx
  poe : ∀ port ∈ c.poe, ∀ q, c.discovery.Has (.poe (some port.port) q) (port.idx q)
  ports : c.poe.map PoePort.port = m.ports
  flash : c.flashLifePath ≠ [] → .flashLife ∈ fixedFound m ∧ .flashEol ∈ fixedFound m

-- ════════════════════════════════════════════════════════════════════════
-- Metrics that are not of a device
-- ════════════════════════════════════════════════════════════════════════

/-- Of these metrics, and of no others, an index is set, and it is their own. -/
def FixedFiled (metrics : List FixedMetric) (d : Discovery) (idx : FixedMetric → ℕ) : Prop :=
  ∀ f, if f ∈ metrics then d.Has (.fixed f) (idx f) else idx f = 0

theorem FixedFiled.grow {metrics : List FixedMetric} {d d' : Discovery} {idx : FixedMetric → ℕ}
    (h : FixedFiled metrics d idx) (hgrows : d.Grows d') : FixedFiled metrics d' idx := by
  intro f
  have hf := h f
  split at hf
  · next hmem =>
    rw [if_pos hmem]
    exact hf.grow hgrows
  · next hmem =>
    rw [if_neg hmem]
    exact hf

/-- Registering more of them. -/
theorem FixedFiled.regFixed {metrics : List FixedMetric} {c : CollectorSlots}
    (h : FixedFiled metrics c.discovery c.idx) (more : List FixedMetric) :
    FixedFiled (metrics ++ more) (c.regFixed more).discovery (c.regFixed more).idx := by
  intro f
  by_cases hmore : f ∈ more
  · rw [if_pos (List.mem_append_right _ hmore)]
    exact Discovery.has_regFields hmore
  · have hidx : (c.regFixed more).idx f = c.idx f := Discovery.regFields_of_notMem hmore
    have hf := h f
    rw [hidx]
    by_cases hmem : f ∈ metrics
    · rw [if_pos hmem] at hf
      rw [if_pos (List.mem_append_left _ hmem)]
      exact hf.grow Discovery.grows_regFields
    · rw [if_neg hmem] at hf
      rw [if_neg (List.not_mem_append hmem hmore), hf]

theorem grows_regFixed (c : CollectorSlots) (metrics : List FixedMetric) :
    c.discovery.Grows (c.regFixed metrics).discovery := Discovery.grows_regFields

theorem keys_regFixed (c : CollectorSlots) (metrics : List FixedMetric) :
    (c.regFixed metrics).discovery.keys =
      c.discovery.keys ++ metrics.map fun f => f.registration.key :=
  Discovery.keys_regFields

-- ════════════════════════════════════════════════════════════════════════
-- Cores
-- ════════════════════════════════════════════════════════════════════════

section Cores

variable {F : Type} {found : List (ℕ × (F → ℕ))} {idx : ℕ → F → ℕ} {n : ℕ}

theorem foldl_update_of_notMem (h : n ∉ found.map Prod.fst) :
    found.foldl (fun idx entry => Function.update idx entry.1 entry.2) idx n = idx n := by
  induction found generalizing idx with
  | nil => rfl
  | cons entry found ih =>
    rw [List.map_cons, List.mem_cons, not_or] at h
    rw [List.foldl_cons, ih h.2, Function.update_of_ne h.1]

theorem foldl_update_of_mem (h : n ∈ found.map Prod.fst) :
    (n, found.foldl (fun idx entry => Function.update idx entry.1 entry.2) idx n) ∈ found := by
  induction found generalizing idx with
  | nil => cases h
  | cons entry found ih =>
    rw [List.foldl_cons]
    by_cases hlater : n ∈ found.map Prod.fst
    · exact List.mem_cons_of_mem _ (ih hlater)
    · rw [List.map_cons] at h
      obtain rfl : n = entry.1 := (List.mem_cons.mp h).resolve_right hlater
      rw [foldl_update_of_notMem hlater, Function.update_self]
      exact List.mem_cons_self

theorem lt_foldl_max {cores : List ℕ} {k : ℕ} :
    n < cores.foldl (fun m core => max m (core + 1)) k ↔ n < k ∨ ∃ core ∈ cores, n ≤ core := by
  induction cores generalizing k with
  | nil => simp
  | cons core cores ih =>
    rw [List.foldl_cons, ih, lt_max_iff, Nat.lt_succ_iff, or_assoc]
    simp only [List.mem_cons, exists_eq_or_imp]

end Cores

-- ════════════════════════════════════════════════════════════════════════
-- The discovery functions, one by one
-- ════════════════════════════════════════════════════════════════════════

section Devices

variable {A F : Type} [DecidableEq F] {d : Discovery} {devices : List A} {fields : List F}
  {registration : A → F → Registration} {entry : A × (F → ℕ)}

theorem mem_of_mem_regDevices (h : entry ∈ (d.regDevices devices fields registration).2) :
    entry.1 ∈ devices := by
  have hdevices : (d.regDevices devices fields registration).2.map Prod.fst = devices :=
    Discovery.map_fst_regDevices
  rw [← hdevices]
  exact List.mem_map_of_mem h

theorem map_regDevices {B C : Type} {make : A × (F → ℕ) → B} {part : B → C} {g : A → C}
    (hpart : ∀ entry, part (make entry) = g entry.1) :
    ((d.regDevices devices fields registration).2.map make).map part = devices.map g := by
  have hdevices : (d.regDevices devices fields registration).2.map Prod.fst = devices :=
    Discovery.map_fst_regDevices
  conv_rhs => rw [← hdevices]
  rw [List.map_map, List.map_map]
  exact List.map_congr_left fun entry _ => hpart entry

end Devices

variable (m : Machine) (c : CollectorSlots)

theorem grows_discoverZones : c.discovery.Grows (discoverZones m c).discovery :=
  Discovery.grows_regDevices

theorem grows_discoverIfaces : c.discovery.Grows (discoverIfaces m c).discovery :=
  Discovery.grows_regDevices

theorem grows_discoverDisks : c.discovery.Grows (discoverDisks m c).discovery :=
  Discovery.grows_regDevices

theorem grows_discoverMounts : c.discovery.Grows (discoverMounts m c).discovery :=
  Discovery.grows_regDevices

theorem grows_discoverSensors : c.discovery.Grows (discoverSensors m c).discovery :=
  Discovery.Grows.trans Discovery.grows_regDevices Discovery.grows_regFields

theorem grows_discoverPoe : c.discovery.Grows (discoverPoe m c).discovery :=
  Discovery.Grows.trans Discovery.grows_regDevices Discovery.grows_regFields

theorem cores_discoverCpu : ∀ n ∈ m.cores, ∀ q,
    (discoverCpu m c).discovery.Has (.core n q) ((discoverCpu m c).idxCore n q) := by
  intro n hn q
  have hmem : n ∈ ((c.regFixed cpuMetrics).discovery.regDevices m.cores coreFields
      CoreMetric.registration).2.map Prod.fst := by
    rwa [Discovery.map_fst_regDevices]
  have hfound : (n, (discoverCpu m c).idxCore n) ∈ ((c.regFixed cpuMetrics).discovery.regDevices
      m.cores coreFields CoreMetric.registration).2 := foldl_update_of_mem hmem
  have hhas := Discovery.has_regDevices hfound (mem_coreFields q)
  exact hhas

theorem gaps_discoverCpu : ∀ n ∉ m.cores, (discoverCpu m c).idxCore n = c.idxCore n := by
  intro n hn
  refine foldl_update_of_notMem ?_
  rwa [Discovery.map_fst_regDevices]

theorem zones_discoverZones : ∀ zone ∈ (discoverZones m c).zones,
    (discoverZones m c).discovery.Has (.zone zone.zone) zone.idx := by
  intro zone hzone
  obtain ⟨entry, hentry, rfl⟩ := List.mem_map.mp hzone
  exact Discovery.has_regDevices hentry (List.mem_singleton.mpr rfl)

theorem ifaces_discoverIfaces : ∀ iface ∈ (discoverIfaces m c).ifaces, ∃ name ∈ m.ifaceNames,
    iface.name = strlcpy 32 name ∧
    ∀ q, (discoverIfaces m c).discovery.Has (.iface name q) (iface.idx q) := by
  intro iface hiface
  obtain ⟨entry, hentry, rfl⟩ := List.mem_map.mp hiface
  refine ⟨entry.1, mem_of_mem_regDevices hentry, rfl, ?_⟩
  intro q
  exact Discovery.has_regDevices hentry (mem_ifaceFields q)

theorem names_discoverIfaces :
    (discoverIfaces m c).ifaces.map Iface.name = m.ifaceNames.map (strlcpy 32) := by
  rw [discoverIfaces]
  exact map_regDevices fun entry => rfl

theorem disks_discoverDisks : ∀ disk ∈ (discoverDisks m c).disks, ∃ name ∈ m.diskNames,
    disk.name = strlcpy 32 (name.take 31) ∧
    ∀ q, (discoverDisks m c).discovery.Has (.disk name q) (disk.idx q) := by
  intro disk hdisk
  obtain ⟨entry, hentry, rfl⟩ := List.mem_map.mp hdisk
  refine ⟨entry.1, mem_of_mem_regDevices hentry, rfl, ?_⟩
  intro q
  exact Discovery.has_regDevices hentry (mem_diskFields q)

theorem names_discoverDisks : (discoverDisks m c).disks.map Disk.name =
    m.diskNames.map fun name => strlcpy 32 (name.take 31) := by
  rw [discoverDisks]
  exact map_regDevices fun entry => rfl

theorem mounts_discoverMounts : ∀ mount ∈ (discoverMounts m c).mounts,
    ∃ mountpoint ∈ m.mountpoints, mount.mountpoint = strlcpy 128 mountpoint ∧
    ∀ q, (discoverMounts m c).discovery.Has (.mount mountpoint q) (mount.idx q) := by
  intro mount hmount
  obtain ⟨entry, hentry, rfl⟩ := List.mem_map.mp hmount
  refine ⟨entry.1, mem_of_mem_regDevices hentry, rfl, ?_⟩
  intro q
  exact Discovery.has_regDevices hentry (mem_mountFields q)

theorem sensors_discoverSensors : ∀ sensor ∈ (discoverSensors m c).sensors,
    (discoverSensors m c).discovery.Has (.sensor sensor.index) sensor.idx := by
  intro sensor hsensor
  obtain ⟨entry, hentry, rfl⟩ := List.mem_map.mp hsensor
  have hhas := Discovery.has_regDevices hentry (List.mem_singleton.mpr (rfl : () = ()))
  exact hhas.grow Discovery.grows_regFields

theorem poe_discoverPoe : ∀ port ∈ (discoverPoe m c).poe, ∀ q,
    (discoverPoe m c).discovery.Has (.poe (some port.port) q) (port.idx q) := by
  intro port hport q
  obtain ⟨entry, hentry, rfl⟩ := List.mem_map.mp hport
  have hhas := Discovery.has_regDevices hentry (mem_poeFields q)
  exact hhas.grow Discovery.grows_regFields

theorem ports_discoverPoe : (discoverPoe m c).poe.map PoePort.port = m.ports := by
  have hports : (discoverPoe m c).poe.map PoePort.port = m.ports.map id := by
    rw [discoverPoe]
    exact map_regDevices fun entry => rfl
  rw [hports, List.map_id]

section Fixed

variable {m c} {metrics : List FixedMetric}

theorem FixedFiled.discoverMounts (h : FixedFiled metrics c.discovery c.idx) :
    FixedFiled metrics (discoverMounts m (discoverDisks m (discoverIfaces m
      (discoverZones m c)))).discovery c.idx :=
  h.grow ((grows_discoverZones m c).trans ((grows_discoverIfaces m _).trans
    ((grows_discoverDisks m _).trans (grows_discoverMounts m _))))

theorem FixedFiled.discoverSensors (h : FixedFiled metrics c.discovery c.idx) :
    FixedFiled (metrics ++ sensorMetrics m) (discoverSensors m c).discovery
      (discoverSensors m c).idx := by
  rw [CollectorSlots.discoverSensors]
  refine FixedFiled.regFixed ?_ _
  exact h.grow Discovery.grows_regDevices

theorem FixedFiled.discoverPoe (h : FixedFiled metrics c.discovery c.idx) :
    FixedFiled (metrics ++ poeMetrics m) (discoverPoe m c).discovery (discoverPoe m c).idx := by
  rw [CollectorSlots.discoverPoe]
  refine FixedFiled.regFixed ?_ _
  exact h.grow Discovery.grows_regDevices

end Fixed

theorem fixedFiled_discover : FixedFiled (fixedFound m) (discover m).discovery (discover m).idx := by
  have hnone : FixedFiled [] zeroed.discovery zeroed.idx := fun f => rfl
  have hcpu : FixedFiled cpuMetrics (discoverCpu m zeroed).discovery (discoverCpu m zeroed).idx :=
    (hnone.regFixed cpuMetrics).grow Discovery.grows_regDevices
  have hmounts := (hcpu.regFixed systemMetrics).discoverMounts (m := m)
  have hpoe := (FixedFiled.discoverSensors (m := m) hmounts).discoverPoe (m := m)
  exact hpoe.regFixed (flashMetrics m)

theorem idx_regFixed {metrics : List FixedMetric} {f : FixedMetric} (h : f ∉ metrics) :
    (c.regFixed metrics).idx f = c.idx f := Discovery.regFields_of_notMem h

theorem idx_discoverSensors {f : FixedMetric} (h : f ∉ sensorMetrics m) :
    (discoverSensors m c).idx f = c.idx f := by
  rw [discoverSensors, idx_regFixed _ h]

theorem idx_discoverPoe {f : FixedMetric} (h : f ∉ poeMetrics m) :
    (discoverPoe m c).idx f = c.idx f := by
  rw [discoverPoe, idx_regFixed _ h]

theorem idx_discoverFlashWear {f : FixedMetric} (h : f ∉ flashMetrics m) :
    (discoverFlashWear m c).idx f = c.idx f := by
  rw [discoverFlashWear, idx_regFixed _ h]

theorem cpuUsage_notMem_more :
    .cpuUsage ∉ systemMetrics ∧ .cpuUsage ∉ sensorMetrics m ∧ .cpuUsage ∉ poeMetrics m ∧
      .cpuUsage ∉ flashMetrics m := by
  refine ⟨by decide, ?_, ?_, ?_⟩
  · rw [sensorMetrics]
    split <;> split <;> decide
  · rw [poeMetrics]
    split <;> decide
  · rw [flashMetrics]
    split <;> decide

/-- The first metric of all. -/
theorem cpuUsage_discoverCpu : (discoverCpu m zeroed).idx .cpuUsage = 0 := by
  have hidx : (discoverCpu m zeroed).idx =
      (Discovery.init.regFields (fun _ => 0) cpuMetrics FixedMetric.registration).2 := rfl
  rw [hidx, cpuMetrics, Discovery.regFields_cons, Discovery.regFields_of_notMem (by decide),
    Function.update_self]
  rfl

theorem cpuUsage_discover : (discover m).idx .cpuUsage = 0 := by
  obtain ⟨hsystem, hsensors, hpoe, hflash⟩ := cpuUsage_notMem_more m
  have hmounts : (discoverMounts m (discoverDisks m (discoverIfaces m (discoverZones m
      (discoverSystem (discoverCpu m zeroed)))))).idx =
        (discoverSystem (discoverCpu m zeroed)).idx := rfl
  rw [discover, idx_discoverFlashWear m _ hflash, idx_discoverPoe m _ hpoe,
    idx_discoverSensors m _ hsensors, hmounts, discoverSystem, idx_regFixed _ hsystem,
    cpuUsage_discoverCpu]

theorem flash_discover (h : (discover m).flashLifePath ≠ []) :
    .flashLife ∈ fixedFound m ∧ .flashEol ∈ fixedFound m := by
  have hpath : (discover m).flashLifePath = (m.flashPaths.map Prod.fst).getD [] := rfl
  rw [hpath] at h
  cases hpaths : m.flashPaths with
  | none =>
    rw [hpaths] at h
    exact absurd rfl h
  | some paths => simp [fixedFound, flashMetrics, hpaths]

theorem nCores_discoverCpu (n : ℕ) :
    n < (discoverCpu m zeroed).nCores ↔ ∃ core ∈ m.cores, n ≤ core := by
  have hmax : n < (discoverCpu m zeroed).nCores ↔ n < 0 ∨ ∃ core ∈ m.cores, n ≤ core :=
    lt_foldl_max
  simpa using hmax

-- ════════════════════════════════════════════════════════════════════════
-- All of them
-- ════════════════════════════════════════════════════════════════════════

theorem keys_discover :
    (discover m).discovery.keys =
      (cpuMetrics.map fun f => f.registration.key) ++
      (m.cores.flatMap fun n => coreFields.map fun q =>
        (q.registration n).key) ++
      (systemMetrics.map fun f => f.registration.key) ++
      (m.zoneTypes.zipIdx.flatMap fun zone => [()].map fun _ =>
        (zoneRegistration zone.2 zone.1).key) ++
      (m.ifaceNames.flatMap fun name => ifaceFields.map fun q =>
        (q.registration name).key) ++
      (m.diskNames.flatMap fun name => diskFields.map fun q =>
        (q.registration name).key) ++
      (m.mountpoints.flatMap fun mountpoint => mountFields.map fun q =>
        (q.registration mountpoint).key) ++
      (m.sensorNames.flatMap fun sensor => [()].map fun _ =>
        (sensorRegistration sensor.1 sensor.2).key) ++
      ((sensorMetrics m).map fun f => f.registration.key) ++
      (m.ports.flatMap fun port => poeFields.map fun q =>
        (q.registration port).key) ++
      ((poeMetrics m).map fun f => f.registration.key) ++
      ((flashMetrics m).map fun f => f.registration.key) := by
  rw [discover, discoverFlashWear, keys_regFixed, discoverPoe, keys_regFixed,
    Discovery.keys_regDevices, discoverSensors, keys_regFixed, Discovery.keys_regDevices,
    discoverMounts, Discovery.keys_regDevices, discoverDisks, Discovery.keys_regDevices,
    discoverIfaces, Discovery.keys_regDevices, discoverZones, Discovery.keys_regDevices,
    discoverSystem, keys_regFixed, discoverCpu, Discovery.keys_regDevices, keys_regFixed]
  rfl

/-- What was registered is what was found. -/
theorem mem_keys_discover (key : Source × Bytes) :
    key ∈ (discover m).discovery.keys ↔ ∃ r, Found m r ∧ key = r.key := by
  rw [keys_discover]
  simp only [List.mem_append, List.mem_map, List.mem_flatMap, List.mem_singleton]
  constructor
  · rintro (((((((((((h | h) | h) | h) | h) | h) | h) | h) | h) | h) | h) | h)
    · obtain ⟨f, hf, rfl⟩ := h
      exact ⟨_, .fixed (by simp [fixedFound, hf]), rfl⟩
    · obtain ⟨n, hn, q, -, rfl⟩ := h
      exact ⟨_, .core hn q, rfl⟩
    · obtain ⟨f, hf, rfl⟩ := h
      exact ⟨_, .fixed (by simp [fixedFound, hf]), rfl⟩
    · obtain ⟨zone, hzone, _, -, rfl⟩ := h
      exact ⟨_, .zone hzone, rfl⟩
    · obtain ⟨name, hname, q, -, rfl⟩ := h
      exact ⟨_, .iface hname q, rfl⟩
    · obtain ⟨name, hname, q, -, rfl⟩ := h
      exact ⟨_, .disk hname q, rfl⟩
    · obtain ⟨mountpoint, hmountpoint, q, -, rfl⟩ := h
      exact ⟨_, .mount hmountpoint q, rfl⟩
    · obtain ⟨sensor, hsensor, _, -, rfl⟩ := h
      exact ⟨_, .sensor hsensor, rfl⟩
    · obtain ⟨f, hf, rfl⟩ := h
      exact ⟨_, .fixed (by simp [fixedFound, hf]), rfl⟩
    · obtain ⟨port, hport, q, -, rfl⟩ := h
      exact ⟨_, .poe hport q, rfl⟩
    · obtain ⟨f, hf, rfl⟩ := h
      exact ⟨_, .fixed (by simp [fixedFound, hf]), rfl⟩
    · obtain ⟨f, hf, rfl⟩ := h
      exact ⟨_, .fixed (by simp [fixedFound, hf]), rfl⟩
  · rintro ⟨r, hr, rfl⟩
    cases hr with
    | @fixed f h =>
      simp only [fixedFound, List.mem_append] at h
      rcases h with (((h | h) | h) | h) | h
      · iterate 11 left
        exact ⟨f, h, rfl⟩
      · iterate 9 left
        exact .inr ⟨f, h, rfl⟩
      · iterate 3 left
        exact .inr ⟨f, h, rfl⟩
      · left
        exact .inr ⟨f, h, rfl⟩
      · exact .inr ⟨f, h, rfl⟩
    | core h q =>
      iterate 10 left
      exact .inr ⟨_, h, q, mem_coreFields q, rfl⟩
    | zone h =>
      iterate 8 left
      exact .inr ⟨_, h, (), trivial, rfl⟩
    | iface h q =>
      iterate 7 left
      exact .inr ⟨_, h, q, mem_ifaceFields q, rfl⟩
    | disk h q =>
      iterate 6 left
      exact .inr ⟨_, h, q, mem_diskFields q, rfl⟩
    | mount h q =>
      iterate 5 left
      exact .inr ⟨_, h, q, mem_mountFields q, rfl⟩
    | sensor h =>
      iterate 4 left
      exact .inr ⟨_, h, (), trivial, rfl⟩
    | poe h q =>
      iterate 2 left
      exact .inr ⟨_, h, q, mem_poeFields q, rfl⟩

/-- Discovery files what it finds. -/
theorem filed_discover : Filed m (discover m) := by
  let c₁ := discoverCpu m zeroed
  let c₂ := discoverSystem c₁
  let c₃ := discoverZones m c₂
  let c₄ := discoverIfaces m c₃
  let c₅ := discoverDisks m c₄
  let c₆ := discoverMounts m c₅
  let c₇ := discoverSensors m c₆
  let c₈ := discoverPoe m c₇
  -- what was registered at each stage is registered in the end
  have g₈ : c₈.discovery.Grows (discover m).discovery := Discovery.grows_regFields
  have g₇ : c₇.discovery.Grows (discover m).discovery := (grows_discoverPoe m c₇).trans g₈
  have g₆ : c₆.discovery.Grows (discover m).discovery := (grows_discoverSensors m c₆).trans g₇
  have g₅ : c₅.discovery.Grows (discover m).discovery := (grows_discoverMounts m c₅).trans g₆
  have g₄ : c₄.discovery.Grows (discover m).discovery := (grows_discoverDisks m c₄).trans g₅
  have g₃ : c₃.discovery.Grows (discover m).discovery := (grows_discoverIfaces m c₃).trans g₄
  have g₂ : c₂.discovery.Grows (discover m).discovery := (grows_discoverZones m c₂).trans g₃
  have g₁ : c₁.discovery.Grows (discover m).discovery := (grows_regFixed c₁ _).trans g₂
  have hfixed := fixedFiled_discover m
  exact {
    keys := mem_keys_discover m
    fixed := fun f hf => by
      have h := hfixed f
      rwa [if_pos hf] at h
    unset := fun f hf => by
      have h := hfixed f
      rwa [if_neg hf] at h
    cpuUsage := cpuUsage_discover m
    cores := fun n hn q => (cores_discoverCpu m zeroed n hn q).grow g₁
    gaps := gaps_discoverCpu m zeroed
    nCores := nCores_discoverCpu m
    zones := fun zone hzone => (zones_discoverZones m c₂ zone hzone).grow g₃
    ifaces := fun iface hiface => by
      obtain ⟨name, hname, htext, hhas⟩ := ifaces_discoverIfaces m c₃ iface hiface
      exact ⟨name, hname, htext, fun q => (hhas q).grow g₄⟩
    ifaceNames := names_discoverIfaces m c₃
    disks := fun disk hdisk => by
      obtain ⟨name, hname, htext, hhas⟩ := disks_discoverDisks m c₄ disk hdisk
      exact ⟨name, hname, htext, fun q => (hhas q).grow g₅⟩
    diskNames := names_discoverDisks m c₄
    mounts := fun mount hmount => by
      obtain ⟨mountpoint, hmountpoint, htext, hhas⟩ := mounts_discoverMounts m c₅ mount hmount
      exact ⟨mountpoint, hmountpoint, htext, fun q => (hhas q).grow g₆⟩
    sensors := fun sensor hsensor => (sensors_discoverSensors m c₆ sensor hsensor).grow g₇
    poe := fun port hport q => (poe_discoverPoe m c₇ port hport q).grow g₈
    ports := ports_discoverPoe m c₇
    flash := flash_discover m }

end CollectorSlots

end AxisMetrics
