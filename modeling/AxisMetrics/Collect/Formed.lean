import AxisMetrics.Collect.Registry

/-!
# Ids and units as discovery forms them

`Formed` has the shapes of the ids that the discovery functions write, with the unit of each,
whatever the devices are called. The metrics of a registry that discovery left are formed, where
the buffer of the ids cut none (`Machine.formed`).
-/

namespace AxisMetrics

open Lib (Bytes ascii dotted decimal isAlnum strlcpy)

/-- An id as it is written before the buffer cuts it, and its unit. -/
inductive Formed : Bytes → Bytes → Prop where
  | fixed (f : FixedMetric) : Formed (ascii f.strings.1) (ascii f.strings.2.2.1)
  | core (core : ℕ) (q : CoreMetric) :
    Formed (dotted [ascii "cpu", coreName core, ascii q.strings.1]) (ascii q.strings.2.2)
  | zone (type : Bytes) : Formed (dotted [ascii "temp", sanitizeName 64 type]) (ascii "C")
  | iface (name : Bytes) (q : IfaceMetric) :
    Formed (dotted [ascii "net", sanitizeName 32 name, ascii q.strings.1]) (ascii q.strings.2.2)
  | disk (name : Bytes) (q : DiskMetric) :
    Formed (dotted [ascii "disk", sanitizeName 32 name, ascii q.strings.1]) (ascii q.strings.2.2)
  | mount (mountpoint : Bytes) (q : MountMetric) :
    Formed (dotted [ascii "fs", mountName mountpoint, ascii q.strings.1]) (ascii q.strings.2.2)
  | sensor (name : Bytes) : Formed (dotted [ascii "sensor", sanitizeName 48 name]) (ascii "C")
  | poe (port : ℕ) (q : PoeMetric) :
    Formed (dotted [ascii "poe", portName port, ascii q.strings.1]) (ascii q.strings.2.2)

/-- A part of an id after sanitising: letters, digits and underscores. -/
def IsSafe (part : Bytes) : Prop := ∀ b ∈ part, isAlnum b = true ∨ b = 95

instance (part : Bytes) : Decidable (IsSafe part) :=
  inferInstanceAs (Decidable (∀ b ∈ part, isAlnum b = true ∨ b = 95))

theorem isSafe_sanitizeName (size : ℕ) (name : Bytes) : IsSafe (sanitizeName size name) := by
  intro b hb
  obtain ⟨c, -, rfl⟩ := List.mem_map.mp hb
  split
  · next hkept => exact hkept
  · exact Or.inr rfl

theorem isSafe_decimal (n : ℕ) : IsSafe (decimal n) := by
  intro b hb
  refine Or.inl ?_
  rw [isAlnum, Lib.isDigit_of_mem_decimal hb]
  rfl

theorem IsSafe.append {a b : Bytes} (ha : IsSafe a) (hb : IsSafe b) : IsSafe (a ++ b) := by
  intro c hc
  exact (List.mem_append.mp hc).elim (ha c) (hb c)

theorem isSafe_coreName (core : ℕ) : IsSafe (coreName core) :=
  IsSafe.append (by decide) (isSafe_decimal core)

theorem isSafe_portName (port : ℕ) : IsSafe (portName port) :=
  IsSafe.append (by decide) (isSafe_decimal port)

theorem IsSafe.dot_notMem {part : Bytes} (h : IsSafe part) : 46 ∉ part := fun hdot =>
  absurd (h 46 hdot) (by decide)

/-- The quantities of a family, of which there are ids with three parts. -/
def quantities (family : Bytes) : List Bytes :=
  if family = ascii "cpu" then CollectorSlots.coreFields.map fun q => ascii q.strings.1
  else if family = ascii "net" then CollectorSlots.ifaceFields.map fun q => ascii q.strings.1
  else if family = ascii "disk" then CollectorSlots.diskFields.map fun q => ascii q.strings.1
  else if family = ascii "fs" then CollectorSlots.mountFields.map fun q => ascii q.strings.1
  else if family = ascii "poe" then CollectorSlots.poeFields.map fun q => ascii q.strings.1
  else []

theorem CoreMetric.isSafe (q : CoreMetric) : IsSafe (ascii q.strings.1) := by cases q <;> decide

theorem IfaceMetric.isSafe (q : IfaceMetric) : IsSafe (ascii q.strings.1) := by cases q <;> decide

theorem DiskMetric.isSafe (q : DiskMetric) : IsSafe (ascii q.strings.1) := by cases q <;> decide

theorem MountMetric.isSafe (q : MountMetric) : IsSafe (ascii q.strings.1) := by cases q <;> decide

theorem PoeMetric.isSafe (q : PoeMetric) : IsSafe (ascii q.strings.1) := by cases q <;> decide

-- ════════════════════════════════════════════════════════════════════════
-- What discovery leaves is formed
-- ════════════════════════════════════════════════════════════════════════

namespace Discovery

/-- Every metric of the registry has the id and the unit of a registration of a kind. -/
def MadeOf (S : Registration → Prop) (d : Discovery) : Prop :=
  ∀ metric ∈ d.registry.defs, ∃ r, S r ∧ metric.id = r.id.text ∧
    metric.unit = strlcpy METRIC_UNIT_MAX r.unit

variable {S : Registration → Prop} {d : Discovery} {A F : Type} [DecidableEq F] {fields : List F}

theorem madeOf_init : init.MadeOf S := fun _ hmetric => by cases hmetric

theorem MadeOf.reg (h : d.MadeOf S) {r : Registration} (hr : S r) : (d.reg r).1.MadeOf S := by
  intro metric hmetric
  change metric ∈ (d.registry.metricsRegister r.id.text _ _ _).1.defs at hmetric
  rw [MetricRegistry.metricsRegister] at hmetric
  split at hmetric
  · exact h metric hmetric
  · rcases List.mem_append.mp hmetric with hold | hnew
    · exact h metric hold
    · rw [List.mem_singleton.mp hnew]
      exact ⟨r, hr, Lib.strlcpy_eq_self r.id.zero_notMem r.id.length_lt, rfl⟩

theorem MadeOf.regFields (h : d.MadeOf S) {idx : F → ℕ} {registration : F → Registration}
    (hfields : ∀ field ∈ fields, S (registration field)) :
    (d.regFields idx fields registration).1.MadeOf S := by
  induction fields generalizing d idx with
  | nil => exact h
  | cons field fields ih =>
    obtain ⟨hfield, hrest⟩ := List.forall_mem_cons.mp hfields
    rw [regFields_cons]
    exact ih (h.reg hfield) hrest

theorem MadeOf.regDevices (h : d.MadeOf S) {devices : List A}
    {deviceRegistration : A → F → Registration}
    (hdevices : ∀ device ∈ devices, ∀ field ∈ fields, S (deviceRegistration device field)) :
    (d.regDevices devices fields deviceRegistration).1.MadeOf S := by
  induction devices using List.reverseRecOn with
  | nil => exact h
  | append_singleton devices device ih =>
    rw [regDevices_append]
    exact (ih fun other hother => hdevices other (List.mem_append_left _ hother)).regFields
      (hdevices device (List.mem_append_right _ List.mem_cons_self))

end Discovery

namespace CollectorSlots

variable {m : Machine} {c : CollectorSlots} (h : c.discovery.MadeOf (Found m))

include h

theorem madeOf_regFixed {metrics : List FixedMetric} (hmetrics : metrics ⊆ fixedFound m) :
    (c.regFixed metrics).discovery.MadeOf (Found m) :=
  h.regFields fun _ hf => .fixed (hmetrics hf)

theorem madeOf_discoverCpu : (discoverCpu m c).discovery.MadeOf (Found m) := by
  have hfixed : cpuMetrics ⊆ fixedFound m := fun f hf => by simp [fixedFound, hf]
  exact (madeOf_regFixed h hfixed).regDevices fun core hcore q _ => .core hcore q

theorem madeOf_discoverSystem : (discoverSystem c).discovery.MadeOf (Found m) :=
  madeOf_regFixed h fun f hf => by simp [fixedFound, hf]

theorem madeOf_discoverZones : (discoverZones m c).discovery.MadeOf (Found m) :=
  h.regDevices fun _ hzone _ _ => .zone hzone

theorem madeOf_discoverIfaces : (discoverIfaces m c).discovery.MadeOf (Found m) :=
  h.regDevices fun _ hname q _ => .iface hname q

theorem madeOf_discoverDisks : (discoverDisks m c).discovery.MadeOf (Found m) :=
  h.regDevices fun _ hname q _ => .disk hname q

theorem madeOf_discoverMounts : (discoverMounts m c).discovery.MadeOf (Found m) :=
  h.regDevices fun _ hmountpoint q _ => .mount hmountpoint q

theorem madeOf_discoverSensors : (discoverSensors m c).discovery.MadeOf (Found m) :=
  madeOf_regFixed (h.regDevices fun _ hsensor _ _ => .sensor hsensor) fun f hf => by
    simp [fixedFound, hf]

theorem madeOf_discoverPoe : (discoverPoe m c).discovery.MadeOf (Found m) :=
  madeOf_regFixed (h.regDevices fun _ hport q _ => .poe hport q) fun f hf => by
    simp [fixedFound, hf]

theorem madeOf_discoverFlashWear : (discoverFlashWear m c).discovery.MadeOf (Found m) :=
  madeOf_regFixed (c := { c with flashLifePath := _, flashEolPath := _ }) h fun f hf => by
    simp [fixedFound, hf]

omit h

/-- Every metric comes from something that was found, with its id and its unit. -/
theorem madeOf_discover (m : Machine) : (discover m).discovery.MadeOf (Found m) :=
  madeOf_discoverFlashWear <| madeOf_discoverPoe <| madeOf_discoverSensors <|
    madeOf_discoverMounts <| madeOf_discoverDisks <| madeOf_discoverIfaces <|
      madeOf_discoverZones <| madeOf_discoverSystem <|
        madeOf_discoverCpu (c := zeroed) Discovery.madeOf_init

end CollectorSlots

/-- The names that fit their ids: the buffer cuts no id of these. -/
structure NamesFit (m : Machine) : Prop where
  zones : ∀ type ∈ m.zoneTypes, (sanitizeName 64 type).length ≤ 58
  mounts : ∀ mountpoint ∈ m.mountpoints, (mountName mountpoint).length ≤ 54

theorem formed_of_found {m : Machine} (hfit : NamesFit m) {r : Registration}
    (h : CollectorSlots.Found m r) : Formed r.id.text r.unit := by
  cases h with
  | @fixed f _ =>
    rw [f.text_id]
    exact .fixed f
  | core hcore q =>
    rw [q.text_id (CollectorSlots.lt_of_mem_cores hcore)]
    exact .core _ q
  | @zone zone type hzone =>
    have htype : type ∈ m.zoneTypes := List.fst_mem_of_mem_zipIdx hzone
    rw [text_id_zone, List.take_of_length_le (hfit.zones type htype)]
    exact .zone type
  | @iface name _ q =>
    rw [q.text_id]
    exact .iface name q
  | @disk name _ q =>
    rw [q.text_id]
    exact .disk _ q
  | @mount mountpoint hmountpoint q =>
    have hlength := hfit.mounts mountpoint hmountpoint
    have hquantity : (ascii q.strings.1).length ≤ 5 := by cases q <;> decide
    rw [q.text_id (by omega), List.take_of_length_le (by omega)]
    exact .mount mountpoint q
  | @sensor index name _ =>
    rw [text_id_sensor]
    exact .sensor name
  | poe hport q =>
    rw [q.text_id (CollectorSlots.lt_of_mem_ports hport)]
    exact .poe _ q

theorem Formed.length_unit_lt {id unit : Bytes} (h : Formed id unit) :
    0 ∉ unit ∧ unit.length < METRIC_UNIT_MAX := by
  cases h with
  | fixed f => cases f <;> decide
  | core _ q => cases q <;> decide
  | zone _ => decide
  | iface _ q => cases q <;> decide
  | disk _ q => cases q <;> decide
  | mount _ q => cases q <;> decide
  | sensor _ => decide
  | poe _ q => cases q <;> decide

/-- Where no name is too long for its id, discovery leaves a registry of formed metrics. -/
theorem Machine.formed {m : Machine} (hfit : NamesFit m) {d : MetricDef}
    (hd : d ∈ m.registry.defs) : Formed d.id d.unit := by
  obtain ⟨r, hr, hid, hunit⟩ := CollectorSlots.madeOf_discover m d hd
  have hformed := formed_of_found hfit hr
  rw [hid, hunit, Lib.strlcpy_eq_self hformed.length_unit_lt.1 hformed.length_unit_lt.2]
  exact hformed

end AxisMetrics
