import AxisMetrics.Collect.Found

/-!
# Which sources share an id

Ids are made of a family, the name of the device and a quantity, joined by dots, and cut to the
buffer. Names lose what is not a letter, a digit or an underscore, and everything behind their
buffer. So sources have ids of their own just if the names that are left of the devices differ.
-/

namespace AxisMetrics

open Lib (Bytes ascii strlcpy dotted decimal)

-- ════════════════════════════════════════════════════════════════════════
-- Texts of ids
-- ════════════════════════════════════════════════════════════════════════

/-- A part of an id: no dot and no zero. -/
def Plain (part : Bytes) : Prop := 46 ∉ part ∧ 0 ∉ part

instance (part : Bytes) : Decidable (Plain part) := inferInstanceAs (Decidable (_ ∧ _))

theorem Plain.append {a b : Bytes} (ha : Plain a) (hb : Plain b) : Plain (a ++ b) :=
  ⟨List.not_mem_append ha.1 hb.1, List.not_mem_append ha.2 hb.2⟩

theorem Plain.take {a : Bytes} (ha : Plain a) (n : ℕ) : Plain (a.take n) :=
  ⟨fun h => ha.1 (List.mem_of_mem_take h), fun h => ha.2 (List.mem_of_mem_take h)⟩

theorem plain_sanitizeName (size : ℕ) (name : Bytes) : Plain (sanitizeName size name) := by
  have hbyte : ∀ b ∈ sanitizeName size name, b ≠ 46 ∧ b ≠ 0 := by
    intro b hb
    obtain ⟨c, -, rfl⟩ := List.mem_map.mp hb
    split
    · next hkept =>
      constructor <;> rintro rfl <;> revert hkept <;> decide
    · decide
  exact ⟨fun h => (hbyte _ h).1 rfl, fun h => (hbyte _ h).2 rfl⟩

theorem plain_decimal (n : ℕ) : Plain (decimal n) := by
  constructor
  · intro h
    exact absurd (Lib.isDigit_of_mem_decimal h) (by decide)
  · intro h
    exact absurd (Lib.isDigit_of_mem_decimal h) (by decide)

theorem zero_notMem_dotted {parts : List Bytes} (h : ∀ part ∈ parts, Plain part) :
    0 ∉ dotted parts := by
  induction parts with
  | nil => exact List.not_mem_nil
  | cons part parts ih =>
    obtain ⟨hpart, hparts⟩ := List.forall_mem_cons.mp h
    by_cases hnil : parts = []
    · subst hnil
      exact hpart.2
    · rw [Lib.dotted_cons part hnil]
      refine List.not_mem_append hpart.2 ?_
      rw [List.mem_cons, not_or]
      exact ⟨by decide, ih hparts⟩

/-- Texts of the same plain parts only are the same. -/
theorem parts_eq {ps qs : List Bytes} (hps : ∀ part ∈ ps, Plain part) (hqs : ∀ part ∈ qs, Plain part)
    (hps' : ps ≠ []) (hqs' : qs ≠ []) (h : dotted ps = dotted qs) : ps = qs := by
  rw [← Lib.splitOn_dotted hps' fun part hpart => (hps part hpart).1, h,
    Lib.splitOn_dotted hqs' fun part hpart => (hqs part hpart).1]

/-- What the buffer keeps of an id of two parts. -/
theorem print_two {family name : Bytes} (hfamily : Plain family) (hname : Plain name)
    (hlength : family.length < METRIC_ID_MAX - 1) :
    (MetricId.print (dotted [family, name])).text =
      dotted [family, name.take (METRIC_ID_MAX - 2 - family.length)] := by
  have hzero : 0 ∉ dotted [family, name] := zero_notMem_dotted (by simp [hfamily, hname])
  rw [METRIC_ID_MAX] at *
  rw [MetricId.text_print hzero, METRIC_ID_MAX, Lib.dotted_two, List.take_append,
    List.take_of_length_le (by omega),
    show 64 - 1 - family.length = (64 - 2 - family.length) + 1 by omega, List.take_succ_cons]
  rfl

/-- What the buffer keeps of an id of three parts. -/
theorem print_three {family name quantity : Bytes} (hfamily : Plain family) (hname : Plain name)
    (hquantity : Plain quantity) (hlength : family.length + name.length + 1 < METRIC_ID_MAX - 1) :
    (MetricId.print (dotted [family, name, quantity])).text =
      dotted [family, name,
        quantity.take (METRIC_ID_MAX - 3 - family.length - name.length)] := by
  have hzero : 0 ∉ dotted [family, name, quantity] :=
    zero_notMem_dotted (by simp [hfamily, hname, hquantity])
  rw [METRIC_ID_MAX] at *
  rw [MetricId.text_print hzero, METRIC_ID_MAX, Lib.dotted_three, List.take_append,
    List.take_of_length_le (by omega),
    show 64 - 1 - family.length = (64 - 2 - family.length) + 1 by omega, List.take_succ_cons,
    List.take_append, List.take_of_length_le (by omega),
    show 64 - 2 - family.length - name.length = (64 - 3 - family.length - name.length) + 1 by omega,
    List.take_succ_cons]
  rfl

theorem print_three_whole {family name quantity : Bytes} (hfamily : Plain family)
    (hname : Plain name) (hquantity : Plain quantity)
    (hlength : family.length + name.length + quantity.length + 2 < METRIC_ID_MAX) :
    (MetricId.print (dotted [family, name, quantity])).text = dotted [family, name, quantity] := by
  rw [METRIC_ID_MAX] at hlength
  rw [MetricId.text_print (zero_notMem_dotted (by simp [hfamily, hname, hquantity])), METRIC_ID_MAX]
  refine List.take_of_length_le ?_
  simp only [Lib.dotted_three, List.length_append, List.length_cons]
  omega

theorem length_sanitizeName_le (size : ℕ) (name : Bytes) :
    (sanitizeName size name).length ≤ size - 1 := by
  rw [sanitizeName, List.length_map, List.length_take]
  exact Nat.min_le_left _ _

-- ════════════════════════════════════════════════════════════════════════
-- The ids of the families
-- ════════════════════════════════════════════════════════════════════════

/-- The metrics that are not of a device. -/
def fixedMetrics : List FixedMetric :=
  CollectorSlots.cpuMetrics ++ CollectorSlots.systemMetrics ++
    [.fanRpm, .heater, .poeTotal, .poeBudget, .flashLife, .flashEol]

theorem mem_fixedMetrics (f : FixedMetric) : f ∈ fixedMetrics := by cases f <;> decide

theorem nodup_ids : (fixedMetrics.map fun f => ascii f.strings.1).Nodup := by decide

theorem FixedMetric.id_injective {f g : FixedMetric} (h : ascii f.strings.1 = ascii g.strings.1) :
    f = g :=
  List.inj_on_of_nodup_map nodup_ids (mem_fixedMetrics f) (mem_fixedMetrics g) h

/-- First part and number of parts of an id. -/
def idShape (id : Bytes) : Bytes × ℕ := ((id.splitOn 46).headD [], (id.splitOn 46).length)

/-- These ids fit, have two parts, and share their family with no zone and with two sensors. -/
theorem ids_fixedMetrics : ∀ f ∈ fixedMetrics,
    0 ∉ ascii f.strings.1 ∧ (ascii f.strings.1).length < METRIC_ID_MAX ∧
      (idShape (ascii f.strings.1)).2 = 2 ∧ (idShape (ascii f.strings.1)).1 ≠ ascii "temp" ∧
      ((idShape (ascii f.strings.1)).1 = ascii "sensor" → f = .fanRpm ∨ f = .heater) := by
  decide

theorem FixedMetric.text_id (f : FixedMetric) : f.registration.id.text = ascii f.strings.1 := by
  obtain ⟨hzero, hlength, -⟩ := ids_fixedMetrics f (mem_fixedMetrics f)
  exact Lib.strlcpy_eq_self hzero hlength

theorem CoreMetric.plain_suffix (q : CoreMetric) :
    Plain (ascii q.strings.1) ∧ (ascii q.strings.1).length ≤ 10 := by
  cases q <;> decide

theorem plain_coreName (n : ℕ) : Plain (coreName n) := Plain.append (by decide) (plain_decimal n)

theorem CoreMetric.text_id {n : ℕ} (hn : n < 32) (q : CoreMetric) :
    (q.registration n).id.text = dotted [ascii "cpu", coreName n, ascii q.strings.1] := by
  obtain ⟨hplain, hlength⟩ := q.plain_suffix
  have hdecimal : (decimal n).length ≤ 2 := Lib.length_decimal_le (by decide) (by omega)
  refine print_three_whole (by decide) (plain_coreName n) hplain ?_
  rw [coreName, List.length_append, show (ascii "cpu").length = 3 from rfl,
    show (ascii "core").length = 4 from rfl, METRIC_ID_MAX]
  omega

theorem text_id_zone (zone : ℕ) (type : Bytes) :
    (zoneRegistration zone type).id.text =
      dotted [ascii "temp", (sanitizeName 64 type).take 58] :=
  print_two (by decide) (plain_sanitizeName _ _) (by decide)

theorem IfaceMetric.plain_suffix (q : IfaceMetric) :
    Plain (ascii q.strings.1) ∧ (ascii q.strings.1).length ≤ 10 := by
  cases q <;> decide

theorem IfaceMetric.text_id (name : Bytes) (q : IfaceMetric) :
    (q.registration name).id.text =
      dotted [ascii "net", sanitizeName 32 name, ascii q.strings.1] := by
  obtain ⟨hplain, hlength⟩ := q.plain_suffix
  have hname := length_sanitizeName_le 32 name
  refine print_three_whole (by decide) (plain_sanitizeName _ _) hplain ?_
  rw [show (ascii "net").length = 3 from rfl, METRIC_ID_MAX]
  omega

theorem DiskMetric.plain_suffix (q : DiskMetric) :
    Plain (ascii q.strings.1) ∧ (ascii q.strings.1).length ≤ 10 := by
  cases q <;> decide

theorem DiskMetric.text_id (name : Bytes) (q : DiskMetric) :
    (q.registration name).id.text =
      dotted [ascii "disk", sanitizeName 32 (name.take 31), ascii q.strings.1] := by
  obtain ⟨hplain, hlength⟩ := q.plain_suffix
  have hname := length_sanitizeName_le 32 (name.take 31)
  refine print_three_whole (by decide) (plain_sanitizeName _ _) hplain ?_
  rw [show (ascii "disk").length = 4 from rfl, METRIC_ID_MAX]
  omega

theorem MountMetric.plain_suffix (q : MountMetric) : Plain (ascii q.strings.1) := by
  cases q <;> decide

/-- The buffer may cut the quantity of a mount. -/
theorem MountMetric.text_id {mountpoint : Bytes} (h : (mountName mountpoint).length < 60)
    (q : MountMetric) :
    (q.registration mountpoint).id.text =
      dotted [ascii "fs", mountName mountpoint,
        (ascii q.strings.1).take (59 - (mountName mountpoint).length)] := by
  have hcut : METRIC_ID_MAX - 3 - (ascii "fs").length = 59 := by decide
  rw [← hcut]
  refine print_three (by decide) (plain_sanitizeName _ _) q.plain_suffix ?_
  rw [show (ascii "fs").length = 2 from rfl, METRIC_ID_MAX]
  omega

theorem text_id_sensor (index : ℕ) (name : Bytes) :
    (sensorRegistration index name).id.text = dotted [ascii "sensor", sanitizeName 48 name] := by
  have hlength := length_sanitizeName_le 48 name
  refine (print_two (by decide) (plain_sanitizeName _ _) (by decide)).trans ?_
  rw [List.take_of_length_le]
  rw [show METRIC_ID_MAX - 2 - (ascii "sensor").length = 56 from by decide]
  omega

theorem PoeMetric.plain_suffix (q : PoeMetric) :
    Plain (ascii q.strings.1) ∧ (ascii q.strings.1).length ≤ 10 := by
  cases q <;> decide

theorem plain_portName (port : ℕ) : Plain (portName port) :=
  Plain.append (by decide) (plain_decimal port)

theorem PoeMetric.text_id {port : ℕ} (hport : port < 2 ^ 32) (q : PoeMetric) :
    (q.registration port).id.text = dotted [ascii "poe", portName port, ascii q.strings.1] := by
  obtain ⟨hplain, hlength⟩ := q.plain_suffix
  have hdecimal : (decimal port).length ≤ 10 := Lib.length_decimal_le (by decide) (by omega)
  refine print_three_whole (by decide) (plain_portName port) hplain ?_
  rw [portName, List.length_append, show (ascii "poe").length = 3 from rfl,
    show (ascii "port").length = 4 from rfl, METRIC_ID_MAX]
  omega

-- ════════════════════════════════════════════════════════════════════════
-- Names that keep sources apart
-- ════════════════════════════════════════════════════════════════════════

/-- What is left of the names of the devices tells them apart. A type of a thermal zone has 58 bytes
of its id, and a mount may have 56, so that its quantity is not cut to less than three. -/
structure NamesApart (m : Machine) : Prop where
  zones : (m.zoneTypes.map fun type => (sanitizeName 64 type).take 58).Nodup
  ifaces : ∀ a ∈ m.ifaceNames, ∀ b ∈ m.ifaceNames, sanitizeName 32 a = sanitizeName 32 b → a = b
  disks : ∀ a ∈ m.diskNames, ∀ b ∈ m.diskNames,
    sanitizeName 32 (a.take 31) = sanitizeName 32 (b.take 31) → a = b
  mounts : ∀ a ∈ m.mountpoints, ∀ b ∈ m.mountpoints, mountName a = mountName b → a = b
  mountLength : ∀ a ∈ m.mountpoints, (mountName a).length ≤ 56
  sensors : ∀ a ∈ m.sensorNames, ∀ b ∈ m.sensorNames,
    sanitizeName 48 a.2 = sanitizeName 48 b.2 → a.1 = b.1
  fan : m.mentions (ascii "Fan.F0.") = true →
    ∀ a ∈ m.sensorNames, sanitizeName 48 a.2 ≠ ascii "fan_rpm"
  heater : m.mentions (ascii "Heater.H0.") = true →
    ∀ a ∈ m.sensorNames, sanitizeName 48 a.2 ≠ ascii "heater"

/-- The first part of the id of a source, and the number of its parts. -/
def Source.shape : Source → Bytes × ℕ
  | .fixed f => idShape (ascii f.strings.1)
  | .core _ _ => (ascii "cpu", 3)
  | .zone _ => (ascii "temp", 2)
  | .iface _ _ => (ascii "net", 3)
  | .disk _ _ => (ascii "disk", 3)
  | .mount _ _ => (ascii "fs", 3)
  | .sensor _ => (ascii "sensor", 2)
  | .poe _ _ => (ascii "poe", 3)

/-- Which kind of device a source is of. -/
def Source.kind : Source → ℕ
  | .fixed _ => 0
  | .core _ _ => 1
  | .zone _ => 2
  | .iface _ _ => 3
  | .disk _ _ => 4
  | .mount _ _ => 5
  | .sensor _ => 6
  | .poe _ _ => 7

/-- Ids of devices of different kinds begin differently. -/
theorem Source.kind_eq_of_shape {s s' : Source} (hs : s.kind ≠ 0) (hs' : s'.kind ≠ 0)
    (h : s.shape = s'.shape) : s.kind = s'.kind := by
  cases s <;> cases s'
  all_goals first
    | rfl
    | exact absurd rfl hs
    | exact absurd rfl hs'
    | simp only [Source.shape] at h
      exact absurd h (by decide)

theorem idShape_dotted {part : Bytes} {parts : List Bytes} (h : ∀ p ∈ part :: parts, Plain p) :
    idShape (dotted (part :: parts)) = (part, parts.length + 1) := by
  rw [idShape, Lib.splitOn_dotted (List.cons_ne_nil _ _) fun p hp => (h p hp).1]
  rfl

/-- Ids of three parts of one family. -/
theorem three_inj {family a b p q : Bytes} (hfamily : Plain family) (ha : Plain a) (hb : Plain b)
    (hp : Plain p) (hq : Plain q) (h : dotted [family, a, p] = dotted [family, b, q]) :
    a = b ∧ p = q := by
  have hparts := parts_eq (by simp [hfamily, ha, hp]) (by simp [hfamily, hb, hq])
    (List.cons_ne_nil _ _) (List.cons_ne_nil _ _) h
  simpa using hparts

theorem two_inj {family a b : Bytes} (hfamily : Plain family) (ha : Plain a) (hb : Plain b)
    (h : dotted [family, a] = dotted [family, b]) : a = b := by
  have hparts := parts_eq (by simp [hfamily, ha]) (by simp [hfamily, hb])
    (List.cons_ne_nil _ _) (List.cons_ne_nil _ _) h
  simpa using hparts

theorem coreName_injective : Function.Injective coreName := fun _ _ h =>
  Lib.decimal_injective (List.append_cancel_left h)

theorem portName_injective : Function.Injective portName := fun _ _ h =>
  Lib.decimal_injective (List.append_cancel_left h)

theorem CoreMetric.suffix_injective : Function.Injective fun q : CoreMetric => ascii q.strings.1 := by
  intro p q
  cases p <;> cases q <;> decide

theorem IfaceMetric.suffix_injective : Function.Injective fun q : IfaceMetric => ascii q.strings.1 := by
  intro p q
  cases p <;> cases q <;> decide

theorem DiskMetric.suffix_injective : Function.Injective fun q : DiskMetric => ascii q.strings.1 := by
  intro p q
  cases p <;> cases q <;> decide

/-- Three bytes tell the quantities of a mount apart. -/
theorem MountMetric.suffix_injective :
    Function.Injective fun q : MountMetric => (ascii q.strings.1).take 3 := by
  intro p q
  cases p <;> cases q <;> decide

theorem PoeMetric.suffix_injective : Function.Injective fun q : PoeMetric => ascii q.strings.1 := by
  intro p q
  cases p <;> cases q <;> decide

namespace CollectorSlots

variable {m : Machine} {r r' : Registration}

theorem lt_of_mem_cores {n : ℕ} (h : n ∈ m.cores) : n < 32 := by
  exact of_decide_eq_true (List.mem_filter.mp h).2

theorem lt_of_mem_portNumbers {body : Bytes} {port : ℕ} (h : port ∈ Machine.portNumbers body) :
    port < 2 ^ 32 := by
  induction body with
  | nil => cases h
  | cons b body ih =>
    rw [Machine.portNumbers] at h
    split at h
    · rcases List.mem_cons.mp h with rfl | hrest
      · exact Nat.mod_lt _ (by decide)
      · exact ih hrest
    · exact ih h

theorem lt_of_mem_ports {port : ℕ} (h : port ∈ m.ports) : port < 2 ^ 32 := by
  rw [Machine.ports] at h
  split at h
  · cases h
  · split at h
    · exact lt_of_mem_portNumbers (List.mem_of_mem_take h)
    · cases h

/-- The id of what is found begins with its family. -/
theorem idShape_of_found (hlength : ∀ a ∈ m.mountpoints, (mountName a).length ≤ 56)
    (h : Found m r) : idShape r.id.text = r.source.shape := by
  cases h with
  | @fixed f h => rw [f.text_id]; rfl
  | @core n h q =>
    rw [q.text_id (lt_of_mem_cores h)]
    exact idShape_dotted (by simp [plain_coreName, q.plain_suffix.1]; decide)
  | zone h =>
    rw [text_id_zone]
    exact idShape_dotted (by simp [(plain_sanitizeName _ _).take]; decide)
  | iface h q =>
    rw [q.text_id]
    exact idShape_dotted (by simp [plain_sanitizeName, q.plain_suffix.1]; decide)
  | disk h q =>
    rw [q.text_id]
    exact idShape_dotted (by simp [plain_sanitizeName, q.plain_suffix.1]; decide)
  | mount h q =>
    rw [q.text_id (by have := hlength _ h; omega)]
    exact idShape_dotted (by simp [mountName, plain_sanitizeName, q.plain_suffix.take]; decide)
  | sensor h =>
    rw [text_id_sensor]
    exact idShape_dotted (by simp [plain_sanitizeName]; decide)
  | poe h q =>
    rw [q.text_id (lt_of_mem_ports h)]
    exact idShape_dotted (by simp [plain_portName, q.plain_suffix.1]; decide)

/-- Two zones share an id just if the beginnings of their types are the same. -/
theorem zone_inj {i j : ℕ} {a b : Bytes}
    (hzones : (m.zoneTypes.map fun type => (sanitizeName 64 type).take 58).Nodup)
    (hi : (a, i) ∈ m.zoneTypes.zipIdx) (hj : (b, j) ∈ m.zoneTypes.zipIdx)
    (h : (sanitizeName 64 a).take 58 = (sanitizeName 64 b).take 58) : i = j := by
  obtain ⟨hilt, rfl⟩ := List.getElem?_eq_some_iff.mp (List.mk_mem_zipIdx_iff_getElem?.mp hi)
  obtain ⟨hjlt, rfl⟩ := List.getElem?_eq_some_iff.mp (List.mk_mem_zipIdx_iff_getElem?.mp hj)
  refine (@List.Nodup.getElem_inj_iff _ _ hzones i (by rwa [List.length_map]) j
    (by rwa [List.length_map])).mp ?_
  rw [List.getElem_map, List.getElem_map]
  exact h

/-- The metrics of the sensor page are found by its discovery alone. -/
theorem mem_sensorMetrics_of_found {f : FixedMetric} (hf : f ∈ [.fanRpm, .heater])
    (h : f ∈ fixedFound m) : f ∈ sensorMetrics m := by
  have hothers : ∀ f ∈ [FixedMetric.fanRpm, .heater], f ∉ cpuMetrics ∧ f ∉ systemMetrics ∧
      f ∉ [FixedMetric.poeTotal, .poeBudget] ∧ f ∉ [FixedMetric.flashLife, .flashEol] := by
    decide
  obtain ⟨hcpu, hsystem, hpoe, hflash⟩ := hothers f hf
  simp only [fixedFound, List.mem_append] at h
  rcases h with (((h | h) | h) | h) | h
  · exact absurd h hcpu
  · exact absurd h hsystem
  · exact h
  · rw [poeMetrics] at h
    split at h
    · cases h
    · exact absurd h hpoe
  · rw [flashMetrics] at h
    split at h
    · exact absurd h hflash
    · cases h

theorem mentions_of_fanRpm (h : .fanRpm ∈ fixedFound m) : m.mentions (ascii "Fan.F0.") = true := by
  have hsensor := mem_sensorMetrics_of_found (by decide) h
  by_contra hnone
  rw [sensorMetrics, if_neg hnone] at hsensor
  split at hsensor
  · exact absurd hsensor (by decide)
  · exact absurd hsensor (by decide)

theorem mentions_of_heater (h : .heater ∈ fixedFound m) :
    m.mentions (ascii "Heater.H0.") = true := by
  have hsensor := mem_sensorMetrics_of_found (by decide) h
  by_contra hnone
  rw [sensorMetrics, if_neg hnone, List.append_nil] at hsensor
  split at hsensor
  · exact absurd hsensor (by decide)
  · cases hsensor

/-- A metric that is not of a device shares its id with no sensor. -/
theorem fixed_ne_sensor (hapart : NamesApart m) {f : FixedMetric} (hf : f ∈ fixedFound m)
    {index : ℕ} {name : Bytes} (hsensor : (index, name) ∈ m.sensorNames) :
    f.registration.id.text ≠ (sensorRegistration index name).id.text := by
  intro hid
  have hshape : idShape f.registration.id.text = (ascii "sensor", 2) := by
    rw [hid]
    exact idShape_of_found hapart.mountLength (.sensor hsensor)
  rw [f.text_id] at hshape
  rw [f.text_id, text_id_sensor] at hid
  obtain ⟨-, -, -, -, hsensors⟩ := ids_fixedMetrics f (mem_fixedMetrics f)
  rcases hsensors (congrArg Prod.fst hshape) with rfl | rfl
  · have hfan : ascii FixedMetric.fanRpm.strings.1 = dotted [ascii "sensor", ascii "fan_rpm"] := by
      decide
    rw [hfan] at hid
    exact hapart.fan (mentions_of_fanRpm hf) _ hsensor
      (two_inj (by decide) (by decide) (plain_sanitizeName _ _) hid).symm
  · have hheater : ascii FixedMetric.heater.strings.1 = dotted [ascii "sensor", ascii "heater"] := by
      decide
    rw [hheater] at hid
    exact hapart.heater (mentions_of_heater hf) _ hsensor
      (two_inj (by decide) (by decide) (plain_sanitizeName _ _) hid).symm

/-- Nor with anything else of a device. -/
theorem fixed_ne_device (hapart : NamesApart m) {f : FixedMetric} (hf : f ∈ fixedFound m)
    (hr : Found m r) (hdevice : r.source.kind ≠ 0) :
    f.registration.id.text ≠ r.id.text := by
  intro hid
  have hshape := idShape_of_found hapart.mountLength hr
  rw [← hid, f.text_id] at hshape
  obtain ⟨-, -, htwo, hzone, -⟩ := ids_fixedMetrics f (mem_fixedMetrics f)
  rw [hshape] at htwo hzone
  cases hr with
  | fixed h => exact hdevice rfl
  | zone h => exact hzone rfl
  | sensor h => exact fixed_ne_sensor hapart hf h hid
  | _ h q => cases htwo

theorem iface_eq_of_id (hapart : NamesApart m) {a b : Bytes} (ha : a ∈ m.ifaceNames)
    (hb : b ∈ m.ifaceNames) {p q : IfaceMetric}
    (h : (p.registration a).id.text = (q.registration b).id.text) : a = b ∧ p = q := by
  rw [p.text_id, q.text_id] at h
  obtain ⟨hname, hsuffix⟩ := three_inj (by decide) (plain_sanitizeName _ _) (plain_sanitizeName _ _)
    p.plain_suffix.1 q.plain_suffix.1 h
  exact ⟨hapart.ifaces a ha b hb hname, IfaceMetric.suffix_injective hsuffix⟩

theorem disk_eq_of_id (hapart : NamesApart m) {a b : Bytes} (ha : a ∈ m.diskNames)
    (hb : b ∈ m.diskNames) {p q : DiskMetric}
    (h : (p.registration a).id.text = (q.registration b).id.text) : a = b ∧ p = q := by
  rw [p.text_id, q.text_id] at h
  obtain ⟨hname, hsuffix⟩ := three_inj (by decide) (plain_sanitizeName _ _) (plain_sanitizeName _ _)
    p.plain_suffix.1 q.plain_suffix.1 h
  exact ⟨hapart.disks a ha b hb hname, DiskMetric.suffix_injective hsuffix⟩

theorem mount_eq_of_id (hapart : NamesApart m) {a b : Bytes} (ha : a ∈ m.mountpoints)
    (hb : b ∈ m.mountpoints) {p q : MountMetric}
    (h : (p.registration a).id.text = (q.registration b).id.text) : a = b ∧ p = q := by
  have hshort := hapart.mountLength a ha
  have hshort' := hapart.mountLength b hb
  rw [p.text_id (by omega), q.text_id (by omega)] at h
  obtain ⟨hname, hsuffix⟩ := three_inj (by decide) (plain_sanitizeName _ _) (plain_sanitizeName _ _)
    (p.plain_suffix.take _) (q.plain_suffix.take _) h
  have hname : mountName a = mountName b := hname
  refine ⟨hapart.mounts a ha b hb hname, MountMetric.suffix_injective ?_⟩
  -- at least three bytes of the quantity are left
  rw [hname] at hsuffix
  have hthree := congrArg (List.take 3) hsuffix
  rwa [List.take_take, List.take_take, Nat.min_eq_left (by omega)] at hthree

theorem core_eq_of_id {a b : ℕ} (ha : a ∈ m.cores) (hb : b ∈ m.cores) {p q : CoreMetric}
    (h : (p.registration a).id.text = (q.registration b).id.text) : a = b ∧ p = q := by
  rw [p.text_id (lt_of_mem_cores ha), q.text_id (lt_of_mem_cores hb)] at h
  obtain ⟨hname, hsuffix⟩ := three_inj (by decide) (plain_coreName _) (plain_coreName _)
    p.plain_suffix.1 q.plain_suffix.1 h
  exact ⟨coreName_injective hname, CoreMetric.suffix_injective hsuffix⟩

theorem poe_eq_of_id {a b : ℕ} (ha : a ∈ m.ports) (hb : b ∈ m.ports) {p q : PoeMetric}
    (h : (p.registration a).id.text = (q.registration b).id.text) : a = b ∧ p = q := by
  rw [p.text_id (lt_of_mem_ports ha), q.text_id (lt_of_mem_ports hb)] at h
  obtain ⟨hname, hsuffix⟩ := three_inj (by decide) (plain_portName _) (plain_portName _)
    p.plain_suffix.1 q.plain_suffix.1 h
  exact ⟨portName_injective hname, PoeMetric.suffix_injective hsuffix⟩

theorem zone_eq_of_id (hapart : NamesApart m) {a b : Bytes} {i j : ℕ}
    (hi : (a, i) ∈ m.zoneTypes.zipIdx) (hj : (b, j) ∈ m.zoneTypes.zipIdx)
    (h : (zoneRegistration i a).id.text = (zoneRegistration j b).id.text) : i = j := by
  rw [text_id_zone, text_id_zone] at h
  exact zone_inj hapart.zones hi hj (two_inj (by decide) ((plain_sanitizeName _ _).take _)
    ((plain_sanitizeName _ _).take _) h)

theorem sensor_eq_of_id (hapart : NamesApart m) {a b : Bytes} {i j : ℕ}
    (hi : (i, a) ∈ m.sensorNames) (hj : (j, b) ∈ m.sensorNames)
    (h : (sensorRegistration i a).id.text = (sensorRegistration j b).id.text) : i = j := by
  rw [text_id_sensor, text_id_sensor] at h
  exact hapart.sensors _ hi _ hj (two_inj (by decide) (plain_sanitizeName _ _)
    (plain_sanitizeName _ _) h)

theorem source_eq_of_kind (hapart : NamesApart m) (hr : Found m r) (hr' : Found m r')
    (hid : r.id.text = r'.id.text) (hkind : r.source.kind = r'.source.kind) :
    r.source = r'.source := by
  cases hr with
  | @fixed f h =>
    cases hr' with
    | @fixed g h' =>
      rw [f.text_id, g.text_id] at hid
      rw [FixedMetric.id_injective hid]
    | _ => cases hkind
  | core h p =>
    cases hr' with
    | core h' q =>
      obtain ⟨rfl, rfl⟩ := core_eq_of_id h h' hid
      rfl
    | _ => cases hkind
  | zone h =>
    cases hr' with
    | zone h' =>
      obtain rfl := zone_eq_of_id hapart h h' hid
      rfl
    | _ => cases hkind
  | iface h p =>
    cases hr' with
    | iface h' q =>
      obtain ⟨rfl, rfl⟩ := iface_eq_of_id hapart h h' hid
      rfl
    | _ => cases hkind
  | disk h p =>
    cases hr' with
    | disk h' q =>
      obtain ⟨rfl, rfl⟩ := disk_eq_of_id hapart h h' hid
      rfl
    | _ => cases hkind
  | mount h p =>
    cases hr' with
    | mount h' q =>
      obtain ⟨rfl, rfl⟩ := mount_eq_of_id hapart h h' hid
      rfl
    | _ => cases hkind
  | sensor h =>
    cases hr' with
    | sensor h' =>
      obtain rfl := sensor_eq_of_id hapart h h' hid
      rfl
    | _ => cases hkind
  | poe h p =>
    cases hr' with
    | poe h' q =>
      obtain ⟨rfl, rfl⟩ := poe_eq_of_id h h' hid
      rfl
    | _ => cases hkind

/-- A metric that is not of a device shares its id with no device. -/
theorem kind_eq_zero_of_id (hapart : NamesApart m) (hr : Found m r) (hr' : Found m r')
    (hid : r.id.text = r'.id.text) (h : r.source.kind = 0) : r'.source.kind = 0 := by
  by_contra hdevice
  cases hr with
  | fixed hf => exact fixed_ne_device hapart hf hr' hdevice hid
  | _ => cases h

/-- Where names are apart, what shares an id is one source. -/
theorem source_eq_of_id (hapart : NamesApart m) (hr : Found m r) (hr' : Found m r')
    (hid : r.id.text = r'.id.text) : r.source = r'.source := by
  refine source_eq_of_kind hapart hr hr' hid ?_
  by_cases hfixed : r.source.kind = 0
  · rw [hfixed, kind_eq_zero_of_id hapart hr hr' hid hfixed]
  · have hdevice : r'.source.kind ≠ 0 := fun h =>
      hfixed (kind_eq_zero_of_id hapart hr' hr hid.symm h)
    apply Source.kind_eq_of_shape hfixed hdevice
    rw [← idShape_of_found hapart.mountLength hr, hid, idShape_of_found hapart.mountLength hr']

-- ════════════════════════════════════════════════════════════════════════
-- And no others do
-- ════════════════════════════════════════════════════════════════════════

/-- A long name leaves less than three bytes of the quantity. -/
theorem text_id_mount_long {mountpoint : Bytes} (h : 57 ≤ (mountName mountpoint).length) :
    (MountMetric.used.registration mountpoint).id.text =
      (MountMetric.usage.registration mountpoint).id.text := by
  have hplain : Plain (mountName mountpoint) := plain_sanitizeName _ _
  have hused : 0 ∉ dotted [ascii "fs", mountName mountpoint, ascii "used"] :=
    zero_notMem_dotted (by simp [hplain]; decide)
  have husage : 0 ∉ dotted [ascii "fs", mountName mountpoint, ascii "usage"] :=
    zero_notMem_dotted (by simp [hplain]; decide)
  refine (MetricId.text_print hused).trans (Eq.trans ?_ (MetricId.text_print husage).symm)
  have hshared : ∀ rest : Bytes, (dotted [ascii "fs", mountName mountpoint,
      ascii "us" ++ rest]).take (METRIC_ID_MAX - 1) =
        (dotted [ascii "fs", mountName mountpoint, ascii "us"]).take (METRIC_ID_MAX - 1) := by
    intro rest
    have hsplit : dotted [ascii "fs", mountName mountpoint, ascii "us" ++ rest] =
        dotted [ascii "fs", mountName mountpoint, ascii "us"] ++ rest := by
      simp [Lib.dotted_three]
    rw [hsplit, List.take_append_of_le_length]
    simp only [Lib.dotted_three, List.length_append, List.length_cons,
      show (ascii "fs").length = 2 from rfl, show (ascii "us").length = 2 from rfl, METRIC_ID_MAX]
    omega
  exact (hshared (ascii "ed")).trans (hshared (ascii "age")).symm

/-- Where ids tell the sources apart, so do the names. -/
theorem namesApart_of_ids (h : ∀ r r', Found m r → Found m r' → r.id.text = r'.id.text →
    r.source = r'.source) : NamesApart m where
  zones := by
    rw [List.Nodup, List.pairwise_iff_getElem]
    intro i j hi hj hlt hsame
    rw [List.getElem_map, List.getElem_map] at hsame
    rw [List.length_map] at hi hj
    have hmem : ∀ {k : ℕ} (hk : k < m.zoneTypes.length), (m.zoneTypes[k], k) ∈ m.zoneTypes.zipIdx :=
      fun hk => List.mk_mem_zipIdx_iff_getElem?.mpr (List.getElem?_eq_getElem hk)
    have hid : (zoneRegistration i m.zoneTypes[i]).id.text =
        (zoneRegistration j m.zoneTypes[j]).id.text := by
      rw [text_id_zone, text_id_zone, hsame]
    have hsource := h _ _ (.zone (hmem hi)) (.zone (hmem hj)) hid
    exact hlt.ne (Source.zone.inj hsource)
  ifaces a ha b hb hname := by
    have hid : (IfaceMetric.up.registration a).id.text = (IfaceMetric.up.registration b).id.text := by
      rw [IfaceMetric.text_id, IfaceMetric.text_id, hname]
    exact (Source.iface.inj (h _ _ (.iface ha _) (.iface hb _) hid)).1
  disks a ha b hb hname := by
    have hid : (DiskMetric.util.registration a).id.text = (DiskMetric.util.registration b).id.text := by
      rw [DiskMetric.text_id, DiskMetric.text_id, hname]
    exact (Source.disk.inj (h _ _ (.disk ha _) (.disk hb _) hid)).1
  mounts a ha b hb hname := by
    have hid : (MountMetric.used.registration a).id.text =
        (MountMetric.used.registration b).id.text := by
      change (MetricId.print (dotted [_, mountName a, _])).text = _
      rw [hname]
      rfl
    exact (Source.mount.inj (h _ _ (.mount ha _) (.mount hb _) hid)).1
  mountLength a ha := by
    by_contra hlong
    have hcut : 57 ≤ (mountName a).length := by omega
    have hid := text_id_mount_long hcut
    cases (Source.mount.inj (h _ _ (.mount ha .used) (.mount ha .usage) hid)).2
  sensors a ha b hb hname := by
    have hid : (sensorRegistration a.1 a.2).id.text = (sensorRegistration b.1 b.2).id.text := by
      rw [text_id_sensor, text_id_sensor, hname]
    exact Source.sensor.inj (h _ _ (.sensor ha) (.sensor hb) hid)
  fan hfan a ha hname := by
    have hfound : .fanRpm ∈ fixedFound m := by simp [fixedFound, sensorMetrics, hfan]
    have hid : FixedMetric.fanRpm.registration.id.text = (sensorRegistration a.1 a.2).id.text := by
      rw [text_id_sensor, hname, FixedMetric.text_id]
      decide
    cases h _ _ (.fixed hfound) (.sensor ha) hid
  heater hheater a ha hname := by
    have hfound : .heater ∈ fixedFound m := by simp [fixedFound, sensorMetrics, hheater]
    have hid : FixedMetric.heater.registration.id.text = (sensorRegistration a.1 a.2).id.text := by
      rw [text_id_sensor, hname, FixedMetric.text_id]
      decide
    cases h _ _ (.fixed hfound) (.sensor ha) hid

end CollectorSlots

end AxisMetrics
