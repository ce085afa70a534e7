import AxisMetrics.Collect.Ids

/-!
# The registry that discovery leaves

Its metrics are those that discovery found. Their ids are made of letters, digits, underscores and
dots, so that none of the formats they appear in has to escape them.
-/

namespace AxisMetrics

open Lib (Bytes ascii dotted decimal isAlnum)

/-- The registry after `collector_new`. -/
def Machine.registry (m : Machine) : MetricRegistry := (CollectorSlots.discover m).discovery.registry

/-- A byte of an id. -/
def IsIdByte (b : UInt8) : Prop := isAlnum b = true ∨ b = 95 ∨ b = 46

instance (b : UInt8) : Decidable (IsIdByte b) := inferInstanceAs (Decidable (_ ∨ _ ∨ _))

/-- An id of letters, digits, underscores and dots. -/
def CleanId (id : Bytes) : Prop := id ≠ [] ∧ ∀ b ∈ id, IsIdByte b

theorem isIdByte_sanitizeName (size : ℕ) (name : Bytes) :
    ∀ b ∈ sanitizeName size name, IsIdByte b := by
  intro b hb
  obtain ⟨c, -, rfl⟩ := List.mem_map.mp hb
  split
  · next hkept => exact hkept.imp_right .inl
  · exact .inr (.inl rfl)

theorem isIdByte_decimal (n : ℕ) : ∀ b ∈ decimal n, IsIdByte b := fun b hb => by
  refine .inl ?_
  rw [isAlnum, Lib.isDigit_of_mem_decimal hb]
  rfl

theorem isIdByte_dotted {parts : List Bytes} (h : ∀ part ∈ parts, ∀ b ∈ part, IsIdByte b) :
    ∀ b ∈ dotted parts, IsIdByte b := by
  induction parts with
  | nil => exact fun b hb => absurd hb List.not_mem_nil
  | cons part parts ih =>
    obtain ⟨hpart, hparts⟩ := List.forall_mem_cons.mp h
    by_cases hnil : parts = []
    · subst hnil
      exact hpart
    · rw [Lib.dotted_cons part hnil]
      intro b hb
      rcases List.mem_append.mp hb with hb | hb
      · exact hpart b hb
      · rcases List.mem_cons.mp hb with rfl | hb
        · exact .inr (.inr rfl)
        · exact ih hparts b hb

theorem zero_notMem_of_isIdByte {id : Bytes} (h : ∀ b ∈ id, IsIdByte b) : 0 ∉ id := fun hzero =>
  absurd (h 0 hzero) (by decide)

theorem cleanId_print {id : Bytes} (hne : id ≠ []) (h : ∀ b ∈ id, IsIdByte b) :
    CleanId (MetricId.print id).text := by
  rw [MetricId.text_print (zero_notMem_of_isIdByte h)]
  refine ⟨?_, fun b hb => h b (List.mem_of_mem_take hb)⟩
  rw [Ne, List.take_eq_nil_iff]
  exact not_or.mpr ⟨by decide, hne⟩

theorem cleanId_deviceRegistration {source : Source} {family : Bytes} {parts : List Bytes}
    {name text : Bytes} {unit group : String} (hfamily : family ≠ [])
    (h : ∀ part ∈ family :: parts, ∀ b ∈ part, IsIdByte b) :
    CleanId (deviceRegistration source (family :: parts) name text unit group).id.text := by
  refine cleanId_print ?_ (isIdByte_dotted h)
  intro hnil
  cases parts with
  | nil => exact hfamily hnil
  | cons part parts =>
    rw [Lib.dotted_cons family (List.cons_ne_nil _ _)] at hnil
    exact List.append_ne_nil_of_left_ne_nil hfamily _ hnil

instance (id : Bytes) : Decidable (CleanId id) :=
  inferInstanceAs (Decidable (_ ∧ ∀ b ∈ id, IsIdByte b))

theorem cleanId_fixed : ∀ f ∈ fixedMetrics, CleanId (ascii f.strings.1) := by decide +kernel

section Suffixes

theorem CoreMetric.cleanId_suffix (q : CoreMetric) : CleanId (ascii q.strings.1) := by
  cases q <;> decide

theorem IfaceMetric.cleanId_suffix (q : IfaceMetric) : CleanId (ascii q.strings.1) := by
  cases q <;> decide

theorem DiskMetric.cleanId_suffix (q : DiskMetric) : CleanId (ascii q.strings.1) := by
  cases q <;> decide

theorem MountMetric.cleanId_suffix (q : MountMetric) : CleanId (ascii q.strings.1) := by
  cases q <;> decide

theorem PoeMetric.cleanId_suffix (q : PoeMetric) : CleanId (ascii q.strings.1) := by
  cases q <;> decide

end Suffixes

/-- What discovery registers has a clean id. -/
theorem cleanId_of_found {m : Machine} {r : Registration} (h : CollectorSlots.Found m r) :
    CleanId r.id.text := by
  have htwo : ∀ {family a : Bytes}, (∀ b ∈ family, IsIdByte b) → (∀ b ∈ a, IsIdByte b) →
      ∀ part ∈ [family, a], ∀ b ∈ part, IsIdByte b := by
    intro family a hfamily ha part hpart
    simp only [List.mem_cons, List.not_mem_nil, or_false] at hpart
    rcases hpart with rfl | rfl
    · exact hfamily
    · exact ha
  have hthree : ∀ {family a q : Bytes}, (∀ b ∈ family, IsIdByte b) → (∀ b ∈ a, IsIdByte b) →
      CleanId q → ∀ part ∈ [family, a, q], ∀ b ∈ part, IsIdByte b := by
    intro family a q hfamily ha hq part hpart
    simp only [List.mem_cons, List.not_mem_nil, or_false] at hpart
    rcases hpart with rfl | rfl | rfl
    · exact hfamily
    · exact ha
    · exact hq.2
  have hnumbered : ∀ {name : Bytes}, (∀ b ∈ name, IsIdByte b) → ∀ n : ℕ,
      ∀ b ∈ name ++ decimal n, IsIdByte b := fun hname n b hb =>
    (List.mem_append.mp hb).elim (hname b) (isIdByte_decimal n b)
  cases h with
  | @fixed f _ =>
    rw [f.text_id]
    exact cleanId_fixed f (mem_fixedMetrics f)
  | @core n _ q =>
    exact cleanId_deviceRegistration (by decide)
      (hthree (by decide) (hnumbered (by decide) n) q.cleanId_suffix)
  | @zone _ type _ =>
    exact cleanId_deviceRegistration (by decide) (htwo (by decide) (isIdByte_sanitizeName 64 type))
  | @iface name _ q =>
    exact cleanId_deviceRegistration (by decide)
      (hthree (by decide) (isIdByte_sanitizeName 32 name) q.cleanId_suffix)
  | @disk name _ q =>
    exact cleanId_deviceRegistration (by decide)
      (hthree (by decide) (isIdByte_sanitizeName 32 _) q.cleanId_suffix)
  | @mount mountpoint _ q =>
    exact cleanId_deviceRegistration (by decide)
      (hthree (by decide) (isIdByte_sanitizeName 128 _) q.cleanId_suffix)
  | @sensor _ name _ =>
    exact cleanId_deviceRegistration (by decide) (htwo (by decide) (isIdByte_sanitizeName 48 name))
  | @poe port _ q =>
    exact cleanId_deviceRegistration (by decide)
      (hthree (by decide) (hnumbered (by decide) port) q.cleanId_suffix)

section Covered

variable {c : CollectorSlots} (h : c.discovery.Covered)

include h

theorem covered_regFixed (metrics : List FixedMetric) :
    (c.regFixed metrics).discovery.Covered := h.regFields

theorem covered_discoverCpu (m : Machine) : (CollectorSlots.discoverCpu m c).discovery.Covered :=
  (covered_regFixed h _).regDevices

theorem covered_discoverSensors (m : Machine) :
    (CollectorSlots.discoverSensors m c).discovery.Covered :=
  covered_regFixed h.regDevices _

theorem covered_discoverPoe (m : Machine) : (CollectorSlots.discoverPoe m c).discovery.Covered :=
  covered_regFixed h.regDevices _

end Covered

theorem covered_discover (m : Machine) : (CollectorSlots.discover m).discovery.Covered := by
  have hcpu := covered_discoverCpu (c := .zeroed) Discovery.covered_init m
  have hmounts : (CollectorSlots.discoverMounts m <| .discoverDisks m <| .discoverIfaces m <|
      .discoverZones m <| .discoverSystem <| .discoverCpu m .zeroed).discovery.Covered :=
    (covered_regFixed hcpu _).regDevices.regDevices.regDevices.regDevices
  exact covered_regFixed (covered_discoverPoe (covered_discoverSensors hmounts m) m) _

/-- The metrics of the registry are those that were found. -/
theorem Machine.exists_found {m : Machine} {d : MetricDef} (h : d ∈ m.registry.defs) :
    ∃ r, CollectorSlots.Found m r ∧ d.id = r.id.text := by
  obtain ⟨e, he, hid⟩ := covered_discover m d h
  obtain ⟨r, hr, hkey⟩ := (CollectorSlots.mem_keys_discover m (e.source, e.id)).mp
    (List.mem_map.mpr ⟨e, he, rfl⟩)
  exact ⟨r, hr, hid.symm.trans (Prod.mk.inj hkey).2⟩

theorem Machine.cleanId {m : Machine} {d : MetricDef} (h : d ∈ m.registry.defs) : CleanId d.id := by
  obtain ⟨r, hr, hid⟩ := Machine.exists_found h
  rw [hid]
  exact cleanId_of_found hr

theorem Machine.distinct_registry (m : Machine) : m.registry.Distinct :=
  (CollectorSlots.discover m).discovery.distinct

end AxisMetrics
