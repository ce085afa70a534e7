import AxisMetrics.Collect.Metrics
import Mathlib.Logic.Function.Basic

/-!
# Registering what is found

The registry, with a record of every call of `reg` that the code does not keep: what was registered,
under which id, and the index it got. The record agrees with the registry, and the definition says
so.
-/

namespace AxisMetrics

open Lib (Bytes)

/-- A call of `reg` and its result. -/
structure Registered where
  source : Source
  id : Bytes
  idx : ℕ

/-- The registry and what was registered in it. -/
structure Discovery where
  registry : MetricRegistry
  log : List Registered
  distinct : registry.Distinct
  idAt_of_mem : ∀ e ∈ log, registry.idAt e.idx = some e.id

namespace Discovery

/-- `metrics_registry_init`. -/
def init : Discovery where
  registry := ⟨[]⟩
  log := []
  distinct := fun i => i.elim0
  idAt_of_mem := fun _ he => by cases he

/-- `reg`. -/
def reg (d : Discovery) (r : Registration) : Discovery × ℕ :=
  let registered := d.registry.metricsRegister r.id.text (some r.label) (some r.unit) (some r.group)
  ({
    registry := registered.1
    log := d.log ++ [⟨r.source, r.id.text, registered.2⟩]
    distinct := d.distinct.metricsRegister _ _ _ r.id.length_lt r.id.zero_notMem
    idAt_of_mem := by
      intro e he
      rcases List.mem_append.mp he with hold | hnew
      · exact MetricRegistry.idAt_metricsRegister_of_idAt _ _ _ (d.idAt_of_mem e hold)
      · rw [List.mem_singleton.mp hnew]
        exact MetricRegistry.idAt_metricsRegister _ _ _ r.id.length_lt r.id.zero_notMem },
    registered.2)

/-- The metrics of one device, each into its index field. -/
def regFields {F : Type} [DecidableEq F] (d : Discovery) (idx : F → ℕ) (fields : List F)
    (registration : F → Registration) : Discovery × (F → ℕ) :=
  fields.foldl (fun s field =>
    let (d, i) := s.1.reg (registration field)
    (d, Function.update s.2 field i)) (d, idx)

/-- The metrics of a list of devices. -/
def regDevices {A F : Type} [DecidableEq F] (d : Discovery) (devices : List A) (fields : List F)
    (registration : A → F → Registration) : Discovery × List (A × (F → ℕ)) :=
  devices.foldl (fun s device =>
    let (d, idx) := s.1.regFields (fun _ => 0) fields (registration device)
    (d, s.2 ++ [(device, idx)])) (d, [])

/-- The source was registered, and got this index. -/
def Has (d : Discovery) (source : Source) (idx : ℕ) : Prop :=
  ∃ e ∈ d.log, e.source = source ∧ e.idx = idx

/-- What was registered, without the indices. -/
def keys (d : Discovery) : List (Source × Bytes) := d.log.map fun e => (e.source, e.id)

variable {A F : Type} [DecidableEq F] {d : Discovery} {e e' : Registered} {source : Source}
  {idx : F → ℕ} {fields : List F} {registration : F → Registration} {field : F}

/-- Two registrations share an index just if they were made under one id. -/
theorem idx_eq_iff (he : e ∈ d.log) (he' : e' ∈ d.log) : e.idx = e'.idx ↔ e.id = e'.id := by
  constructor
  · intro hidx
    have hid := d.idAt_of_mem e he
    rw [hidx, d.idAt_of_mem e' he'] at hid
    exact (Option.some.inj hid).symm
  · intro hid
    have hat := d.idAt_of_mem e he
    rw [hid] at hat
    exact d.distinct.idAt_inj hat (d.idAt_of_mem e' he')

/-- Everything registered before is still there. -/
def Grows (d d' : Discovery) : Prop := d.log <+: d'.log

theorem Grows.trans {d d' d'' : Discovery} (h : d.Grows d') (h' : d'.Grows d'') : d.Grows d'' :=
  List.IsPrefix.trans h h'

theorem Has.grow {d d' : Discovery} {i : ℕ} (h : d.Has source i) (hgrows : d.Grows d') :
    d'.Has source i := by
  obtain ⟨e, he, hsource, hidx⟩ := h
  exact ⟨e, hgrows.subset he, hsource, hidx⟩

theorem grows_reg (r : Registration) : d.Grows (d.reg r).1 := List.prefix_append _ _

theorem has_reg (r : Registration) : (d.reg r).1.Has r.source (d.reg r).2 :=
  ⟨_, List.mem_append_right _ (List.mem_singleton.mpr rfl), rfl, rfl⟩

theorem keys_reg (r : Registration) : (d.reg r).1.keys = d.keys ++ [r.key] := by
  rw [keys, reg, List.map_append]
  rfl

/-- Every metric of the registry was registered by a call. -/
def Covered (d : Discovery) : Prop :=
  ∀ metric ∈ d.registry.defs, ∃ e ∈ d.log, e.id = metric.id

theorem covered_init : init.Covered := fun _ hmetric => by cases hmetric

theorem Covered.reg (h : d.Covered) (r : Registration) : (d.reg r).1.Covered := by
  have hold : ∀ metric ∈ d.registry.defs, ∃ e ∈ (d.reg r).1.log, e.id = metric.id := by
    intro metric hmetric
    obtain ⟨e, he, hid⟩ := h metric hmetric
    exact ⟨e, (grows_reg r).subset he, hid⟩
  intro metric hmetric
  change metric ∈ (d.registry.metricsRegister r.id.text _ _ _).1.defs at hmetric
  rw [MetricRegistry.metricsRegister] at hmetric
  split at hmetric
  · exact hold metric hmetric
  · rcases List.mem_append.mp hmetric with hmem | hnew
    · exact hold metric hmem
    · refine ⟨_, List.mem_append_right _ (List.mem_singleton.mpr rfl), ?_⟩
      rw [List.mem_singleton.mp hnew]
      exact (Lib.strlcpy_eq_self r.id.zero_notMem r.id.length_lt).symm

theorem regFields_cons (d : Discovery) (idx : F → ℕ) (field : F) (fields : List F)
    (registration : F → Registration) :
    d.regFields idx (field :: fields) registration =
      (d.reg (registration field)).1.regFields
        (Function.update idx field (d.reg (registration field)).2) fields registration := rfl

theorem grows_regFields : d.Grows (d.regFields idx fields registration).1 := by
  induction fields generalizing d idx with
  | nil => exact List.prefix_rfl
  | cons field fields ih =>
    rw [regFields_cons]
    exact (grows_reg _).trans ih

theorem Covered.regFields (h : d.Covered) : (d.regFields idx fields registration).1.Covered := by
  induction fields generalizing d idx with
  | nil => exact h
  | cons field fields ih =>
    rw [regFields_cons]
    exact ih (h.reg _)

theorem keys_regFields :
    (d.regFields idx fields registration).1.keys =
      d.keys ++ fields.map fun field => (registration field).key := by
  induction fields generalizing d idx with
  | nil => exact (List.append_nil _).symm
  | cons field fields ih =>
    rw [regFields_cons, ih, keys_reg, List.map_cons, List.append_assoc]
    rfl

theorem regFields_of_notMem (h : field ∉ fields) :
    (d.regFields idx fields registration).2 field = idx field := by
  induction fields generalizing d idx with
  | nil => rfl
  | cons other fields ih =>
    rw [List.mem_cons, not_or] at h
    rw [regFields_cons, ih h.2, Function.update_of_ne h.1]

/-- Each field holds the index of its own metric. -/
theorem has_regFields (h : field ∈ fields) :
    (d.regFields idx fields registration).1.Has (registration field).source
      ((d.regFields idx fields registration).2 field) := by
  induction fields generalizing d idx with
  | nil => cases h
  | cons other fields ih =>
    rw [regFields_cons]
    by_cases hlater : field ∈ fields
    · exact ih hlater
    · obtain rfl : field = other := (List.mem_cons.mp h).resolve_right hlater
      rw [regFields_of_notMem hlater, Function.update_self]
      exact (has_reg _).grow grows_regFields

section Devices

variable {devices : List A} {deviceRegistration : A → F → Registration} {found : List (A × (F → ℕ))}

/-- What is registered for the last device comes last. -/
theorem regDevices_append (d : Discovery) (devices : List A) (device : A) (fields : List F)
    (deviceRegistration : A → F → Registration) :
    d.regDevices (devices ++ [device]) fields deviceRegistration =
      (((d.regDevices devices fields deviceRegistration).1.regFields (fun _ => 0) fields
          (deviceRegistration device)).1,
        (d.regDevices devices fields deviceRegistration).2 ++
          [(device, ((d.regDevices devices fields deviceRegistration).1.regFields (fun _ => 0) fields
            (deviceRegistration device)).2)]) := by
  rw [regDevices, List.foldl_append]
  rfl

theorem grows_regDevices : d.Grows (d.regDevices devices fields deviceRegistration).1 := by
  induction devices using List.reverseRecOn with
  | nil => exact List.prefix_rfl
  | append_singleton devices device ih =>
    rw [regDevices_append]
    exact ih.trans grows_regFields

theorem Covered.regDevices (h : d.Covered) :
    (d.regDevices devices fields deviceRegistration).1.Covered := by
  induction devices using List.reverseRecOn with
  | nil => exact h
  | append_singleton devices device ih =>
    rw [regDevices_append]
    exact ih.regFields

theorem keys_regDevices :
    (d.regDevices devices fields deviceRegistration).1.keys =
      d.keys ++ devices.flatMap fun device => fields.map fun field =>
        (deviceRegistration device field).key := by
  induction devices using List.reverseRecOn with
  | nil => exact (List.append_nil _).symm
  | append_singleton devices device ih =>
    rw [regDevices_append, keys_regFields, ih, List.flatMap_append, List.flatMap_singleton,
      List.append_assoc]

theorem map_fst_regDevices :
    (d.regDevices devices fields deviceRegistration).2.map Prod.fst = devices := by
  induction devices using List.reverseRecOn with
  | nil => rfl
  | append_singleton devices device ih =>
    rw [regDevices_append, List.map_append, ih]
    rfl

/-- Each field of each device holds the index of its own metric. -/
theorem has_regDevices {device : A} {idx : F → ℕ}
    (hdevice : (device, idx) ∈ (d.regDevices devices fields deviceRegistration).2)
    (hfield : field ∈ fields) :
    (d.regDevices devices fields deviceRegistration).1.Has (deviceRegistration device field).source
      (idx field) := by
  induction devices using List.reverseRecOn with
  | nil => cases hdevice
  | append_singleton devices last ih =>
    rw [regDevices_append] at hdevice ⊢
    rcases List.mem_append.mp hdevice with hold | hlast
    · exact (ih hold).grow grows_regFields
    · obtain ⟨rfl, rfl⟩ := Prod.mk.inj (List.mem_singleton.mp hlast)
      exact has_regFields hfield

end Devices

end Discovery

end AxisMetrics
