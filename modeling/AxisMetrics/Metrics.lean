import AxisMetrics.Lib.CText
import Mathlib.Data.Fintype.Basic
import Mathlib.Data.List.FinRange

/-!
# The metric registry

Metrics are discovered into a flat registry, so a sample is a vector of floats indexed
by registry position.
-/

namespace AxisMetrics

open Lib (Bytes ascii strlcpy)

def METRIC_ID_MAX : ℕ := 64
def METRIC_LABEL_MAX : ℕ := 80
def METRIC_UNIT_MAX : ℕ := 16
def METRIC_GROUP_MAX : ℕ := 24

/-- One registered metric. The id is a C string in a buffer of `METRIC_ID_MAX` bytes, and
the definition says so. -/
structure MetricDef where
  id : Bytes
  label : Bytes
  unit : Bytes
  group : Bytes
  id_lt : id.length < METRIC_ID_MAX
  zero_notMem_id : 0 ∉ id

/-- The registered metrics in registration order. -/
structure MetricRegistry where
  defs : List MetricDef

namespace MetricRegistry

/-- `registry->count`. -/
def count (r : MetricRegistry) : ℕ := r.defs.length

/-- The id at a registry position. -/
def id (r : MetricRegistry) (i : Fin r.count) : Bytes := (r.defs.get i).id

/-- No two metrics share an id. -/
def Distinct (r : MetricRegistry) : Prop := Function.Injective r.id

instance (r : MetricRegistry) : Decidable r.Distinct :=
  inferInstanceAs (Decidable (Function.Injective r.id))

/-- `metrics_find`: the first position that holds the id. -/
def metricsFind (r : MetricRegistry) (id : Bytes) : Option (Fin r.count) :=
  (List.finRange r.count).find? fun i => r.id i = id

/-- `metrics_register`: the registry that has the id, and its position there. -/
def metricsRegister (r : MetricRegistry) (id : Bytes) (label unit group : Option Bytes) :
    MetricRegistry × ℕ :=
  match r.metricsFind id with
  | some i => (r, i)
  | none =>
    (⟨r.defs ++ [{
      id := strlcpy METRIC_ID_MAX id
      label := strlcpy METRIC_LABEL_MAX (label.getD id)
      unit := strlcpy METRIC_UNIT_MAX (unit.getD [])
      group := strlcpy METRIC_GROUP_MAX (group.getD (ascii "other"))
      id_lt := Lib.length_strlcpy_lt (by decide) id
      zero_notMem_id := Lib.zero_notMem_strlcpy _ id }]⟩, r.count)

/-- The registry after registering the ids in order, each with its own id as label. -/
def registerAll (ids : List Bytes) : MetricRegistry :=
  ids.foldl (fun r id => (r.metricsRegister id none none none).1) ⟨[]⟩

theorem metricsFind_id {r : MetricRegistry} {id : Bytes} {i : Fin r.count}
    (h : r.metricsFind id = some i) : r.id i = id := by
  simpa using List.find?_some h

theorem metricsFind_eq_none {r : MetricRegistry} {id : Bytes} :
    r.metricsFind id = none ↔ ∀ i, r.id i ≠ id := by
  simp [metricsFind]

/-- Where ids are distinct, a metric is found at its own position. -/
theorem Distinct.metricsFind_self {r : MetricRegistry} (h : r.Distinct) (i : Fin r.count) :
    r.metricsFind (r.id i) = some i := by
  cases hf : r.metricsFind (r.id i) with
  | none => exact absurd rfl (metricsFind_eq_none.mp hf i)
  | some j => rw [h (metricsFind_id hf)]

/-- What is stored at a position, if it is used. -/
def idAt (r : MetricRegistry) (i : ℕ) : Option Bytes := r.defs[i]?.map MetricDef.id

theorem idAt_eq_id (r : MetricRegistry) (i : Fin r.count) : r.idAt i = some (r.id i) := by
  rw [idAt, List.getElem?_eq_getElem i.isLt]
  rfl

theorem exists_of_idAt {r : MetricRegistry} {i : ℕ} {id : Bytes} (h : r.idAt i = some id) :
    ∃ hi : i < r.count, r.id ⟨i, hi⟩ = id := by
  obtain ⟨metric, hmetric, rfl⟩ := Option.map_eq_some_iff.mp h
  obtain ⟨hi, rfl⟩ := List.getElem?_eq_some_iff.mp hmetric
  exact ⟨hi, rfl⟩

/-- Where ids are distinct, an id has one position. -/
theorem Distinct.idAt_inj {r : MetricRegistry} (h : r.Distinct) {i j : ℕ} {id : Bytes}
    (hi : r.idAt i = some id) (hj : r.idAt j = some id) : i = j := by
  obtain ⟨hi, hiid⟩ := exists_of_idAt hi
  obtain ⟨hj, hjid⟩ := exists_of_idAt hj
  exact congrArg Fin.val (h (hiid.trans hjid.symm))

theorem distinct_iff {r : MetricRegistry} : r.Distinct ↔ (r.defs.map MetricDef.id).Nodup := by
  have hids : r.defs.map MetricDef.id = List.ofFn r.id := by
    apply List.ext_getElem
    · rw [List.length_map, List.length_ofFn, count]
    · intro i _ _
      rw [List.getElem_map, List.getElem_ofFn]
      rfl
  rw [hids]
  exact List.nodup_ofFn.symm

section Register

variable {r : MetricRegistry} {newId : Bytes} (label unit group : Option Bytes)

/-- Registered metrics keep their positions. -/
theorem idAt_metricsRegister_of_idAt {i : ℕ} {id : Bytes} (h : r.idAt i = some id) :
    (r.metricsRegister newId label unit group).1.idAt i = some id := by
  rw [metricsRegister]
  split
  · exact h
  · obtain ⟨hi, -⟩ := exists_of_idAt h
    rw [idAt, List.getElem?_append_left hi]
    exact h

variable (hlength : newId.length < METRIC_ID_MAX) (hzero : 0 ∉ newId)

include hlength hzero

/-- An id that fits is at the position that registering it gives. -/
theorem idAt_metricsRegister :
    (r.metricsRegister newId label unit group).1.idAt (r.metricsRegister newId label unit group).2 =
      some newId := by
  rw [metricsRegister]
  split
  · next i hfound => rw [idAt_eq_id, metricsFind_id hfound]
  · rw [idAt, count, List.getElem?_append_right le_rfl, Nat.sub_self]
    exact congrArg some (Lib.strlcpy_eq_self hzero hlength)

/-- Registering an id that fits keeps the ids distinct. -/
theorem Distinct.metricsRegister (h : r.Distinct) :
    (r.metricsRegister newId label unit group).1.Distinct := by
  rw [MetricRegistry.metricsRegister]
  split
  · exact h
  · next hnone =>
    rw [distinct_iff, List.map_append, List.nodup_append]
    refine ⟨distinct_iff.mp h, List.nodup_singleton _, ?_⟩
    intro id hid other hother hsame
    obtain ⟨metric, hmetric, rfl⟩ := List.mem_map.mp hid
    obtain ⟨i, rfl⟩ := List.get_of_mem hmetric
    refine metricsFind_eq_none.mp hnone i ?_
    rw [List.map_singleton, List.mem_singleton] at hother
    exact hsame.trans (hother.trans (Lib.strlcpy_eq_self hzero hlength))

end Register

theorem id_lt (r : MetricRegistry) (i : Fin r.count) : (r.id i).length < METRIC_ID_MAX :=
  (r.defs.get i).id_lt

theorem zero_notMem_id (r : MetricRegistry) (i : Fin r.count) : 0 ∉ r.id i :=
  (r.defs.get i).zero_notMem_id

end MetricRegistry

end AxisMetrics
