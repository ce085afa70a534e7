import AxisMetrics.Lib.GrowArray
import AxisMetrics.Metrics

/-!
# The array behind the registry

`MetricRegistry` is a pointer to an array that `metrics_register` doubles when it is full. What is
in its used slots is the registry of definitions in registration order, and an index into the one is
a position in the other. Counters are natural numbers: `capacity_registerCalls` says when they
would leave a `guint`.
-/

namespace AxisMetrics

open Lib (Bytes ascii strlcpy GrowArray)

/-- A slot after `memset`. -/
def clearedDef : MetricDef where
  id := []
  label := []
  unit := []
  group := []
  id_lt := by decide
  zero_notMem_id := List.not_mem_nil

/-- `MetricRegistry` as it is in memory. -/
abbrev RegistryArray := GrowArray MetricDef

/-- The arguments of a call of `metrics_register`; the id is a C string of at most 63 bytes. -/
structure RegisterCall where
  id : Bytes
  label : Option Bytes
  unit : Option Bytes
  group : Option Bytes
  id_le : id.length ≤ 63
  zero_notMem_id : 0 ∉ id

/-- What a call copies into its slot. -/
def RegisterCall.metricDef (call : RegisterCall) : MetricDef where
  id := strlcpy METRIC_ID_MAX call.id
  label := strlcpy METRIC_LABEL_MAX (call.label.getD call.id)
  unit := strlcpy METRIC_UNIT_MAX (call.unit.getD [])
  group := strlcpy METRIC_GROUP_MAX (call.group.getD (ascii "other"))
  id_lt := Lib.length_strlcpy_lt (by decide) call.id
  zero_notMem_id := Lib.zero_notMem_strlcpy _ call.id

namespace RegistryArray

/-- `metrics_registry_init`. -/
def metricsRegistryInit : RegistryArray := GrowArray.cleared clearedDef (n := 64) (by decide)

/-- `metrics_find`, with `none` for -1. -/
def metricsFind (a : RegistryArray) (id : Bytes) : Option ℕ :=
  a.used.findIdx? fun metric => metric.id = id

/-- `metrics_register`, with the index it returns. -/
def metricsRegister (a : RegistryArray) (call : RegisterCall) : RegistryArray × ℕ :=
  match a.metricsFind call.id with
  | some existing => (a, existing)
  | none => (a.push clearedDef call.metricDef, a.count)

/-- The registry after a sequence of calls. -/
def registerCalls (calls : List RegisterCall) : RegistryArray :=
  calls.foldl (fun a call => (metricsRegister a call).1) metricsRegistryInit

/-- The definitions in registration order. -/
def registry (a : RegistryArray) : MetricRegistry := ⟨a.used⟩

-- ════════════════════════════════════════════════════════════════════════
-- The array and the list of definitions
-- ════════════════════════════════════════════════════════════════════════

variable (a : RegistryArray) (call : RegisterCall)

theorem count_registry : a.registry.count = a.count := a.length_used

theorem metricsFind_eq (id : Bytes) :
    a.metricsFind id = (a.registry.metricsFind id).map Fin.val :=
  Lib.findIdx?_eq_find?_finRange (fun metric : MetricDef => metric.id = id) a.used

/-- Registering in the array is registering in the list. -/
theorem registry_metricsRegister :
    ((metricsRegister a call).1.registry, (metricsRegister a call).2) =
      a.registry.metricsRegister call.id call.label call.unit call.group := by
  rw [metricsRegister, MetricRegistry.metricsRegister, metricsFind_eq]
  cases a.registry.metricsFind call.id with
  | some i => rfl
  | none =>
    rw [Option.map_none]
    dsimp only
    rw [count_registry, registry, GrowArray.used_push]
    rfl

theorem registerCalls_concat (calls : List RegisterCall) :
    registerCalls (calls ++ [call]) = (metricsRegister (registerCalls calls) call).1 := by
  rw [registerCalls, List.foldl_concat, registerCalls]

/-- The ids in the array are distinct at every time. -/
theorem distinct_registerCalls (calls : List RegisterCall) :
    (registerCalls calls).registry.Distinct := by
  induction calls using List.reverseRecOn with
  | nil =>
    rw [MetricRegistry.distinct_iff]
    exact List.nodup_nil
  | append_singleton calls call ih =>
    rw [registerCalls_concat, (Prod.mk.inj (registry_metricsRegister _ call)).1]
    exact ih.metricsRegister _ _ _ (Nat.lt_succ_of_le call.id_le) call.zero_notMem_id

/-- An index that is returned stands for the id of the call from then on. -/
theorem idAt_registerCalls (before after : List RegisterCall) :
    (registerCalls (before ++ call :: after)).registry.idAt
      (metricsRegister (registerCalls before) call).2 = some call.id := by
  induction after using List.reverseRecOn with
  | nil =>
    obtain ⟨hregistry, hindex⟩ := Prod.mk.inj (registry_metricsRegister (registerCalls before) call)
    rw [registerCalls_concat, hregistry, hindex]
    exact MetricRegistry.idAt_metricsRegister _ _ _ (Nat.lt_succ_of_le call.id_le)
      call.zero_notMem_id
  | append_singleton after last ih =>
    rw [← List.cons_append, ← List.append_assoc, registerCalls_concat,
      (Prod.mk.inj (registry_metricsRegister _ last)).1]
    exact MetricRegistry.idAt_metricsRegister_of_idAt _ _ _ ih

/-- An id is at an index: that is where it is found, where it is stored, and what registering it
again returns, without a change of the array. -/
structure Denotes (a : RegistryArray) (id : Bytes) (index : ℕ) : Prop where
  find : a.metricsFind id = some index
  used : index < a.count
  stored : a.slots[index]?.map MetricDef.id = some id
  again : ∀ call : RegisterCall, call.id = id → metricsRegister a call = (a, index)

theorem denotes_of_idAt {a : RegistryArray} {id : Bytes} {index : ℕ}
    (hdistinct : a.registry.Distinct) (h : a.registry.idAt index = some id) :
    Denotes a id index := by
  obtain ⟨hlt, hid⟩ := MetricRegistry.exists_of_idAt h
  have hfind : a.metricsFind id = some index := by
    rw [metricsFind_eq, ← hid, hdistinct.metricsFind_self, Option.map_some]
  rw [count_registry] at hlt
  refine ⟨hfind, hlt, ?_, ?_⟩
  · rw [MetricRegistry.idAt, registry, GrowArray.used, List.getElem?_take_of_lt hlt] at h
    exact h
  · intro call hcall
    rw [metricsRegister, hcall, hfind]

/-- Whatever is registered in whatever order: the stored ids are distinct, and the index that a
call returns denotes its id in every later state of the array, however often it has been
doubled. -/
theorem registerCalls_stable :
    (∀ calls, ((registerCalls calls).used.map MetricDef.id).Nodup) ∧
    ∀ before call after, Denotes (registerCalls (before ++ call :: after)) call.id
      (metricsRegister (registerCalls before) call).2 := by
  refine ⟨fun calls => ?_, fun before call after => ?_⟩
  · exact MetricRegistry.distinct_iff.mp (distinct_registerCalls calls)
  · exact denotes_of_idAt (distinct_registerCalls _) (idAt_registerCalls call before after)

/-- As long as fewer than `2^31` metrics are registered, the counters fit a `guint`. -/
theorem capacity_registerCalls (calls : List RegisterCall)
    (h : (registerCalls calls).count < 2 ^ 31) : (registerCalls calls).capacity < 2 ^ 32 := by
  have hle : ∀ calls, (registerCalls calls).capacity ≤ 64 ∨
      (registerCalls calls).capacity ≤ 2 * (registerCalls calls).count := by
    intro calls
    induction calls using List.reverseRecOn with
    | nil => exact Or.inl (by decide)
    | append_singleton calls call ih =>
      rw [registerCalls_concat, metricsRegister]
      split
      · exact ih
      · exact GrowArray.capacity_push_le _ _ _ ih
  have hcalls := hle calls
  omega

end RegistryArray

end AxisMetrics
