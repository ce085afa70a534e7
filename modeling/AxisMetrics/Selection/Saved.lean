import AxisMetrics.Lib.KeyFile
import AxisMetrics.Lib.Separated
import AxisMetrics.Selection

/-!
# The selection on the disk

`save` writes the disabled ids of each scope as a comma-separated list, and `load` splits it again.
What `selection_set_disabled` leaves comes back from the file (`mem_selectionLoad`).
-/

namespace AxisMetrics

open Lib (Bytes ascii strsplit KeyFile isUtf8)

/-- `selection_scope_name`. -/
def selectionScopeName : SelectScope → Bytes
  | .transmit => ascii "transmit"
  | .display => ascii "display"

/-- The order in which an iteration over a hash table gives the keys, each of them once. -/
structure KeyOrder where
  keys : List Bytes → List Bytes
  perm : ∀ ids, (keys ids).Perm ids.dedup

theorem KeyOrder.mem_keys (order : KeyOrder) {ids : List Bytes} {id : Bytes} :
    id ∈ order.keys ids ↔ id ∈ ids := by
  rw [(order.perm ids).mem_iff, List.mem_dedup]

/-- The list of a scope in the file. -/
def selectionCsv (order : KeyOrder) (selection : Selection) (scope : SelectScope) : Bytes :=
  (order.keys (selection.disabled scope)).foldl
    (fun csv key => (if csv = [] then [] else csv ++ [44]) ++ key) []

/-- `save`. -/
def selectionSave (order : KeyOrder) (selection : Selection) : KeyFile Empty :=
  [SelectScope.display, .transmit].foldl (fun file scope =>
    file.set (selectionScopeName scope) (ascii "disabled")
      (.string (selectionCsv order selection scope))) []

/-- `load`; the key file has no groups where there is no file. -/
def selectionLoad (file : KeyFile Empty) : Selection where
  disabled scope := ((file.getString (selectionScopeName scope) (ascii "disabled")).map
    disabledIds).getD []

/-- An id that the list keeps as it is. -/
structure ListedId (id : Bytes) : Prop where
  ne_nil : id ≠ []
  comma_notMem : 44 ∉ id
  stripped : strstrip id = id

theorem strstrip_idempotent (text : Bytes) : strstrip (strstrip text) = strstrip text := by
  have hhead : (strstrip text).dropWhile isStripped = strstrip text := by
    rw [strstrip]
    cases hrest : text.dropWhile isStripped with
    | nil => rfl
    | cons b rest =>
      have hb : isStripped b = false := by
        have hfirst := List.head_dropWhile_not isStripped (l := text) (by rw [hrest]; simp)
        simpa [hrest] using hfirst
      cases hkept : (b :: rest).rdropWhile isStripped with
      | nil => rfl
      | cons c more =>
        obtain rfl : c = b := by
          have hprefix := List.rdropWhile_prefix isStripped (b :: rest)
          rw [hkept] at hprefix
          exact (List.cons_prefix_cons.mp hprefix).1
        exact List.dropWhile_cons_of_neg (by rw [hb]; exact Bool.false_ne_true)
  rw [strstrip, hhead]
  exact List.rdropWhile_idempotent isStripped _

/-- What `selection_set_disabled` takes from a list. -/
theorem listedId_of_mem_disabledIds {csv id : Bytes} (h : id ∈ disabledIds csv) : ListedId id := by
  obtain ⟨hmem, hne⟩ := List.mem_filter.mp h
  obtain ⟨part, hpart, rfl⟩ := List.mem_map.mp hmem
  refine ⟨by simpa using hne, fun hcomma => ?_, strstrip_idempotent part⟩
  have hsub : strstrip part ⊆ part := fun b hb =>
    (List.dropWhile_suffix _).subset ((List.rdropWhile_prefix _ _).subset hb)
  exact Lib.notMem_of_mem_strsplit hpart (hsub hcomma)

theorem disabledIds_intercalate {ids : List Bytes} (h : ∀ id ∈ ids, ListedId id) :
    disabledIds ([44].intercalate ids) = ids := by
  have hempty : [] ∉ ids := fun hmem => (h [] hmem).ne_nil rfl
  have hstrip : ids.map strstrip = ids :=
    (List.map_congr_left fun id hid => (h id hid).stripped).trans (List.map_id ids)
  rw [disabledIds, Lib.strsplit_intercalate hempty fun id hid => (h id hid).comma_notMem, hstrip]
  refine List.filter_eq_self.mpr fun id hid => ?_
  simpa using (h id hid).ne_nil

/-- A selection that the file can hold. -/
def Selection.Storable (selection : Selection) : Prop :=
  ∀ scope, ∀ id ∈ selection.disabled scope, ListedId id ∧ isUtf8 id = true

theorem getString_selectionSave (order : KeyOrder) (selection : Selection) (scope : SelectScope)
    (hcsv : isUtf8 (selectionCsv order selection scope) = true) :
    (selectionSave order selection).getString (selectionScopeName scope) (ascii "disabled") =
      some (selectionCsv order selection scope) := by
  have hget : (selectionSave order selection).get (selectionScopeName scope) (ascii "disabled") =
      some (.string (selectionCsv order selection scope)) := by
    cases scope <;> rfl
  rw [KeyFile.getString, hget]
  exact if_pos hcsv

/-- What was saved is loaded. -/
theorem mem_selectionLoad (order : KeyOrder) {selection : Selection} (h : selection.Storable)
    (scope : SelectScope) (id : Bytes) :
    id ∈ (selectionLoad (selectionSave order selection)).disabled scope ↔
      id ∈ selection.disabled scope := by
  have hkeys : ∀ key ∈ order.keys (selection.disabled scope), ListedId key ∧ isUtf8 key = true :=
    fun key hkey => h scope key (order.mem_keys.mp hkey)
  have hcsv : selectionCsv order selection scope =
      [44].intercalate (order.keys (selection.disabled scope)) :=
    Lib.foldl_separated fun hmem => (hkeys [] hmem).1.ne_nil rfl
  have hutf8 : isUtf8 (selectionCsv order selection scope) = true := by
    rw [hcsv]
    exact Lib.isUtf8_intercalate (by decide) fun key hkey => (hkeys key hkey).2
  have hloaded : (selectionLoad (selectionSave order selection)).disabled scope =
      order.keys (selection.disabled scope) := by
    rw [selectionLoad]
    dsimp only
    rw [getString_selectionSave order selection scope hutf8, Option.map_some, Option.getD_some,
      hcsv, disabledIds_intercalate fun key hkey => (hkeys key hkey).1]
  rw [hloaded]
  exact order.mem_keys

end AxisMetrics
