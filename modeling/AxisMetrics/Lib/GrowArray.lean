import Mathlib.Data.List.FinRange
import Mathlib.Tactic.Common

/-!
# Arrays that double

An array of slots of which the first `count` are used. When all are used and one more is needed,
the array is doubled and its new slots are cleared. What is used grows at its end and nowhere else.
-/

namespace Lib

/-- Slots of which the first `count` are used. There is at least one, or doubling would not help. -/
structure GrowArray (α : Type) where
  slots : List α
  count : ℕ
  count_le : count ≤ slots.length
  slots_pos : 0 < slots.length

namespace GrowArray

variable {α : Type}

/-- An array of `n` cleared slots. -/
def cleared (zero : α) {n : ℕ} (hn : 0 < n) : GrowArray α where
  slots := List.replicate n zero
  count := 0
  count_le := Nat.zero_le _
  slots_pos := by rwa [List.length_replicate]

/-- The number of slots. -/
def capacity (a : GrowArray α) : ℕ := a.slots.length

/-- What is in the used slots. -/
def used (a : GrowArray α) : List α := a.slots.take a.count

/-- The slots when one more is needed. -/
def grown (zero : α) (a : GrowArray α) : List α :=
  if a.count = a.capacity then a.slots ++ List.replicate a.capacity zero else a.slots

variable (zero x : α) (a : GrowArray α)

theorem count_lt_length_grown : a.count < (a.grown zero).length := by
  have hle := a.count_le
  have hpos := a.slots_pos
  unfold grown capacity
  split
  · rw [List.length_append, List.length_replicate]
    omega
  · omega

theorem grown_prefix : a.slots <+: a.grown zero := by
  unfold grown
  split
  · exact List.prefix_append _ _
  · exact List.prefix_rfl

/-- One more slot is used, for `x`. -/
def push : GrowArray α where
  slots := (a.grown zero).set a.count x
  count := a.count + 1
  count_le := by
    rw [List.length_set]
    exact a.count_lt_length_grown zero
  slots_pos := by
    rw [List.length_set]
    exact Nat.zero_lt_of_lt (a.count_lt_length_grown zero)

theorem length_used : a.used.length = a.count := by
  rw [used, List.length_take, Nat.min_eq_left a.count_le]

/-- The used slots stay as they are, also when the array is doubled. -/
theorem used_push : (a.push zero x).used = a.used ++ [x] := by
  have hlt := a.count_lt_length_grown zero
  have hkept : (a.grown zero).take a.count = a.used := by
    obtain ⟨more, hmore⟩ := a.grown_prefix zero
    rw [← hmore, List.take_append_of_le_length a.count_le, used]
  change ((a.grown zero).set a.count x).take (a.count + 1) = _
  rw [List.take_add_one, List.take_set_of_le le_rfl, hkept, List.getElem?_set_self hlt]
  rfl

/-- There are as many slots as at first or at most twice as many as are used. -/
theorem capacity_push_le {n : ℕ} (h : a.capacity ≤ n ∨ a.capacity ≤ 2 * a.count) :
    (a.push zero x).capacity ≤ n ∨ (a.push zero x).capacity ≤ 2 * (a.push zero x).count := by
  have hcapacity : (a.push zero x).capacity = (a.grown zero).length := List.length_set
  have hcount : (a.push zero x).count = a.count + 1 := rfl
  rw [hcapacity, hcount, grown]
  split
  · next hfull =>
    rw [List.length_append, List.length_replicate]
    unfold capacity at hfull ⊢
    omega
  · unfold capacity at h
    omega

end GrowArray

/-- Searching a list is searching its positions. -/
theorem findIdx?_eq_find?_finRange {α : Type} (p : α → Bool) (l : List α) :
    l.findIdx? p = ((List.finRange l.length).find? fun i => p (l.get i)).map Fin.val := by
  induction l with
  | nil => rfl
  | cons a l ih =>
    have hcons : List.finRange (a :: l).length = 0 :: (List.finRange l.length).map Fin.succ :=
      List.finRange_succ
    rw [List.findIdx?_cons, ih, hcons, List.find?_cons]
    by_cases ha : p a = true
    · simp [ha]
    · simp [ha, List.find?_map, Function.comp_def, Option.map_map]

end Lib
