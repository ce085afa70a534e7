import Mathlib.Data.List.Perm.Basic
import Mathlib.Order.Lattice

/-!
# The first of a list that is sorted

Of a list whose members have keys, some that no other is above, the highest of them first. Sorting
by the keys and taking the first gives them, also where the comparison is one of keys for the members
of the list alone.
-/

namespace Lib

variable {α κ : Type} [LinearOrder κ] {key : α → κ} {n : ℕ} {l shown : List α}
  {le : α → α → Bool}

/-- The `n` members of a list with the highest keys, in the order of their keys. -/
structure Topmost (key : α → κ) (n : ℕ) (l shown : List α) : Prop where
  length : shown.length = min n l.length
  sorted : shown.Pairwise fun a b => key b ≤ key a
  /-- The others are not above them. -/
  others : ∃ rest, (shown ++ rest).Perm l ∧ ∀ a ∈ shown, ∀ b ∈ rest, key b ≤ key a

theorem Topmost.subset (h : Topmost key n l shown) : shown ⊆ l := by
  obtain ⟨rest, hperm, -⟩ := h.others
  exact List.Subset.trans (List.subset_append_left _ _) hperm.subset

/-- A comparison that is one of keys, as far as the list goes. -/
def ComparesKeys (key : α → κ) (le : α → α → Bool) (l : List α) : Prop :=
  ∀ a ∈ l, ∀ b ∈ l, le a b = decide (key b ≤ key a)

theorem pairwise_mergeSort_keys (h : ComparesKeys key le l) :
    (l.mergeSort le).Pairwise fun a b => key b ≤ key a := by
  have hsame : l.mergeSort le = l.mergeSort fun a b => decide (key b ≤ key a) := by
    have hmap := List.map_mergeSort (r := le) (s := fun a b => decide (key b ≤ key a)) (f := id) h
    rwa [List.map_id, List.map_id] at hmap
  have hsorted : (l.mergeSort fun a b => decide (key b ≤ key a)).Pairwise
      fun a b => decide (key b ≤ key a) = true := by
    apply List.pairwise_mergeSort
    · intro a b c hab hbc
      simp only [decide_eq_true_eq] at *
      exact hbc.trans hab
    · intro a b
      simpa using le_total (key b) (key a)
  rw [hsame]
  exact hsorted.imp of_decide_eq_true

theorem topmost_take_mergeSort (h : ComparesKeys key le l) (n : ℕ) :
    Topmost key n l ((l.mergeSort le).take n) := by
  have hsorted := pairwise_mergeSort_keys h
  refine ⟨?_, hsorted.sublist (List.take_sublist n _), (l.mergeSort le).drop n, ?_, ?_⟩
  · rw [List.length_take, List.length_mergeSort]
  · rw [List.take_append_drop]
    exact List.mergeSort_perm l le
  · intro a ha b hb
    rw [← List.take_append_drop n (l.mergeSort le)] at hsorted
    exact (List.pairwise_append.mp hsorted).2.2 a ha b hb

end Lib
