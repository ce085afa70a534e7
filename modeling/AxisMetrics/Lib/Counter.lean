import AxisMetrics.Lib.Lines
import Mathlib.Data.Nat.ModEq
import Mathlib.Data.List.Range
import Mathlib.Tactic.NormNum

/-!
# Counters modulo `2 ^ 64`

The difference of two readings of a counter of 64 bits, and how much of the difference of a sum is
due to one of its parts.
-/

namespace Lib

variable {a b p q : ℕ}

theorem guint64_lt (n : ℕ) : guint64 n < 2 ^ 64 := Nat.mod_lt _ (by decide)

theorem guint64Sub_lt (a b : ℕ) : guint64Sub a b < 2 ^ 64 := guint64_lt _

/-- A difference of readings that did not go backwards. -/
theorem guint64Sub_of_le (hle : p ≤ a) (hlt : a - p < 2 ^ 64) : guint64Sub a p = a - p := by
  rw [guint64Sub, guint64, guint64]
  omega

/-- The difference of a sum is the sum of the differences. -/
theorem guint64Sub_add (a b p q : ℕ) :
    guint64Sub (a + b) (p + q) = guint64 (guint64Sub a p + guint64Sub b q) := by
  simp only [guint64Sub, guint64]
  omega

theorem guint64Sub_guint64 (a p : ℕ) : guint64Sub (guint64 a) (guint64 p) = guint64Sub a p := by
  simp only [guint64Sub, guint64]
  omega

theorem guint64Sub_eq_zero : guint64Sub a p = 0 ↔ guint64 p = guint64 a := by
  simp only [guint64Sub, guint64]
  omega

/-- A part of a sum changes by no more than the sum just if the part and the rest change by less
than `2 ^ 64` together. -/
theorem guint64Sub_le_add : guint64Sub a p ≤ guint64Sub (a + b) (p + q) ↔
    guint64Sub a p + guint64Sub b q < 2 ^ 64 := by
  have hpart := guint64Sub_lt a p
  have hrest := guint64Sub_lt b q
  rw [guint64Sub_add]
  by_cases hcarry : guint64Sub a p + guint64Sub b q < 2 ^ 64
  · rw [guint64, Nat.mod_eq_of_lt hcarry]
    exact iff_of_true (Nat.le_add_right _ _) hcarry
  · refine iff_of_false ?_ hcarry
    rw [guint64]
    omega

end Lib
