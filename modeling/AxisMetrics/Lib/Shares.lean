import Mathlib.Algebra.BigOperators.Ring.Finset
import Mathlib.Algebra.Order.BigOperators.Group.Finset
import Mathlib.Tactic.Common

/-!
# Shares with minima

An amount is shared out in whole parts, and each share is raised to a minimum of its own. What the
minima add is no more than rounding left over just if the amount is kept.
-/

namespace Lib

variable {ι : Type} [Fintype ι] {least share : ι → ℕ} {amount : ℕ}

/-- What raising the shares to the minima adds. -/
def shortfall (least share : ι → ℕ) : ℕ := ∑ i, (least i - share i)

theorem sum_max_eq (least share : ι → ℕ) :
    ∑ i, max (least i) (share i) = ∑ i, share i + shortfall least share := by
  rw [shortfall, ← Finset.sum_add_distrib]
  apply Finset.sum_congr rfl
  intro i _
  omega

/-- The raised shares are the minima just if no share is above its minimum. -/
theorem sum_max_le_iff : ∑ i, max (least i) (share i) ≤ ∑ i, least i ↔ ∀ i, share i ≤ least i := by
  constructor
  · intro h i
    by_contra hi
    have hlt : ∑ i, least i < ∑ i, max (least i) (share i) := by
      apply Finset.sum_lt_sum (fun i _ => le_max_left _ _)
      exact ⟨i, Finset.mem_univ i, by omega⟩
    omega
  · intro h
    exact Finset.sum_le_sum fun i _ => max_le le_rfl (h i)

/-- The raised shares keep to the amount, or to the minima where these are more. -/
theorem sum_max_le_max_iff (hshares : ∑ i, share i ≤ amount) :
    ∑ i, max (least i) (share i) ≤ max amount (∑ i, least i) ↔
      (∀ i, share i ≤ least i) ∨ shortfall least share ≤ amount - ∑ i, share i := by
  rw [le_max_iff, sum_max_le_iff, sum_max_eq, or_comm]
  apply or_congr_right
  omega

section Rounding

variable (a : ι → ℕ) {c : ℕ} (hc : 0 < c)
include hc

/-- Parts that are rounded down add up to no more than the whole. -/
theorem sum_div_le : ∑ i, a i / c ≤ (∑ i, a i) / c := by
  rw [Nat.le_div_iff_mul_le hc, Finset.sum_mul]
  exact Finset.sum_le_sum fun i _ => Nat.div_mul_le_self (a i) c

/-- Rounding loses less than one for each part. -/
theorem div_sum_lt [Nonempty ι] : (∑ i, a i) / c < ∑ i, a i / c + Fintype.card ι := by
  rw [Nat.div_lt_iff_lt_mul hc, add_mul, Finset.sum_mul]
  calc ∑ i, a i < ∑ i, (a i / c * c + c) := by
        apply Finset.sum_lt_sum_of_nonempty Finset.univ_nonempty
        intro i _
        have hmod := Nat.mod_lt (a i) hc
        have hdiv := Nat.div_add_mod' (a i) c
        omega
    _ = ∑ i, a i / c * c + Fintype.card ι * c := by
        rw [Finset.sum_add_distrib, Finset.sum_const, Finset.card_univ, nsmul_eq_mul, Nat.cast_id]

end Rounding

end Lib
