import AxisMetrics.Lib.CText
import Mathlib.Data.Nat.Digits.Lemmas

/-!
# Numbers in decimal

The conversions `%u` and `%d`. Different numbers have different texts, and the texts are made of
digits, with a minus sign in front of a negative number.
-/

namespace Lib

/-- The conversion `%u`. -/
def decimal (n : ℕ) : Bytes :=
  if n = 0 then [48] else ((Nat.digits 10 n).map fun d => UInt8.ofNat (48 + d)).reverse

/-- The conversion `%d`. -/
def decimalInt (n : ℤ) : Bytes := if n < 0 then 45 :: decimal n.natAbs else decimal n.natAbs

theorem isDigit_ofNat {d : ℕ} (h : d < 10) : isDigit (UInt8.ofNat (48 + d)) = true := by
  revert d
  decide

theorem isDigit_of_mem_decimal {n : ℕ} {b : UInt8} (h : b ∈ decimal n) : isDigit b = true := by
  rw [decimal] at h
  split at h
  · rw [List.mem_singleton.mp h]
    rfl
  · obtain ⟨d, hd, rfl⟩ := List.mem_map.mp (List.mem_reverse.mp h)
    exact isDigit_ofNat (Nat.digits_lt_base (by decide) hd)

/-- A digit gives back the number it is written for. -/
theorem ofNat_digit_inj {d e : ℕ} (hd : d < 10) (he : e < 10)
    (h : UInt8.ofNat (48 + d) = UInt8.ofNat (48 + e)) : d = e := by
  have hvalues := congrArg UInt8.toNat h
  simp only [UInt8.toNat_ofNat'] at hvalues
  omega

theorem decimal_ne_nil (n : ℕ) : decimal n ≠ [] := by
  rw [decimal]
  split
  · exact List.cons_ne_nil _ _
  · next hn =>
    rw [Ne, List.reverse_eq_nil_iff, List.map_eq_nil_iff, Nat.digits_eq_nil_iff_eq_zero]
    exact hn

/-- The first digit of a positive number is no zero. -/
theorem head?_decimal {n : ℕ} (hn : n ≠ 0) : (decimal n).head? ≠ some 48 := by
  rw [decimal, if_neg hn, List.head?_reverse, List.getLast?_map,
    List.getLast?_eq_some_getLast (Nat.digits_ne_nil_iff_ne_zero.mpr hn)]
  intro h
  have hlt : (Nat.digits 10 n).getLast (Nat.digits_ne_nil_iff_ne_zero.mpr hn) < 10 :=
    Nat.digits_lt_base (by decide) (List.getLast_mem _)
  exact Nat.getLast_digit_ne_zero 10 hn (ofNat_digit_inj hlt (by decide) (Option.some.inj h))

theorem length_decimal_le {n k : ℕ} (hk : 0 < k) (h : n < 10 ^ k) : (decimal n).length ≤ k := by
  rw [decimal]
  split
  · exact hk
  · rw [List.length_reverse, List.length_map]
    exact (Nat.digits_length_le_iff (by decide) n).mpr h

theorem map_digit_inj {ds es : List ℕ} (hds : ∀ d ∈ ds, d < 10) (hes : ∀ e ∈ es, e < 10)
    (h : (ds.map fun d => UInt8.ofNat (48 + d)) = es.map fun e => UInt8.ofNat (48 + e)) :
    ds = es := by
  induction ds generalizing es with
  | nil => exact (List.map_eq_nil_iff.mp h.symm).symm
  | cons d ds ih =>
    cases es with
    | nil => cases h
    | cons e es =>
      obtain ⟨hd, hds⟩ := List.forall_mem_cons.mp hds
      obtain ⟨he, hes⟩ := List.forall_mem_cons.mp hes
      obtain ⟨hhead, htail⟩ := List.cons.inj h
      rw [ofNat_digit_inj hd he hhead, ih hds hes htail]

theorem decimal_injective : Function.Injective decimal := by
  intro n m h
  have hzero : ∀ {k : ℕ}, k ≠ 0 → decimal k ≠ decimal 0 := by
    intro k hk hsame
    have hdigits : Nat.digits 10 k = [0] := by
      refine map_digit_inj (fun d hd => Nat.digits_lt_base (by decide) hd) (by simp) ?_
      rw [decimal, if_neg hk] at hsame
      exact List.reverse_injective hsame
    rw [← Nat.ofDigits_digits 10 k, hdigits] at hk
    exact hk rfl
  by_cases hn : n = 0
  · subst hn
    by_contra hm
    exact hzero (Ne.symm hm) h.symm
  · by_cases hm : m = 0
    · subst hm
      exact absurd h (hzero hn)
    · rw [decimal, decimal, if_neg hn, if_neg hm] at h
      refine Nat.digits.injective 10 (map_digit_inj ?_ ?_ (List.reverse_injective h))
      · exact fun d hd => Nat.digits_lt_base (by decide) hd
      · exact fun d hd => Nat.digits_lt_base (by decide) hd

/-- Reading the digits of a number gives the number. -/
theorem digitsValue_decimal (n : ℕ) : digitsValue (decimal n) = n := by
  have hdigits : (decimal n).takeWhile isDigit = decimal n :=
    List.takeWhile_eq_self_iff.mpr fun b hb => isDigit_of_mem_decimal hb
  rw [digitsValue, hdigits, decimal]
  split
  · next hn => rw [hn]; rfl
  · rw [List.foldl_reverse, List.foldr_map]
    have hall : ∀ ds : List ℕ, (∀ d ∈ ds, d < 10) →
        ds.foldr (fun d n => 10 * n + ((UInt8.ofNat (48 + d)).toNat - 48)) 0 =
          Nat.ofDigits 10 ds := by
      intro ds hds
      induction ds with
      | nil => rfl
      | cons d ds ih =>
        obtain ⟨hd, hrest⟩ := List.forall_mem_cons.mp hds
        rw [List.foldr_cons, ih hrest, Nat.ofDigits_cons, UInt8.toNat_ofNat']
        omega
    rw [hall _ fun d hd => Nat.digits_lt_base (by decide) hd, Nat.ofDigits_digits]

end Lib
