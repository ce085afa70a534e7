import AxisMetrics.Api.Documents
import AxisMetrics.Lib.JsonNumber

/-!
# The machine's numbers

A C `double` as its bits, next to `CFloat`, and what the alerts and the documents do with both.
-/

namespace AxisMetrics

open Lib (FloatDatum Json binary32 binary64)

/-- A C `double`: 64 bits. -/
structure CDouble where
  bits : UInt64
  deriving DecidableEq

/-- What the bits stand for. -/
def CFloat.datum (x : CFloat) : FloatDatum := binary32.decode x.bits.toNat

/-- What the bits stand for. -/
def CDouble.datum (x : CDouble) : FloatDatum := binary64.decode x.bits.toNat

/-- The double nearest to a number. -/
def CDouble.ofDatum (datum : FloatDatum) : CDouble := ⟨UInt64.ofNat (binary64.encode datum)⟩

instance : AlertArith CFloat CDouble where
  isnan := CFloat.isnan
  gt value threshold := threshold.datum.less value.datum
  lt value threshold := value.datum.less threshold.datum
  ofValue value := .ofDatum value.datum
  ofNat n := .ofDatum (.finite false n 1)
  strtod text := .ofDatum (Lib.strtod text)

instance : RenderArith CFloat CDouble where
  isinf value := value.datum.isInfinite
  format7g value := Lib.formatG 7 value.datum
  formatG value := Lib.formatG 6 value.datum
  format2f value := Lib.format2f value.datum
  greater a b := b.datum.less a.datum

theorem formatG_eq (x : CDouble) : RenderArith.formatG CFloat x = Lib.formatG 6 x.datum := rfl

/-- `isnan` looks at the bits for what they stand for. -/
theorem CFloat.isnan_eq (x : CFloat) : x.isnan = x.datum.isNan := by
  have hlt := x.bits.toNat_lt
  have hmask : (x.bits &&& 0x7fffffff).toNat = x.bits.toNat % 2 ^ 31 := by
    rw [UInt32.toNat_and]
    exact Nat.and_two_pow_sub_one_eq_mod _ 31
  have hnan : x.isnan = true ↔ 0x7f800000 < x.bits.toNat % 2 ^ 31 := by
    rw [CFloat.isnan, ← hmask]
    exact decide_eq_true_iff
  have hexponent : x.datum.isNan = true ↔
      x.bits.toNat / 2 ^ 23 % 2 ^ 8 = 2 ^ 8 - 1 ∧ x.bits.toNat % 2 ^ 23 ≠ 0 :=
    binary32.isNan_decode x.bits.toNat
  rw [Bool.eq_iff_iff, hnan, hexponent]
  omega

/-- A sample that is neither NaN nor infinite is printed as a number. -/
theorem isJsonNumber_format7g {x : CFloat} (hnan : SampleArith.isnan x = false)
    (hinf : RenderArith.isinf x = false) : Lib.isJsonNumber (RenderArith.format7g x) = true := by
  change x.isnan = false at hnan
  change x.datum.isInfinite = false at hinf
  change Lib.isJsonNumber (Lib.formatG 7 x.datum) = true
  rw [CFloat.isnan_eq] at hnan
  cases hdatum : x.datum with
  | nan negative => rw [hdatum] at hnan; cases hnan
  | infinite negative => rw [hdatum] at hinf; cases hinf
  | finite negative num den => exact Lib.isJsonNumber_formatG 7 negative num den

/-- A value is printed with the bytes of numbers and of "inf" and "nan". -/
theorem bytes_format7g (x : CFloat) : ∀ b ∈ (RenderArith.format7g x : Lib.Bytes),
    Lib.isNumberByte b = true ∨ b ∈ Lib.ascii "infa" := by
  change ∀ b ∈ Lib.formatG 7 x.datum, Lib.isNumberByte b = true ∨ b ∈ Lib.ascii "infa"
  cases x.datum with
  | nan negative => cases negative <;> decide
  | infinite negative => cases negative <;> decide
  | finite negative num den =>
    intro b hb
    exact Or.inl (Lib.isNumberByte_of_isJsonNumber (Lib.isJsonNumber_formatG 7 negative num den) b hb)

end AxisMetrics
