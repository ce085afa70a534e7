import AxisMetrics.Lib.FloatText
import Mathlib.Algebra.Order.Field.Rat

/-!
# What sampling computes with

`DoubleArith` and `Narrows` list what the code does with a `double`. Results about the values
themselves are about exact rationals, or about the numbers that a `double` and a `float` stand for.
-/

namespace AxisMetrics

open Lib (Bytes FloatDatum BinaryFormat binary32 binary64)

/-- What sampling does with a `double`. -/
class DoubleArith (T : Type) extends NatCast T, Add T, Sub T, Mul T, Div T where
  nan : T
  isnan : T → Bool
  /-- `a < b`. -/
  less : T → T → Bool
  /-- `g_ascii_strtod (text, NULL)`. -/
  strtod : Bytes → T
  /-- The conversion `%lf`, and what follows. -/
  scanDouble : Bytes → Option (T × Bytes)

/-- The conversion of a `double` to a `float`. -/
class Narrows (V : Type) (T : outParam Type) where
  toFloat : T → V

/-- A signed fraction. -/
def signedValue (negative : Bool) (num den : ℕ) : ℚ :=
  if negative then -((num : ℚ) / den) else (num : ℚ) / den

-- ════════════════════════════════════════════════════════════════════════
-- Exact arithmetic
-- ════════════════════════════════════════════════════════════════════════

/-- The number that a text stands for, before it is rounded. -/
def exactValue : FloatDatum → Option ℚ
  | .nan _ => none
  | .infinite _ => none
  | .finite negative num den => some (signedValue negative num den)

/-- Exact rationals, with `none` for NaN and for what is infinite. -/
instance : DoubleArith (Option ℚ) where
  natCast n := some n
  add a b := a.bind fun a => b.map fun b => a + b
  sub a b := a.bind fun a => b.map fun b => a - b
  mul a b := a.bind fun a => b.map fun b => a * b
  div a b := a.bind fun a => b.bind fun b => if b = 0 then none else some (a / b)
  nan := none
  isnan := Option.isNone
  less a b := a.any fun a => b.any fun b => a < b
  strtod text := exactValue (Lib.strtod text)
  scanDouble text := (Lib.scanFloat text).map fun scanned => (exactValue scanned.1, scanned.2)

instance : Narrows (Option ℚ) (Option ℚ) := ⟨id⟩

-- ════════════════════════════════════════════════════════════════════════
-- The machine's arithmetic
-- ════════════════════════════════════════════════════════════════════════

/-- What a `double` or a `float` stands for. There is one NaN, and zero has no sign. -/
inductive CNumber where
  | nan
  | infinite (negative : Bool)
  | number (value : ℚ)
  deriving DecidableEq

namespace CNumber

def ofDatum : FloatDatum → CNumber
  | .nan _ => nan
  | .infinite negative => infinite negative
  | .finite negative num den => number (signedValue negative num den)

/-- The nearest number of a format. -/
def round (f : BinaryFormat) : CNumber → CNumber
  | nan => nan
  | infinite negative => infinite negative
  | number value => ofDatum (f.decode (f.nearest (value < 0) value.num.natAbs value.den))

def neg : CNumber → CNumber
  | nan => nan
  | infinite negative => infinite !negative
  | number value => number (-value)

/-- The sum before it is rounded; infinities of both signs have none. -/
def sum : CNumber → CNumber → CNumber
  | nan, _ => nan
  | _, nan => nan
  | infinite negative, infinite negative' => if negative = negative' then infinite negative else nan
  | infinite negative, number _ => infinite negative
  | number _, infinite negative => infinite negative
  | number a, number b => number (a + b)

/-- The product before it is rounded; that of zero and infinity is none. -/
def product : CNumber → CNumber → CNumber
  | nan, _ => nan
  | _, nan => nan
  | infinite negative, infinite negative' => infinite (negative ^^ negative')
  | infinite negative, number a => if a = 0 then nan else infinite (negative ^^ decide (a < 0))
  | number a, infinite negative => if a = 0 then nan else infinite (negative ^^ decide (a < 0))
  | number a, number b => number (a * b)

/-- The quotient before it is rounded, where a divisor of zero is positive. -/
def quotient : CNumber → CNumber → CNumber
  | nan, _ => nan
  | _, nan => nan
  | infinite _, infinite _ => nan
  | infinite negative, number a => infinite (negative ^^ decide (a < 0))
  | number _, infinite _ => number 0
  | number a, number b =>
    if b ≠ 0 then number (a / b) else if a = 0 then nan else infinite (decide (a < 0))

/-- `a < b`, which is false of NaN. -/
def less : CNumber → CNumber → Bool
  | nan, _ => false
  | _, nan => false
  | infinite negative, infinite negative' => negative && !negative'
  | infinite negative, number _ => negative
  | number _, infinite negative => !negative
  | number a, number b => a < b

/-- The machine's arithmetic: each result is rounded to a `double`. -/
instance : DoubleArith CNumber where
  natCast n := round binary64 (number n)
  add a b := round binary64 (sum a b)
  sub a b := round binary64 (sum a (neg b))
  mul a b := round binary64 (product a b)
  div a b := round binary64 (quotient a b)
  nan := nan
  isnan a := a = nan
  less := less
  strtod text := round binary64 (ofDatum (Lib.strtod text))
  scanDouble text := (Lib.scanFloat text).map fun scanned =>
    (round binary64 (ofDatum scanned.1), scanned.2)

/-- A `double` is stored as a `float`. -/
instance : Narrows CNumber CNumber := ⟨round binary32⟩

theorem ofDatum_eq_nan {datum : FloatDatum} : ofDatum datum = nan ↔ datum.isNan = true := by
  cases datum with
  | nan negative => exact iff_of_true rfl rfl
  | infinite negative => exact iff_of_false CNumber.noConfusion Bool.false_ne_true
  | finite negative num den => exact iff_of_false CNumber.noConfusion Bool.false_ne_true

/-- Rounding makes no NaN. -/
theorem round_eq_nan {f : BinaryFormat} {x : CNumber} : round f x = nan ↔ x = nan := by
  cases x with
  | nan => exact Iff.rfl
  | infinite negative => exact Iff.rfl
  | number value =>
    refine iff_of_false (fun h => ?_) CNumber.noConfusion
    have hnan := ofDatum_eq_nan.mp h
    rw [BinaryFormat.isNan_decode_nearest] at hnan
    cases hnan

end CNumber

end AxisMetrics
