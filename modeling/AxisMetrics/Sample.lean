import AxisMetrics.Lib.ByteFile

/-!
# Samples

A sample value is a C `float`, kept as its bits. The store uses it only through
`SampleArith`, so that results about the store hold for any arithmetic; the instance
at the end is the machine's own.
-/

namespace AxisMetrics

/-- What the store does with samples: `NAN`, `isnan`, the zero of fresh memory, and the
running sum whose quotient by a count is a mean. -/
class SampleArith (V : Type) (D : outParam Type) where
  zero : V
  nan : V
  isnan : V → Bool
  isnan_nan : isnan nan = true
  accZero : D
  accAdd : D → V → D
  mean : D → ℕ → V

/-- A C `float`: 32 bits. -/
structure CFloat where
  bits : UInt32
  deriving DecidableEq

namespace CFloat

/-- `NAN`. -/
def nan : CFloat := ⟨0x7fc00000⟩

/-- `isnan`: every exponent bit set and a nonzero fraction. -/
def isnan (x : CFloat) : Bool := 0x7f800000 < x.bits &&& 0x7fffffff

/-- The value in Lean's own single precision. -/
def toFloat32 (x : CFloat) : Float32 := Float32.ofBits x.bits

/-- The four bytes of a float in memory. -/
def toBytes (x : CFloat) : Lib.Bytes := Lib.leBytes 4 x.bits.toNat

/-- Four bytes of memory read as a float. -/
def ofBytes (bytes : Lib.Bytes) : CFloat := ⟨UInt32.ofNat (Lib.ofLeBytes bytes)⟩

@[simp] theorem length_toBytes (x : CFloat) : x.toBytes.length = 4 := Lib.length_leBytes _ _

@[simp] theorem ofBytes_toBytes (x : CFloat) : ofBytes x.toBytes = x := by
  have h : x.bits.toNat < 256 ^ 4 := x.bits.toNat_lt
  rw [ofBytes, toBytes, Lib.ofLeBytes_leBytes h, UInt32.ofNat_toNat]

theorem toBytes_ofBytes {bytes : Lib.Bytes} (h : bytes.length = 4) :
    (ofBytes bytes).toBytes = bytes := by
  have hlt := Lib.ofLeBytes_lt bytes
  have hself := Lib.leBytes_ofLeBytes bytes
  rw [h] at hlt hself
  rw [toBytes, ofBytes, UInt32.toNat_ofNat_of_lt' hlt, hself]

end CFloat

/-- The machine's arithmetic: sums in double precision, means rounded to single. -/
instance : SampleArith CFloat Float where
  zero := ⟨0⟩
  nan := CFloat.nan
  isnan := CFloat.isnan
  isnan_nan := by decide
  accZero := 0
  accAdd sum x := sum + x.toFloat32.toFloat
  mean sum n := ⟨(sum / Float.ofNat n).toFloat32.toBits⟩

end AxisMetrics
