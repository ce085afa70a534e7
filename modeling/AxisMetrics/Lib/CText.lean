import AxisMetrics.Lib.ByteFile

/-!
# C strings and the GLib text functions

Byte strings without a zero stand for C strings. The functions here follow the
documented behaviour of the C library and GLib functions of the same name.
-/

namespace Lib

/-- The bytes of a string literal of ASCII characters. -/
def ascii (s : String) : Bytes := s.toList.map fun c => UInt8.ofNat c.toNat

/-- `g_strlcpy` into a buffer of `size` bytes: what the buffer then holds. -/
def strlcpy (size : ℕ) (src : Bytes) : Bytes := (cString src).take (size - 1)

theorem zero_notMem_cString (s : Bytes) : 0 ∉ cString s := by
  intro h
  simpa using List.mem_takeWhile_imp h

theorem zero_notMem_strlcpy (size : ℕ) (src : Bytes) : 0 ∉ strlcpy size src :=
  fun h => zero_notMem_cString src (List.mem_of_mem_take h)

theorem length_strlcpy_lt {size : ℕ} (h : 0 < size) (src : Bytes) :
    (strlcpy size src).length < size := by
  simp only [strlcpy, List.length_take]
  omega

/-- A string that fits is copied whole. -/
theorem strlcpy_eq_self {size : ℕ} {s : Bytes} (h0 : 0 ∉ s) (h : s.length < size) :
    strlcpy size s = s := by
  rw [strlcpy, cString_eq_self h0, List.take_of_length_le (by omega)]

/-- `g_ascii_isdigit`. -/
def isDigit (b : UInt8) : Bool := 48 ≤ b && b ≤ 57

/-- `g_ascii_isalnum`. -/
def isAlnum (b : UInt8) : Bool := isDigit b || (65 ≤ b && b ≤ 90) || (97 ≤ b && b ≤ 122)

/-- `g_ascii_isxdigit`. -/
def isXDigit (b : UInt8) : Bool := isDigit b || (65 ≤ b && b ≤ 70) || (97 ≤ b && b ≤ 102)

/-- `g_ascii_xdigit_value` of a hexadecimal digit. -/
def xdigitValue (b : UInt8) : ℕ :=
  if isDigit b then b.toNat - 48 else if b ≤ 70 then b.toNat - 55 else b.toNat - 87

/-- White space of the C locale, which `g_ascii_strtoull` and `sscanf` skip. -/
def isSpace (b : UInt8) : Bool := b == 32 || (9 ≤ b && b ≤ 13)

/-- The value of the leading decimal digits. -/
def digitsValue (s : Bytes) : ℕ :=
  (s.takeWhile isDigit).foldl (fun n b => 10 * n + (b.toNat - 48)) 0

/-- `g_ascii_strtoull (s, NULL, 10)`: leading space, a sign, then digits; a value that
does not fit gives the largest one, and a minus sign negates modulo `2^64`. -/
def strtoull (s : Bytes) : ℕ :=
  let body := (cString s).dropWhile isSpace
  let negative := body.head? = some 45
  let digits := if negative ∨ body.head? = some 43 then body.tail else body
  let value := digitsValue digits
  if 2 ^ 64 ≤ value then 2 ^ 64 - 1
  else if negative then (2 ^ 64 - value) % 2 ^ 64 else value

/-- A value stored in a `guint`. -/
def guint (n : ℕ) : ℕ := n % 2 ^ 32

/-- `a - b` in `guint` arithmetic. -/
def guintSub (a b : ℕ) : ℕ := guint (a + (2 ^ 32 - guint b))

theorem guint_of_lt {n : ℕ} (h : n < 2 ^ 32) : guint n = n := Nat.mod_eq_of_lt h

theorem guintSub_of_le {a b : ℕ} (hab : b ≤ a) (ha : a < 2 ^ 32 + b) (hb : b < 2 ^ 32) :
    guintSub a b = a - b := by
  rw [guintSub, guint_of_lt hb, guint]
  omega

/-- `g_strsplit (s, sep, -1)` for a one-byte separator; the empty string has no parts. -/
def strsplit (sep : UInt8) (s : Bytes) : List Bytes := if s = [] then [] else s.splitOn sep

/-- `g_snprintf` into a buffer of `size` bytes, of a text without zero bytes. -/
def snprintf (size : ℕ) (text : Bytes) : Bytes := text.take (size - 1)

theorem snprintf_eq_self {size : ℕ} {text : Bytes} (h : text.length < size) :
    snprintf size text = text :=
  List.take_of_length_le (by omega)

end Lib
