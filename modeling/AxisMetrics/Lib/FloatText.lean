import AxisMetrics.Lib.Decimal
import AxisMetrics.Lib.Scan
import Mathlib.Data.Nat.Log

/-!
# Floating-point numbers and their texts

The binary interchange formats, the conversions `%g` and `%.2f` of `printf`, and `strtod`. A number
is handled as an exact fraction; rounding is to nearest, with ties to even, both to a format and to
decimal digits.
-/

namespace Lib

/-- What the bits of a floating-point number stand for; a finite one is a signed fraction. -/
inductive FloatDatum where
  | nan (negative : Bool)
  | infinite (negative : Bool)
  | finite (negative : Bool) (num den : ℕ)

/-- The quotient to the nearest whole number, a tie to the even one. -/
def roundDiv (num den : ℕ) : ℕ :=
  if 2 * (num % den) < den then num / den
  else if den < 2 * (num % den) then num / den + 1
  else num / den + num / den % 2

/-- A fraction times a power of the base, rounded. -/
def roundScaled (base num den : ℕ) : ℤ → ℕ
  | .ofNat k => roundDiv (num * base ^ k) den
  | .negSucc k => roundDiv num (den * base ^ (k + 1))

/-- The greatest power of the base that is not above a positive fraction. -/
def floorLog (base num den : ℕ) : ℤ :=
  if den ≤ num then Nat.log base (num / den) else -Nat.clog base ((den + num - 1) / num)

/-- A binary interchange format. -/
structure BinaryFormat where
  exponentBits : ℕ
  fractionBits : ℕ

/-- `float`. -/
def binary32 : BinaryFormat := ⟨8, 23⟩

/-- `double`. -/
def binary64 : BinaryFormat := ⟨11, 52⟩

namespace BinaryFormat

variable (f : BinaryFormat)

def bias : ℕ := 2 ^ (f.exponentBits - 1) - 1

/-- The bits of infinity; those of finite numbers are below, those of NaN above. -/
def infinityBits : ℕ := (2 ^ f.exponentBits - 1) * 2 ^ f.fractionBits

/-- The sign bit. -/
def signBit (negative : Bool) : ℕ := if negative then 2 ^ (f.exponentBits + f.fractionBits) else 0

/-- Read the bits of a number. -/
def decode (bits : ℕ) : FloatDatum :=
  let fraction := bits % 2 ^ f.fractionBits
  let exponent := bits / 2 ^ f.fractionBits % 2 ^ f.exponentBits
  let negative := bits / 2 ^ (f.exponentBits + f.fractionBits) % 2 = 1
  if exponent = 2 ^ f.exponentBits - 1 then
    if fraction = 0 then .infinite negative else .nan negative
  else
    -- a subnormal number has the least exponent and no leading bit
    let significand := if exponent = 0 then fraction else 2 ^ f.fractionBits + fraction
    .finite negative (significand * 2 ^ max 1 exponent) (2 ^ (f.bias + f.fractionBits))

/-- The bits of the number nearest to a fraction. -/
def nearest (negative : Bool) (num den : ℕ) : ℕ :=
  if num = 0 then f.signBit negative
  else
    -- the exponent of the last place, no less than that of subnormal numbers
    let least : ℤ := 1 - f.bias - f.fractionBits
    let place := max (floorLog 2 num den - f.fractionBits) least
    let magnitude := (place - least).toNat * 2 ^ f.fractionBits + roundScaled 2 num den (-place)
    f.signBit negative + min magnitude f.infinityBits

/-- The bits of a datum. -/
def encode : FloatDatum → ℕ
  | .nan negative => f.signBit negative + f.infinityBits + 2 ^ (f.fractionBits - 1)
  | .infinite negative => f.signBit negative + f.infinityBits
  | .finite negative num den => f.nearest negative num den

end BinaryFormat

namespace FloatDatum

def isNan : FloatDatum → Bool
  | .nan _ => true
  | _ => false

def isInfinite : FloatDatum → Bool
  | .infinite _ => true
  | _ => false

/-- The comparison `<`, which is false of NaN. -/
def less : FloatDatum → FloatDatum → Bool
  | .nan _, _ => false
  | _, .nan _ => false
  | .infinite negative, .infinite negative' => negative && !negative'
  | .infinite negative, .finite .. => negative
  | .finite .., .infinite negative => !negative
  | .finite negative num den, .finite negative' num' den' =>
    let value : ℤ := (if negative then -1 else 1) * num * den'
    let value' : ℤ := (if negative' then -1 else 1) * num' * den
    value < value'

end FloatDatum

/-- The bits of NaN have the greatest exponent and some bit of the fraction. -/
theorem BinaryFormat.isNan_decode (f : BinaryFormat) (bits : ℕ) :
    (f.decode bits).isNan = true ↔
      bits / 2 ^ f.fractionBits % 2 ^ f.exponentBits = 2 ^ f.exponentBits - 1 ∧
        bits % 2 ^ f.fractionBits ≠ 0 := by
  rw [BinaryFormat.decode]
  dsimp only
  by_cases hexponent : bits / 2 ^ f.fractionBits % 2 ^ f.exponentBits = 2 ^ f.exponentBits - 1
  · by_cases hfraction : bits % 2 ^ f.fractionBits = 0
    · simp [hexponent, hfraction, FloatDatum.isNan]
    · simp [hexponent, hfraction, FloatDatum.isNan]
  · simp [hexponent, FloatDatum.isNan]

/-- A fraction is rounded to a number, or to infinity, and never to NaN. -/
theorem BinaryFormat.isNan_decode_nearest (f : BinaryFormat) (negative : Bool) (num den : ℕ) :
    (f.decode (f.nearest negative num den)).isNan = false := by
  obtain ⟨m, hm, hbits⟩ : ∃ m ≤ f.infinityBits,
      f.nearest negative num den = f.signBit negative + m := by
    rw [BinaryFormat.nearest]
    split
    · exact ⟨0, Nat.zero_le _, rfl⟩
    · exact ⟨_, Nat.min_le_right _ _, rfl⟩
  have hsign : ∃ k, f.signBit negative = 2 ^ f.fractionBits * (2 ^ f.exponentBits * k) := by
    cases negative with
    | false => exact ⟨0, by simp [BinaryFormat.signBit]⟩
    | true =>
      refine ⟨1, ?_⟩
      rw [BinaryFormat.signBit, if_pos rfl, Nat.mul_one, ← Nat.pow_add, Nat.add_comm]
  obtain ⟨k, hsign⟩ := hsign
  have hpos : 0 < 2 ^ f.fractionBits := Nat.two_pow_pos _
  rw [Bool.eq_false_iff, ne_eq, BinaryFormat.isNan_decode, hbits, hsign,
    Nat.mul_add_div hpos, Nat.mul_add_mod, Nat.mul_add_mod]
  rintro ⟨hexponent, hfraction⟩
  rw [BinaryFormat.infinityBits] at hm
  -- the greatest exponent is that of infinity alone
  have hquotient : m / 2 ^ f.fractionBits ≤ 2 ^ f.exponentBits - 1 :=
    Nat.div_le_of_le_mul (by rwa [Nat.mul_comm])
  have hlt : m / 2 ^ f.fractionBits < 2 ^ f.exponentBits :=
    Nat.lt_of_le_of_lt hquotient (Nat.sub_lt (Nat.two_pow_pos _) Nat.one_pos)
  rw [Nat.mod_eq_of_lt hlt] at hexponent
  have hsplit := Nat.div_add_mod m (2 ^ f.fractionBits)
  rw [hexponent, Nat.mul_comm] at hsplit
  omega

/-- A minus sign, if there is one. -/
def signText (negative : Bool) : Bytes := if negative then [45] else []

/-- Decimals behind their point, without zeros at the end. -/
def fractionText (digits : Bytes) : Bytes :=
  let digits := digits.rdropWhile (· = 48)
  if digits = [] then [] else 46 :: digits

/-- An exponent of at least two digits. -/
def exponentText (exponent : ℤ) : Bytes :=
  [101, if exponent < 0 then 45 else 43] ++ (if exponent.natAbs < 10 then [48] else []) ++
    decimal exponent.natAbs

/-- The significant digits of a fraction as a whole number, and its decimal exponent. -/
def significant (precision num den : ℕ) : ℕ × ℤ :=
  let exponent := floorLog 10 num den
  let digits := roundScaled 10 num den (precision - 1 - exponent)
  -- rounding up can make one digit more
  if digits = 10 ^ precision then (10 ^ (precision - 1), exponent + 1) else (digits, exponent)

/-- The conversion `%g` of a fraction, with its precision. -/
def formatFraction (precision num den : ℕ) : Bytes :=
  if num = 0 then [48]
  else
    let (number, exponent) := significant precision num den
    let digits := decimal number
    if exponent < -4 ∨ precision ≤ exponent then
      digits.take 1 ++ fractionText (digits.drop 1) ++ exponentText exponent
    else if exponent < 0 then
      [48] ++ fractionText (List.replicate (-exponent - 1).toNat 48 ++ digits)
    else digits.take (exponent.toNat + 1) ++ fractionText (digits.drop (exponent.toNat + 1))

/-- The conversion `%g`, with its precision. -/
def formatG (precision : ℕ) : FloatDatum → Bytes
  | .nan negative => signText negative ++ ascii "nan"
  | .infinite negative => signText negative ++ ascii "inf"
  | .finite negative num den => signText negative ++ formatFraction precision num den

/-- The conversion `%.2f`. -/
def format2f : FloatDatum → Bytes
  | .nan negative => signText negative ++ ascii "nan"
  | .infinite negative => signText negative ++ ascii "inf"
  | .finite negative num den =>
    let hundredths := roundDiv (num * 100) den
    signText negative ++ decimal (hundredths / 100) ++ [46] ++ decimal (hundredths / 10 % 10) ++
      decimal (hundredths % 10)

/-- The value of digits in a base of at most sixteen. -/
def digitsNumber (base : ℕ) (digits : Bytes) : ℕ :=
  digits.foldl (fun n b => base * n + xdigitValue b) 0

/-- The exponent behind a letter, a sign and at least one digit. -/
def scanExponent (letter : UInt8) (text : Bytes) : ℤ :=
  if text.head?.map tolower = some letter then
    let negative := text.tail.head? = some 45
    let digits := if negative ∨ text.tail.head? = some 43 then text.tail.tail else text.tail
    let value : ℤ := digitsNumber 10 (digits.takeWhile isDigit)
    if negative then -value else value
  else 0

/-- The longest fixed-point number in front of a text: its digits, how many of them are decimals,
and what follows. -/
def scanFixed (digit : UInt8 → Bool) (text : Bytes) : Bytes × ℕ × Bytes :=
  let whole := text.takeWhile digit
  let rest := text.dropWhile digit
  if rest.head? = some 46 then
    let decimals := rest.tail.takeWhile digit
    (whole ++ decimals, decimals.length, rest.tail.dropWhile digit)
  else (whole, 0, rest)

/-- A whole number times a power of the base. -/
def scaled (negative : Bool) (base number : ℕ) : ℤ → FloatDatum
  | .ofNat k => .finite negative (number * base ^ k) 1
  | .negSucc k => .finite negative number (base ^ (k + 1))

/-- `g_ascii_strtod (s, NULL)` before it is rounded: white space, a sign, and a decimal or
hexadecimal number, `inf` or `nan`; anything else is zero. -/
def strtod (s : Bytes) : FloatDatum :=
  let body := (cString s).dropWhile isSpace
  let negative := body.head? = some 45
  let text := if negative ∨ body.head? = some 43 then body.tail else body
  let (hexDigits, hexDecimals, hexRest) := scanFixed isXDigit (text.drop 2)
  if ascii "inf" <+: text.map tolower then .infinite negative
  else if ascii "nan" <+: text.map tolower then .nan negative
  else if ascii "0x" <+: text.map tolower ∧ hexDigits ≠ [] then
    scaled negative 2 (digitsNumber 16 hexDigits) (scanExponent 112 hexRest - 4 * hexDecimals)
  else
    let (digits, decimals, rest) := scanFixed isDigit text
    if digits = [] then .finite false 0 1
    else scaled negative 10 (digitsNumber 10 digits) (scanExponent 101 rest - decimals)

/-- What is behind an exponent letter, a sign and digits. -/
def dropExponent (letter : UInt8) (text : Bytes) : Bytes :=
  if text.head?.map tolower = some letter then
    let behind := text.tail
    (if behind.head? = some 45 ∨ behind.head? = some 43 then behind.tail else behind).dropWhile isDigit
  else text

/-- The conversion `%lf` of a C string before the number is rounded, and what follows. It takes the
longest text that begins a number, so that `infi` and `0x` are none. -/
def scanFloat (s : Bytes) : Option (FloatDatum × Bytes) :=
  let body := s.dropWhile isSpace
  let negative := body.head? = some 45
  let text := if negative ∨ body.head? = some 43 then body.tail else body
  let (hexDigits, hexDecimals, hexRest) := scanFixed isXDigit (text.drop 2)
  if ascii "infinity" <+: text.map tolower then some (.infinite negative, text.drop 8)
  else if ascii "infi" <+: text.map tolower then none
  else if ascii "inf" <+: text.map tolower then some (.infinite negative, text.drop 3)
  else if ascii "nan" <+: text.map tolower then some (.nan negative, text.drop 3)
  else if ascii "0x" <+: text.map tolower then
    if hexRest = text.drop 2 then none
    else if hexDigits = [] then some (.finite negative 0 1, hexRest)
    else some (scaled negative 2 (digitsNumber 16 hexDigits)
      (scanExponent 112 hexRest - 4 * hexDecimals), dropExponent 112 hexRest)
  else
    let (digits, decimals, rest) := scanFixed isDigit text
    if digits = [] then none
    else some (scaled negative 10 (digitsNumber 10 digits) (scanExponent 101 rest - decimals),
      dropExponent 101 rest)

end Lib
