import AxisMetrics.Collect.Sample
import AxisMetrics.Lib.NumberEnd

/-!
# Numbers in an answer

The number at the beginning of a text, when more text stands behind it.
-/

namespace AxisMetrics

open Lib (Bytes isSpace isDigit)

variable {text more : Bytes}

/-- The `double` that `g_ascii_strtod` reads. -/
def readNumber (text : Bytes) : CNumber := DoubleArith.strtod text

/-- The `float` that is stored of the number at the beginning of a text. -/
def storedNumber (text : Bytes) : CNumber := Narrows.toFloat (readNumber text)

theorem readNumber_congr {text' : Bytes} (h : Lib.strtod text = Lib.strtod text') :
    readNumber text = readNumber text' := congrArg (fun datum => (CNumber.ofDatum datum).round _) h

theorem storedNumber_congr {text' : Bytes} (h : Lib.strtod text = Lib.strtod text') :
    storedNumber text = storedNumber text' := congrArg Narrows.toFloat (readNumber_congr h)

theorem storedNumber_nil : storedNumber [] = .number 0 := by decide +kernel

/-- Zero and one are stored as they are. -/
theorem natCast_zero : ((0 : ℕ) : CNumber) = .number 0 := by decide +kernel

theorem natCast_one : ((1 : ℕ) : CNumber) = .number 1 := by decide +kernel

theorem toFloat_zero : (Narrows.toFloat ((0 : ℕ) : CNumber) : CNumber) = .number 0 := by
  decide +kernel

theorem toFloat_one : (Narrows.toFloat ((1 : ℕ) : CNumber) : CNumber) = .number 1 := by
  decide +kernel

theorem toFloat_eq_nan {x : CNumber} : (Narrows.toFloat x : CNumber) = .nan ↔ x = .nan :=
  CNumber.round_eq_nan

theorem readNumber_eq_nan (text : Bytes) :
    readNumber text = .nan ↔ (Lib.strtod text).isNan = true :=
  CNumber.round_eq_nan.trans CNumber.ofDatum_eq_nan

/-- A number ends in front of a tag. -/
theorem strtod_tag (hmore : ∀ b ∈ more.head?, b = 60) :
    Lib.strtod (text ++ more) = Lib.strtod text := by
  by_cases hblank : text.dropWhile isSpace = []
  · have hnone := Lib.strtod_of_blank hblank []
    rw [List.append_nil] at hnone
    rw [Lib.strtod_of_blank hblank, hnone]
    cases more with
    | nil => rfl
    | cons b rest =>
      rw [hmore b rfl]
      exact Lib.strtod_of_endsNumber (by decide) (by decide) rest
  · refine Lib.strtod_append hblank fun b hb => ?_
    rw [hmore b hb]
    decide

theorem digitsValue_tag (hmore : ∀ b ∈ more.head?, b = 60) (digits : Bytes) :
    Lib.digitsValue (digits ++ more) = Lib.digitsValue digits := by
  rw [Lib.digitsValue, Lib.digitsValue, (Lib.takeWhile_stop (fun b hb => ?_) digits).1]
  rw [hmore b hb]
  rfl

/-- So does an unsigned number. -/
theorem strtoull_tag (hmore : ∀ b ∈ more.head?, b = 60) :
    Lib.strtoull (text ++ more) = Lib.strtoull text := by
  -- what is left of the tag in the C string
  obtain ⟨left, hleft, hcut⟩ : ∃ left : Bytes, (∀ b ∈ left.head?, b = 60) ∧
      Lib.cString (text ++ more) = Lib.cString text ++ left := by
    rw [Lib.cString, List.takeWhile_append]
    split
    · refine ⟨more.takeWhile (· ≠ 0), fun b hb => ?_, ?_⟩
      · cases more with
        | nil => cases hb
        | cons c more =>
          obtain rfl := hmore c rfl
          exact (Option.some.inj hb).symm
      · rw [Lib.cString]
        congr 1
        exact (List.takeWhile_prefix _).eq_of_length (by assumption) |>.symm
    · exact ⟨[], fun b hb => by simp at hb, (List.append_nil _).symm⟩
  have hspace := (Lib.takeWhile_stop (p := isSpace)
    (fun b (hb : b ∈ left.head?) => by rw [hleft b hb]; rfl) (Lib.cString text)).2
  have hhead : ∀ (body : Bytes) (sign : UInt8), sign ≠ 60 →
      ((body ++ left).head? = some sign ↔ body.head? = some sign) := by
    intro body sign hsign
    cases body with
    | nil => exact ⟨fun h => absurd (hleft sign h) hsign, fun h => by simp at h⟩
    | cons b body => rfl
  have hdigits : ∀ body : Bytes,
      Lib.digitsValue (if (body ++ left).head? = some 45 ∨ (body ++ left).head? = some 43
          then (body ++ left).tail else body ++ left) =
        Lib.digitsValue (if body.head? = some 45 ∨ body.head? = some 43 then body.tail
          else body) := by
    intro body
    simp only [hhead body 45 (by decide), hhead body 43 (by decide)]
    split
    · next hsign =>
      cases body with
      | nil => simp at hsign
      | cons b body => exact digitsValue_tag hleft body
    · exact digitsValue_tag hleft body
  simp only [Lib.strtoull, hcut, hspace, hdigits]
  simp only [hhead _ 45 (by decide)]

end AxisMetrics
