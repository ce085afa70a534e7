import AxisMetrics.Procs
import AxisMetrics.Settings.RoundTrip

/-!
# The three escapers of strings

`api.c`, `main.c` and `procs.c` each write strings into JSON with a function of their own. They
differ in how they write line breaks and tabs, and agree on what is read back.
-/

namespace AxisMetrics

open Lib (Bytes ascii JsonPiece jsonString quotesEscaped)

/-- `append_escaped` of `procs.c`. -/
def procsAppendEscaped (value : Bytes) : Bytes := value.flatMap procsEscapeByte

theorem jsonPiece_procsEscapeByte (b : UInt8) : JsonPiece b (procsEscapeByte b) := by
  unfold procsEscapeByte
  by_cases hquote : b = 34
  · subst hquote
    exact .escape (e := 34) (by decide) (by decide) (by decide)
  by_cases hback : b = 92
  · subst hback
    exact .escape (e := 92) (by decide) (by decide) (by decide)
  -- neither mark, so there is no backslash in front
  rw [if_neg (not_or.mpr ⟨hquote, hback⟩), List.nil_append]
  split_ifs with hcontrol
  · exact jsonPiece_control hcontrol
  · exact .byte hquote hback hcontrol

/-- Between quotes, the text is a string of JSON that is read as `value`. -/
structure QuotesBack (value text : Bytes) : Prop where
  not_control : ∀ c ∈ text, ¬ c < 32
  quotesEscaped : quotesEscaped text = true
  jsonString : ∀ rest, jsonString (text ++ 34 :: rest) = some (value, rest)

theorem quotesBack_flatMap {escape : UInt8 → Bytes} (h : ∀ b, JsonPiece b (escape b))
    (value : Bytes) : QuotesBack value (value.flatMap escape) where
  not_control := (Lib.clean_flatMap h value).1
  quotesEscaped := (Lib.clean_flatMap h value).2
  jsonString := Lib.jsonString_flatMap fun b _ => (h b).jsonString

/-- Whatever the string is, all three functions write it as a string of JSON that is read as it. -/
theorem quotesBack_escapers (value : Bytes) : QuotesBack value (appendEscaped value) ∧
    QuotesBack value (jsonAppendEscaped value) ∧ QuotesBack value (procsAppendEscaped value) :=
  ⟨quotesBack_flatMap jsonPiece_jsonEscapeByte value,
    quotesBack_flatMap jsonPiece_jsonEscapeByte value,
    quotesBack_flatMap jsonPiece_procsEscapeByte value⟩

end AxisMetrics
