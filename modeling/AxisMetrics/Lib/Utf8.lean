import AxisMetrics.Lib.ByteFile
import Mathlib.Tactic.Common

/-!
# UTF-8

The well-formed byte sequences, read one byte at a time. An ASCII byte stands only between
characters, so a text with one in it is well formed if both sides are.
-/

namespace Lib

/-- Where a reader stands: how many bytes the character still owes, and the bounds of the next. -/
structure Utf8State where
  owed : ℕ
  low : UInt8
  high : UInt8
  deriving DecidableEq

/-- Between characters. -/
def Utf8State.start : Utf8State := ⟨0, 0x80, 0xBF⟩

/-- The first byte of a character; no character is written longer than it has to be, and the
surrogates and what lies above U+10FFFF are none. -/
def utf8First (b : UInt8) : Option Utf8State :=
  if b < 0x80 then some .start
  else if b < 0xC2 then none
  else if b < 0xE0 then some ⟨1, 0x80, 0xBF⟩
  else if b = 0xE0 then some ⟨2, 0xA0, 0xBF⟩
  else if b = 0xED then some ⟨2, 0x80, 0x9F⟩
  else if b < 0xF0 then some ⟨2, 0x80, 0xBF⟩
  else if b = 0xF0 then some ⟨3, 0x90, 0xBF⟩
  else if b < 0xF4 then some ⟨3, 0x80, 0xBF⟩
  else if b = 0xF4 then some ⟨3, 0x80, 0x8F⟩
  else none

/-- One more byte. -/
def Utf8State.step (s : Utf8State) (b : UInt8) : Option Utf8State :=
  if s.owed = 0 then utf8First b
  else if s.low ≤ b ∧ b ≤ s.high then some ⟨s.owed - 1, 0x80, 0xBF⟩
  else none

/-- The bytes end a character and are well formed from here. -/
def utf8From (s : Utf8State) : Bytes → Bool
  | [] => s.owed == 0
  | b :: rest =>
    match s.step b with
    | none => false
    | some s => utf8From s rest

/-- A text is well-formed UTF-8. -/
def isUtf8 (text : Bytes) : Bool := utf8From .start text

/-- An ASCII byte stands between characters. -/
theorem step_of_ascii {s : Utf8State} (hs : 0x80 ≤ s.low) {b : UInt8} (hb : b < 0x80) :
    s.step b = if s.owed = 0 then some .start else none := by
  rw [Utf8State.step, utf8First, if_pos hb]
  by_cases h : s.owed = 0
  · rw [if_pos h, if_pos h]
  · rw [if_neg h, if_neg h]
    exact if_neg fun hbounds => UInt8.not_le.mpr hb (UInt8.le_trans hs hbounds.1)

/-- A continuation byte is never ASCII. -/
theorem low_of_step {s s' : Utf8State} {b : UInt8} (h : s.step b = some s') :
    0x80 ≤ s'.low := by
  rw [Utf8State.step] at h
  split at h
  · rw [utf8First] at h
    split_ifs at h <;> cases h <;> decide
  · split at h
    · cases h
      exact show (0x80 : UInt8) ≤ 0x80 by decide
    · cases h

theorem utf8From_append_ascii {s : Utf8State} (hs : 0x80 ≤ s.low) (text : Bytes) {b : UInt8}
    (hb : b < 0x80) (rest : Bytes) :
    utf8From s (text ++ b :: rest) = (utf8From s text && isUtf8 rest) := by
  induction text generalizing s with
  | nil =>
    have hnil : utf8From s [] = (s.owed == 0) := rfl
    rw [List.nil_append, hnil, utf8From, step_of_ascii hs hb]
    by_cases h : s.owed = 0 <;> simp [h, isUtf8]
  | cons c text ih =>
    rw [List.cons_append, utf8From, utf8From]
    cases hstep : s.step c with
    | none => rfl
    | some s' => exact ih (low_of_step hstep)

/-- A text with an ASCII byte in it is two texts. -/
theorem isUtf8_append_ascii (text : Bytes) {b : UInt8} (hb : b < 0x80) (rest : Bytes) :
    isUtf8 (text ++ b :: rest) = (isUtf8 text && isUtf8 rest) :=
  utf8From_append_ascii (by decide) text hb rest

theorem isUtf8_cons_ascii {b : UInt8} (hb : b < 0x80) (rest : Bytes) :
    isUtf8 (b :: rest) = isUtf8 rest := by
  have h := isUtf8_append_ascii [] hb rest
  rwa [List.nil_append, show isUtf8 [] = true from rfl, Bool.true_and] at h

/-- An ASCII text in front changes nothing. -/
theorem isUtf8_ascii_append {text : Bytes} (h : ∀ b ∈ text, b < 0x80) (rest : Bytes) :
    isUtf8 (text ++ rest) = isUtf8 rest := by
  induction text with
  | nil => rfl
  | cons b text ih =>
    obtain ⟨hb, htext⟩ := List.forall_mem_cons.mp h
    rw [List.cons_append, isUtf8_cons_ascii hb, ih htext]

theorem isUtf8_of_ascii {text : Bytes} (h : ∀ b ∈ text, b < 0x80) : isUtf8 text = true := by
  have happend := isUtf8_ascii_append h []
  rwa [List.append_nil] at happend

theorem utf8From_append {s : Utf8State} {text rest : Bytes} (h : utf8From s text = true) :
    utf8From s (text ++ rest) = isUtf8 rest := by
  induction text generalizing s with
  | nil =>
    have howed : s.owed = 0 := beq_iff_eq.mp h
    cases rest with
    | nil => exact h
    | cons b rest =>
      have hstart : Utf8State.start.owed = 0 := rfl
      rw [List.nil_append, isUtf8, utf8From, utf8From, Utf8State.step, Utf8State.step, if_pos howed,
        if_pos hstart]
  | cons c text ih =>
    rw [utf8From] at h
    rw [List.cons_append, utf8From]
    cases hstep : s.step c with
    | none => rw [hstep] at h; cases h
    | some s' =>
      rw [hstep] at h
      exact ih h

/-- Well-formed texts, one after the other. -/
theorem isUtf8_append {text rest : Bytes} (h : isUtf8 text = true) (h' : isUtf8 rest = true) :
    isUtf8 (text ++ rest) = true := (utf8From_append h).trans h'

end Lib
