import AxisMetrics.Lib.CText

/-!
# Attribute values of HTML

A value in double quotes ends at the next quote. Four characters can be written as references, and
a text in which they all are is read back, whatever follows its quote.
-/

namespace Lib

/-- What an ampersand stands for, by the bytes behind it, and how many of these belong to it. An
ampersand that begins no reference stands for itself. -/
def reference (rest : Bytes) : UInt8 × ℕ :=
  if ascii "amp;" <+: rest then (38, 4)
  else if ascii "lt;" <+: rest then (60, 3)
  else if ascii "gt;" <+: rest then (62, 3)
  else if ascii "quot;" <+: rest then (34, 5)
  else (38, 0)

/-- The value up to its quote, and what follows, after some bytes that were read already. -/
def attributeFrom : ℕ → Bytes → Option (Bytes × Bytes)
  | _, [] => none
  | skip + 1, _ :: rest => attributeFrom skip rest
  | 0, b :: rest =>
    if b = 34 then some ([], rest)
    else if b = 38 then
      (attributeFrom (reference rest).2 rest).map fun read => ((reference rest).1 :: read.1, read.2)
    else (attributeFrom 0 rest).map fun read => (b :: read.1, read.2)

/-- The value of an attribute whose text stands between quotes. -/
def attributeValue (text : Bytes) : Bytes :=
  ((attributeFrom 0 (text ++ [34])).map Prod.fst).getD []

/-- One byte of a text whose special characters are written as references. -/
def escapeByte (b : UInt8) : Bytes :=
  if b = 38 then ascii "&amp;"
  else if b = 60 then ascii "&lt;"
  else if b = 62 then ascii "&gt;"
  else if b = 34 then ascii "&quot;"
  else [b]

theorem attributeFrom_escapeByte (b : UInt8) (rest : Bytes) :
    attributeFrom 0 (escapeByte b ++ rest) =
      (attributeFrom 0 rest).map fun read => (b :: read.1, read.2) := by
  unfold escapeByte
  split_ifs with hamp hlt hgt hquot
  · rw [hamp, show ascii "&amp;" = [38, 97, 109, 112, 59] by decide]
    simp [attributeFrom, reference, ascii]
  · rw [hlt, show ascii "&lt;" = [38, 108, 116, 59] by decide]
    simp [attributeFrom, reference, ascii]
  · rw [hgt, show ascii "&gt;" = [38, 103, 116, 59] by decide]
    simp [attributeFrom, reference, ascii]
  · rw [hquot, show ascii "&quot;" = [38, 113, 117, 111, 116, 59] by decide]
    simp [attributeFrom, reference, ascii]
  · rw [List.singleton_append, attributeFrom, if_neg hquot, if_neg hamp]

/-- An escaped text is read back. -/
theorem attributeFrom_escaped (text rest : Bytes) :
    attributeFrom 0 (text.flatMap escapeByte ++ 34 :: rest) = some (text, rest) := by
  induction text with
  | nil => exact if_pos rfl
  | cons b text ih =>
    rw [List.flatMap_cons, List.append_assoc, attributeFrom_escapeByte, ih]
    rfl

theorem attributeValue_escaped (text : Bytes) : attributeValue (text.flatMap escapeByte) = text := by
  rw [attributeValue, attributeFrom_escaped]
  rfl

/-- A text without special characters needs no references. -/
theorem attributeValue_plain {text : Bytes} (h : ∀ b ∈ text, b ≠ 34 ∧ b ≠ 38) :
    attributeValue text = text := by
  have hread : attributeFrom 0 (text ++ [34]) = some (text, []) := by
    induction text with
    | nil => exact if_pos rfl
    | cons b text ih =>
      obtain ⟨⟨hquote, hamp⟩, htext⟩ := List.forall_mem_cons.mp h
      rw [List.cons_append, attributeFrom, if_neg hquote, if_neg hamp, ih htext]
      rfl
  rw [attributeValue, hread]
  rfl

end Lib
