import AxisMetrics.Lib.Json

/-!
# Form encoding

`application/x-www-form-urlencoded` as a browser writes it: a space becomes a plus sign, other
bytes than letters, digits and four punctuation marks become a percent sign and two digits.
-/

namespace Lib

/-- An upper-case hexadecimal digit. -/
def hexDigitUpper (n : ℕ) : UInt8 := UInt8.ofNat (if n < 10 then 48 + n else 55 + n)

/-- One byte of a name or value. -/
def urlencodeByte (b : UInt8) : Bytes :=
  if isAlnum b ∨ b = 42 ∨ b = 45 ∨ b = 46 ∨ b = 95 then [b]
  else if b = 32 then [43]
  else [37, hexDigitUpper (b.toNat / 16), hexDigitUpper (b.toNat % 16)]

/-- One byte as `encodeURIComponent` writes it. -/
def componentByte (b : UInt8) : Bytes :=
  if isAlnum b ∨ b ∈ ascii "-_.!~*\x27()" then [b]
  else [37, hexDigitUpper (b.toNat / 16), hexDigitUpper (b.toNat % 16)]

/-- `encodeURIComponent`, on the UTF-8 of a string. -/
def encodeURIComponent (text : Bytes) : Bytes := text.flatMap componentByte

/-- A name or value. -/
def urlencode (text : Bytes) : Bytes := text.flatMap urlencodeByte

/-- A name with its value. -/
def pairText (pair : Bytes × Bytes) : Bytes := urlencode pair.1 ++ 61 :: urlencode pair.2

/-- A body of names and values. -/
def formText (pairs : List (Bytes × Bytes)) : Bytes := [38].intercalate (pairs.map pairText)

theorem hexDigitUpper_spec {n : ℕ} (h : n < 16) :
    isXDigit (hexDigitUpper n) = true ∧ xdigitValue (hexDigitUpper n) = n ∧
      isAlnum (hexDigitUpper n) = true := by
  have hall : ∀ n < 16, isXDigit (hexDigitUpper n) = true ∧ xdigitValue (hexDigitUpper n) = n ∧
      isAlnum (hexDigitUpper n) = true := by decide
  exact hall n h

/-- The bytes that the encoding writes. -/
theorem mem_urlencode_cases {b : UInt8} {text : Bytes} (h : b ∈ urlencode text) :
    isAlnum b = true ∨ b ∈ ascii "*-._+%" := by
  obtain ⟨c, -, hc⟩ := List.mem_flatMap.mp h
  unfold urlencodeByte at hc
  split_ifs at hc with hplain hspace
  · obtain rfl := List.mem_singleton.mp hc
    rcases hplain with hd | rfl | rfl | rfl | rfl
    · exact Or.inl hd
    all_goals exact Or.inr (by decide)
  · obtain rfl := List.mem_singleton.mp hc
    exact Or.inr (by decide)
  · have hlt := c.toNat_lt
    simp only [List.mem_cons, List.not_mem_nil, or_false] at hc
    rcases hc with rfl | rfl | rfl
    · exact Or.inr (by decide)
    · exact Or.inl (hexDigitUpper_spec (by omega)).2.2
    · exact Or.inl (hexDigitUpper_spec (by omega)).2.2

/-- What the encoding writes has no separators and no question mark. -/
theorem ne_of_mem_urlencode {b : UInt8} {text : Bytes} (h : b ∈ urlencode text) :
    b ≠ 38 ∧ b ≠ 61 ∧ b ≠ 63 := by
  rcases mem_urlencode_cases h with halnum | hmark
  · refine ⟨?_, ?_, ?_⟩ <;> rintro rfl <;> cases halnum
  · refine ⟨?_, ?_, ?_⟩ <;> rintro rfl <;> exact absurd hmark (by decide)

theorem mem_urlencode {b : UInt8} {text : Bytes} (h : b ∈ urlencode text) : b ≠ 38 ∧ b ≠ 61 :=
  ⟨(ne_of_mem_urlencode h).1, (ne_of_mem_urlencode h).2.1⟩

/-- The parts of a body are its pairs. -/
theorem splitOn_formText {pairs : List (Bytes × Bytes)} (h : pairs ≠ []) :
    (formText pairs).splitOn 38 = pairs.map pairText := by
  refine List.splitOn_intercalate 38 (fun part hpart hmem => ?_) (by simpa using h)
  obtain ⟨pair, -, rfl⟩ := List.mem_map.mp hpart
  rcases List.mem_append.mp hmem with hname | hvalue
  · exact (mem_urlencode hname).1 rfl
  · rcases List.mem_cons.mp hvalue with heq | hvalue
    · exact absurd heq (by decide)
    · exact (mem_urlencode hvalue).1 rfl

/-- Splitting a body gives its pairs back, also where there is none. -/
theorem strsplit_formText (pairs : List (Bytes × Bytes)) :
    strsplit 38 (formText pairs) = pairs.map pairText := by
  by_cases hnil : pairs = []
  · subst hnil
    rfl
  · have hparts := splitOn_formText hnil
    have htext : formText pairs ≠ [] := by
      intro h
      obtain ⟨pair, rest, rfl⟩ := List.exists_cons_of_ne_nil hnil
      rw [h, List.map_cons, List.splitOn_nil, List.cons.injEq] at hparts
      have hmem : (61 : UInt8) ∈ pairText pair := List.mem_append_right _ List.mem_cons_self
      rw [← hparts.1] at hmem
      cases hmem
    rw [strsplit, if_neg htext, hparts]

/-- A body has no question mark. -/
theorem questionMark_notMem_formText (pairs : List (Bytes × Bytes)) : 63 ∉ formText pairs := by
  intro h
  rcases mem_intercalate h with hseparator | ⟨part, hpart, hmem⟩
  · exact absurd hseparator (by decide)
  · obtain ⟨pair, -, rfl⟩ := List.mem_map.mp hpart
    rcases List.mem_append.mp hmem with hname | hvalue
    · exact (ne_of_mem_urlencode hname).2.2 rfl
    · rcases List.mem_cons.mp hvalue with heq | hvalue
      · exact absurd heq (by decide)
      · exact (ne_of_mem_urlencode hvalue).2.2 rfl

end Lib
