import AxisMetrics.Lib.KeyLines
import AxisMetrics.Lib.Tokens

/-!
# Lower-cased text

`g_ascii_strdown` changes letters only: white space, digits and separators stay where they are, and
a number that is read from lower-cased text is the one in the text.
-/

namespace Lib

/-- A letter is lowered to a letter, and any other byte stays. -/
theorem tolower_cases (b : UInt8) :
    tolower b = b ∨ (65 ≤ b.toNat ∧ b.toNat ≤ 90 ∧ (tolower b).toNat = b.toNat + 32) := by
  unfold tolower
  split
  · next h =>
    simp only [UInt8.le_iff_toNat_le] at h
    simp only [UInt8.reduceToNat] at h
    refine .inr ⟨h.1, h.2, ?_⟩
    rw [UInt8.toNat_add]
    simp only [UInt8.reduceToNat]
    omega
  · exact .inl rfl

theorem isSpace_tolower (b : UInt8) : isSpace (tolower b) = isSpace b := by
  rcases tolower_cases b with hsame | ⟨hlow, hhigh, hlowered⟩
  · rw [hsame]
  · have hplain : ∀ c : UInt8, 65 ≤ c.toNat → isSpace c = false := by
      intro c hc
      simp only [isSpace, Bool.or_eq_false_iff, beq_eq_false_iff_ne, Bool.and_eq_false_iff,
        decide_eq_false_iff_not, UInt8.le_iff_toNat_le, Ne, ← UInt8.toNat_inj]
      simp only [UInt8.reduceToNat]
      omega
    rw [hplain b hlow, hplain _ (by omega)]

theorem tolower_eq_iff {b c : UInt8} (hc : c.toNat < 65) : tolower b = c ↔ b = c := by
  rcases tolower_cases b with hsame | ⟨hlow, hhigh, hlowered⟩
  · rw [hsame]
  · rw [← UInt8.toNat_inj, ← UInt8.toNat_inj]
    omega

theorem tolower_of_isDigit {b : UInt8} (h : isDigit b = true) : tolower b = b := by
  rcases tolower_cases b with hsame | ⟨hlow, hhigh, -⟩
  · exact hsame
  · simp only [isDigit, Bool.and_eq_true, decide_eq_true_eq, UInt8.le_iff_toNat_le] at h
    simp only [UInt8.reduceToNat] at h
    omega

theorem strdown_of_isDigit {text : Bytes} (h : text.all isDigit = true) : strdown text = text := by
  rw [List.all_eq_true] at h
  rw [strdown, List.map_congr_left fun b hb => tolower_of_isDigit (h b hb), List.map_id']

theorem zero_notMem_strdown {text : Bytes} (h : 0 ∉ text) : 0 ∉ strdown text := by
  intro hmem
  obtain ⟨b, hb, hzero⟩ := List.mem_map.mp hmem
  exact h ((tolower_eq_iff (by decide)).mp hzero ▸ hb)

theorem dropWhile_strdown (text : Bytes) :
    (strdown text).dropWhile isSpace = strdown (text.dropWhile isSpace) := by
  rw [strdown, List.dropWhile_map, strdown]
  congr 2
  funext b
  exact isSpace_tolower b

theorem strdown_intercalate (lines : List Bytes) :
    strdown ([10].intercalate lines) = [10].intercalate (lines.map strdown) := by
  cases lines with
  | nil => rfl
  | cons line lines =>
    rw [List.map_cons, Lib.intercalate_cons_eq, Lib.intercalate_cons_eq, linesBehind, linesBehind,
      List.flatMap_map, strdown, List.map_append, List.map_flatMap]
    rfl

/-- What is not found stands nowhere. -/
theorem not_prefix_of_strstr {needle hay : Bytes} (h : strstr needle hay = none) (i : ℕ) :
    ¬ needle <+: hay.drop i := by
  induction hay generalizing i with
  | nil =>
    rw [strstr] at h
    split at h
    · cases h
    · next hne =>
      rw [List.drop_nil, List.prefix_nil]
      exact hne
  | cons b rest ih =>
    rw [strstr_cons_eq] at h
    split at h
    · cases h
    · next hnot =>
      cases i with
      | zero => exact hnot
      | succ i => exact ih (Option.map_eq_none_iff.mp h) i

/-- The first part of a text, and the others. -/
theorem splitOn_eq_cons_tail (sep : UInt8) (text : Bytes) :
    text.splitOn sep = text.takeWhile (· ≠ sep) :: (text.splitOn sep).tail := by
  induction text with
  | nil => rfl
  | cons b text ih =>
    rw [List.splitOn_cons_eq_if_modifyHead]
    by_cases hb : b = sep
    · simp [hb]
    · rw [ih]
      simp [hb]

/-- What stands in front of the first separator is a word just if the text begins with the word and
the separator. -/
theorem takeWhile_eq_iff {sep : UInt8} {word text : Bytes} (hword : sep ∉ word) :
    (sep ∈ text ∧ text.takeWhile (· ≠ sep) = word) ↔ word ++ [sep] <+: text := by
  induction text generalizing word with
  | nil => simp
  | cons b text ih =>
    by_cases hb : b = sep
    · subst hb
      cases word with
      | nil => simp
      | cons c word =>
        have hc : b ≠ c := fun h => hword (h ▸ List.mem_cons_self)
        simp [Ne.symm hc]
    · cases word with
      | nil => simp [hb, Ne.symm hb]
      | cons c word =>
        rw [List.mem_cons, not_or] at hword
        rw [List.takeWhile_cons_of_pos (by simpa using hb), List.cons_append,
          List.cons_prefix_cons, ← ih hword.2]
        simp [Ne.symm hb, eq_comm, and_left_comm]

/-- A number in front of something else. -/
theorem strtol_digits {text value more : Bytes} (hzero : 0 ∉ text)
    (htext : text.dropWhile isSpace = value ++ more) (hne : value ≠ [])
    (hdigits : value.all isDigit = true) (hmore : ∀ b ∈ more.head?, isDigit b = false)
    (hfits : digitsValue value < 2 ^ 63) : strtol text = digitsValue value := by
  rw [List.all_eq_true] at hdigits
  have hhead : ∀ {sign : UInt8}, isDigit sign = false →
      (text.dropWhile isSpace).head? ≠ some sign := by
    intro sign hsign h
    rw [htext, List.head?_append_of_ne_nil _ hne] at h
    rw [hdigits sign (List.mem_of_head? h)] at hsign
    cases hsign
  have hvalue : digitsValue (text.dropWhile isSpace) = digitsValue value := by
    have hall : value.takeWhile isDigit = value := List.takeWhile_eq_self_iff.mpr hdigits
    rw [htext, digitsValue, (takeWhile_stop hmore value).1, digitsValue]
  rw [strtol, cString_eq_self hzero]
  rw [if_neg (hhead (by decide)), if_neg, hvalue]
  · omega
  · exact not_or.mpr ⟨hhead (by decide), hhead (by decide)⟩

/-- A single word of digits is read, also in lower case, whatever comes behind it but digits. -/
theorem strtol_strdown_word {text value more : Bytes} (hzero : 0 ∉ strdown text ++ more)
    (hwords : words text = [value]) (hdigits : value.all isDigit = true)
    (hmore : ∀ b ∈ more.head?, isDigit b = false) (hfits : digitsValue value < 2 ^ 63) :
    strtol (strdown text ++ more) = digitsValue value := by
  rw [words_eq] at hwords
  split at hwords
  · cases hwords
  · next hword =>
    obtain ⟨hnext, hafter⟩ := List.cons.inj hwords
    have hparts : text.dropWhile isSpace = value ++ afterWord text := by
      rw [← hnext, nextWord, afterWord, List.takeWhile_append_dropWhile]
    have hne : value ≠ [] := hnext ▸ hword
    have hdrop : (strdown text ++ more).dropWhile isSpace =
        value ++ (strdown (afterWord text) ++ more) := by
      have hlowered : (strdown text).dropWhile isSpace = value ++ strdown (afterWord text) := by
        rw [dropWhile_strdown, hparts, strdown, List.map_append]
        exact congrArg (· ++ _) (strdown_of_isDigit hdigits)
      rw [List.dropWhile_append, hlowered, if_neg, List.append_assoc]
      simp [hne]
    refine strtol_digits hzero hdrop hne hdigits ?_ hfits
    intro b hb
    cases hrest : afterWord text with
    | nil =>
      rw [hrest] at hb
      exact hmore b hb
    | cons c rest =>
      -- what follows a word is white space
      have hc : isSpace c = true := by
        have hhead := List.head?_dropWhile_not (!isSpace ·) (text.dropWhile isSpace)
        rw [← afterWord, hrest] at hhead
        simpa using hhead
      rw [hrest] at hb
      obtain rfl : tolower c = b := Option.some.inj hb
      exact (not_number_of_isSpace ((isSpace_tolower c).trans hc)).1

end Lib
