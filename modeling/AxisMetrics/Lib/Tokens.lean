import AxisMetrics.Lib.Decimal
import AxisMetrics.Lib.Lines
import AxisMetrics.Lib.Scan

/-!
# Scanning a text token by token

The conversions `%s` and `%*d` skip white space, also across the ends of lines. In a text that ends in
white space, a conversion that finds its token there reads the same whatever follows the text.
-/

namespace Lib

/-- The text is empty or its last byte is white space. -/
def EndsInSpace (text : Bytes) : Prop := ∀ b ∈ text.getLast?, isSpace b = true

/-- A text without white space. -/
structure IsWord (word : Bytes) : Prop where
  ne_nil : word ≠ []
  plain : ∀ b ∈ word, isSpace b = false

variable {text rest word : Bytes} {width : ℕ}

theorem EndsInSpace.suffix (h : EndsInSpace text) (hrest : rest <:+ text) : EndsInSpace rest := by
  obtain ⟨front, rfl⟩ := hrest
  intro b hb
  refine h b ?_
  rw [Option.mem_def] at hb ⊢
  rw [List.getLast?_append, hb, Option.some_or]

/-- White space in front of a text is skipped. -/
theorem dropWhile_of_blank (hblank : nextWord text = []) (more : Bytes) :
    (text ++ more).dropWhile isSpace = more.dropWhile isSpace := by
  rw [List.dropWhile_append, nextWord_eq_nil.mp hblank]
  rfl

theorem dropWhile_of_word (hword : nextWord text ≠ []) (more : Bytes) :
    (text ++ more).dropWhile isSpace = text.dropWhile isSpace ++ more := by
  rw [List.dropWhile_append, if_neg]
  rw [List.isEmpty_iff]
  exact fun hempty => hword (nextWord_eq_nil.mpr hempty)

/-- In a text that ends in white space, some follows the next word. -/
theorem exists_space (hend : EndsInSpace text) (hword : nextWord text ≠ []) :
    ∃ b ∈ text.dropWhile isSpace, isSpace b = true := by
  have hne : text.dropWhile isSpace ≠ [] := fun hempty => hword (nextWord_eq_nil.mpr hempty)
  exact ⟨_, List.getLast_mem hne, hend.suffix (List.dropWhile_suffix _) _
    (List.getLast?_eq_some_getLast hne)⟩

/-- Taking and dropping stop where they stopped before. -/
theorem takeWhile_of_exists {p : UInt8 → Bool} {body : Bytes} (h : ∃ b ∈ body, p b = false)
    (more : Bytes) : (body ++ more).takeWhile p = body.takeWhile p ∧
      (body ++ more).dropWhile p = body.dropWhile p ++ more := by
  obtain ⟨b, hb, hpb⟩ := h
  induction body with
  | nil => cases hb
  | cons a body ih =>
    rw [List.cons_append, List.takeWhile_cons, List.takeWhile_cons, List.dropWhile_cons,
      List.dropWhile_cons]
    by_cases ha : p a = true
    · have hbody : b ∈ body := by
        rcases List.mem_cons.mp hb with rfl | hmem
        · rw [ha] at hpb
          cases hpb
        · exact hmem
      rw [if_pos ha, if_pos ha, if_pos ha, if_pos ha, (ih hbody).1, (ih hbody).2]
      exact ⟨rfl, rfl⟩
    · rw [if_neg ha, if_neg ha, if_neg ha, if_neg ha]
      exact ⟨rfl, rfl⟩

theorem nextWord_more (hend : EndsInSpace text) (hword : nextWord text ≠ []) (more : Bytes) :
    nextWord (text ++ more) = nextWord text := by
  obtain ⟨b, hb, hspace⟩ := exists_space hend hword
  rw [nextWord, dropWhile_of_word hword]
  exact (takeWhile_of_exists ⟨b, hb, by simp [hspace]⟩ more).1

/-- A word that is scanned inside a text is scanned the same with more text behind. -/
theorem scanWord_more (hend : EndsInSpace text) (hword : nextWord text ≠ []) (more : Bytes) :
    scanWord width (text ++ more) =
      (scanWord width text).map fun scanned => (scanned.1, scanned.2 ++ more) := by
  rw [scanWord, scanWord, nextWord_more hend hword, dropWhile_of_word hword]
  split
  · rfl
  · rw [Option.map_some, List.drop_append_of_le_length]
    rw [nextWord]
    exact (List.length_take_le' _ _).trans (List.takeWhile_prefix _).length_le

theorem scanWord_of_blank (hblank : nextWord text = []) (more : Bytes) :
    scanWord width (text ++ more) = scanWord width more := by
  rw [← scanWord_dropWhile, dropWhile_of_blank hblank, scanWord_dropWhile]

theorem scanWord_eq_none (hwidth : 0 < width) :
    scanWord width text = none ↔ nextWord text = [] := by
  simp only [scanWord, ite_eq_left_iff, reduceCtorEq, imp_false, not_not, List.take_eq_nil_iff,
    hwidth.ne', false_or]

theorem suffix_of_scanWord (h : scanWord width text = some (word, rest)) : rest <:+ text := by
  simp only [scanWord, Option.ite_none_left_eq_some, Option.some.injEq, Prod.mk.injEq] at h
  obtain ⟨-, -, rfl⟩ := h
  exact (List.drop_suffix _ _).trans (List.dropWhile_suffix _)

theorem length_lt_of_scanWord (h : scanWord width text = some (word, rest)) :
    rest.length < text.length := by
  simp only [scanWord, Option.ite_none_left_eq_some, Option.some.injEq, Prod.mk.injEq] at h
  obtain ⟨hne, -, rfl⟩ := h
  have hword : 0 < ((nextWord text).take width).length := List.length_pos_iff.mpr hne
  have hbody : ((nextWord text).take width).length ≤ (text.dropWhile isSpace).length :=
    (List.length_take_le' _ _).trans (List.takeWhile_prefix _).length_le
  have htext := (List.dropWhile_suffix isSpace (l := text)).length_le
  rw [List.length_drop]
  omega

theorem skipInteger_dropWhile (text : Bytes) : skipInteger (text.dropWhile isSpace) =
    skipInteger text := by
  rw [skipInteger, skipInteger, List.dropWhile_idempotent]

theorem skipInteger_of_blank (hblank : nextWord text = []) (more : Bytes) :
    skipInteger (text ++ more) = skipInteger more := by
  rw [← skipInteger_dropWhile, dropWhile_of_blank hblank, skipInteger_dropWhile]

theorem skipInteger_eq_of_blank (hblank : nextWord text = []) : skipInteger text = (false, []) := by
  rw [skipInteger, nextWord_eq_nil.mp hblank]
  rfl

/-- What `%*d` leaves is a part of the text. -/
theorem suffix_skipInteger (text : Bytes) : (skipInteger text).2 <:+ text := by
  rw [skipInteger]
  refine (List.dropWhile_suffix _).trans (List.IsSuffix.trans ?_ (List.dropWhile_suffix isSpace))
  split
  · exact List.tail_suffix _
  · exact List.suffix_rfl

/-- White space is no part of a number. -/
theorem not_number_of_isSpace {b : UInt8} (h : isSpace b = true) :
    isDigit b = false ∧ b ≠ 45 ∧ b ≠ 43 := by
  simp only [isSpace, Bool.or_eq_true, beq_iff_eq, Bool.and_eq_true, decide_eq_true_eq,
    UInt8.le_iff_toNat_le, ← UInt8.toNat_inj] at h
  simp only [isDigit, Bool.and_eq_false_iff, decide_eq_false_iff_not, UInt8.le_iff_toNat_le, Ne,
    ← UInt8.toNat_inj]
  simp only [UInt8.reduceToNat] at h ⊢
  omega

/-- `%*d` inside a text. -/
theorem skipInteger_more (hend : EndsInSpace text) (hword : nextWord text ≠ []) (more : Bytes) :
    skipInteger (text ++ more) = ((skipInteger text).1, (skipInteger text).2 ++ more) := by
  obtain ⟨b, hb, hspace⟩ := exists_space hend hword
  obtain ⟨hdigit, hminus, hplus⟩ := not_number_of_isSpace hspace
  have hbody : text.dropWhile isSpace ≠ [] := fun hempty => hword (nextWord_eq_nil.mpr hempty)
  -- the sign is read inside the text, and white space is left behind it
  have hsigned : ∃ digits : Bytes, b ∈ digits ∧
      (if (text.dropWhile isSpace).head? = some 45 ∨ (text.dropWhile isSpace).head? = some 43 then
        (text.dropWhile isSpace).tail else text.dropWhile isSpace) = digits ∧
      (if (text.dropWhile isSpace ++ more).head? = some 45 ∨
          (text.dropWhile isSpace ++ more).head? = some 43 then
        (text.dropWhile isSpace ++ more).tail else text.dropWhile isSpace ++ more) =
          digits ++ more := by
    rw [List.head?_append_of_ne_nil _ hbody, List.tail_append_of_ne_nil hbody]
    split
    · next hsign =>
      refine ⟨_, ?_, rfl, rfl⟩
      cases hrest : text.dropWhile isSpace with
      | nil => exact absurd hrest hbody
      | cons first rest =>
        rw [hrest] at hb hsign
        rcases List.mem_cons.mp hb with rfl | hmem
        · rcases hsign with hsign | hsign
          · exact absurd (Option.some.inj hsign) hminus
          · exact absurd (Option.some.inj hsign) hplus
        · exact hmem
    · exact ⟨_, hb, rfl, rfl⟩
  obtain ⟨digits, hmem, hbefore, hafter⟩ := hsigned
  obtain ⟨htake, hdrop⟩ := takeWhile_of_exists ⟨b, hmem, hdigit⟩ more
  rw [skipInteger, skipInteger, dropWhile_of_word hword]
  dsimp only
  rw [hbefore, hafter, htake, hdrop]

-- ════════════════════════════════════════════════════════════════════════
-- Tokens that were written
-- ════════════════════════════════════════════════════════════════════════

theorem nextWord_cons_space {b : UInt8} (hb : isSpace b = true) (text : Bytes) :
    nextWord (b :: text) = nextWord text := by
  rw [nextWord, List.dropWhile_cons_of_pos hb, nextWord]

theorem scanWord_cons_space {b : UInt8} (hb : isSpace b = true) (text : Bytes) :
    scanWord width (b :: text) = scanWord width text := by
  rw [← scanWord_dropWhile, List.dropWhile_cons_of_pos hb, scanWord_dropWhile]

theorem skipInteger_cons_space {b : UInt8} (hb : isSpace b = true) (text : Bytes) :
    skipInteger (b :: text) = skipInteger text := by
  rw [← skipInteger_dropWhile, List.dropWhile_cons_of_pos hb, skipInteger_dropWhile]

theorem IsWord.dropWhile (h : IsWord word) (rest : Bytes) :
    (word ++ rest).dropWhile isSpace = word ++ rest := by
  cases word with
  | nil => exact absurd rfl h.ne_nil
  | cons b word =>
    refine List.dropWhile_cons_of_neg ?_
    rw [h.plain b (List.mem_cons_self ..)]
    exact Bool.false_ne_true

theorem IsWord.nextWord (h : IsWord word) (hrest : ∀ b ∈ rest.head?, isSpace b = true) :
    nextWord (word ++ rest) = word := by
  rw [Lib.nextWord, h.dropWhile, List.takeWhile_append_of_pos]
  · cases rest with
    | nil => exact List.append_nil _
    | cons b rest =>
      rw [List.takeWhile_cons_of_neg (by rw [hrest b rfl]; decide), List.append_nil]
  · intro b hb
    rw [h.plain b hb]
    rfl

/-- A word that fits its width is scanned. -/
theorem IsWord.scanWord (h : IsWord word) (hwidth : word.length ≤ width)
    (hrest : ∀ b ∈ rest.head?, isSpace b = true) :
    scanWord width (word ++ rest) = some (word, rest) := by
  rw [Lib.scanWord, h.nextWord hrest, List.take_of_length_le hwidth, if_neg h.ne_nil, h.dropWhile,
    List.drop_left]

theorem isWord_decimal (n : ℕ) : IsWord (decimal n) := by
  refine ⟨decimal_ne_nil n, fun b hb => ?_⟩
  have hdigit := isDigit_of_mem_decimal hb
  cases hspace : isSpace b with
  | false => rfl
  | true =>
    rw [(not_number_of_isSpace hspace).1] at hdigit
    cases hdigit

/-- A number that was written has no sign in front, and ends where white space follows. -/
theorem decimal_append (n : ℕ) (hrest : ∀ b ∈ rest.head?, isSpace b = true) :
    ¬ ((decimal n ++ rest).head? = some 45 ∨ (decimal n ++ rest).head? = some 43) ∧
      (decimal n ++ rest).takeWhile isDigit = decimal n ∧
      (decimal n ++ rest).dropWhile isDigit = rest := by
  have hdigits : ∀ b ∈ decimal n, isDigit b = true := fun b hb => isDigit_of_mem_decimal hb
  have hstop : rest.takeWhile isDigit = [] ∧ rest.dropWhile isDigit = rest := by
    cases rest with
    | nil => exact ⟨rfl, rfl⟩
    | cons b rest =>
      have hb := (not_number_of_isSpace (hrest b rfl)).1
      exact ⟨List.takeWhile_cons_of_neg (by rw [hb]; decide),
        List.dropWhile_cons_of_neg (by rw [hb]; decide)⟩
  refine ⟨?_, ?_, ?_⟩
  · rw [List.head?_append_of_ne_nil _ (decimal_ne_nil n)]
    rintro (hminus | hplus)
    · exact absurd (hdigits 45 (List.mem_of_head? hminus)) (by decide)
    · exact absurd (hdigits 43 (List.mem_of_head? hplus)) (by decide)
  · rw [List.takeWhile_append_of_pos hdigits, hstop.1, List.append_nil]
  · rw [List.dropWhile_append_of_pos hdigits, hstop.2]

/-- A number that was written is skipped. -/
theorem skipInteger_decimal (n : ℕ) (hrest : ∀ b ∈ rest.head?, isSpace b = true) :
    skipInteger (decimal n ++ rest) = (true, rest) := by
  obtain ⟨hsign, htake, hdrop⟩ := decimal_append n hrest
  rw [skipInteger, (isWord_decimal n).dropWhile, if_neg hsign, htake, hdrop,
    decide_eq_true (decimal_ne_nil n)]

theorem cString_decimal_append (n : ℕ) (rest : Bytes) :
    cString (decimal n ++ rest) = decimal n ++ cString rest := by
  refine List.takeWhile_append_of_pos fun b hb => ?_
  have hdigit := isDigit_of_mem_decimal hb
  rw [decide_eq_true_eq]
  rintro rfl
  cases hdigit

theorem strtoull_decimal_append {n : ℕ} (hn : n < 2 ^ 64)
    (hrest : ∀ b ∈ rest.head?, isSpace b = true) : strtoull (decimal n ++ rest) = n := by
  have hbehind : ∀ b ∈ (cString rest).head?, isSpace b = true := by
    cases rest with
    | nil => exact hrest
    | cons b rest =>
      have hb : b ≠ 0 := by
        rintro rfl
        cases hrest 0 rfl
      rw [cString, List.takeWhile_cons_of_pos (by simpa using hb)]
      exact hrest
  obtain ⟨hsign, htake, -⟩ := decimal_append n hbehind
  have hminus : ¬ (decimal n ++ cString rest).head? = some 45 := fun h => hsign (Or.inl h)
  have hvalue : digitsValue (decimal n ++ cString rest) = n := by
    have hwhole := digitsValue_decimal n
    rw [digitsValue, List.takeWhile_eq_self_iff.mpr fun b hb => isDigit_of_mem_decimal hb] at hwhole
    rw [digitsValue, htake, hwhole]
  rw [strtoull, cString_decimal_append, (isWord_decimal n).dropWhile, if_neg hsign, hvalue,
    if_neg (by omega), if_neg hminus]

theorem strtoull_decimal {n : ℕ} (hn : n < 2 ^ 64) : strtoull (decimal n) = n := by
  have hread := strtoull_decimal_append hn fun b (hb : b ∈ ([] : Bytes).head?) => by cases hb
  rwa [List.append_nil] at hread

/-- A number that was written and fits is scanned. -/
theorem scanUnsigned_decimal {n : ℕ} (hn : n < 2 ^ 64)
    (hrest : ∀ b ∈ rest.head?, isSpace b = true) :
    scanUnsigned (decimal n ++ rest) = some (n, rest) := by
  obtain ⟨hsign, htake, hdrop⟩ := decimal_append n hrest
  rw [scanUnsigned, (isWord_decimal n).dropWhile, if_neg hsign, htake, hdrop,
    if_neg (decimal_ne_nil n), strtoull_decimal_append hn hrest]

theorem strtoull_cons_space {b : UInt8} (hb : isSpace b = true) (text : Bytes) :
    strtoull (b :: text) = strtoull text := by
  have hne : b ≠ 0 := by
    rintro rfl
    cases hb
  have hcons : cString (b :: text) = b :: cString text :=
    List.takeWhile_cons_of_pos (by simpa using hne)
  rw [strtoull, hcons, List.dropWhile_cons_of_pos hb, strtoull]

theorem scanUnsigned_cons_space {b : UInt8} (hb : isSpace b = true) (text : Bytes) :
    scanUnsigned (b :: text) = scanUnsigned text := by
  rw [scanUnsigned, List.dropWhile_cons_of_pos hb, strtoull_cons_space hb, scanUnsigned]

theorem IsWord.afterWord (h : IsWord word) (hrest : ∀ b ∈ rest.head?, isSpace b = true) :
    afterWord (word ++ rest) = rest := by
  rw [Lib.afterWord, h.dropWhile, List.dropWhile_append_of_pos]
  · cases rest with
    | nil => rfl
    | cons b rest => exact List.dropWhile_cons_of_neg (by rw [hrest b rfl]; decide)
  · intro b hb
    rw [h.plain b hb]
    rfl

theorem afterWord_cons_space {b : UInt8} (hb : isSpace b = true) (text : Bytes) :
    afterWord (b :: text) = afterWord text := by
  rw [afterWord, List.dropWhile_cons_of_pos hb, afterWord]

end Lib
