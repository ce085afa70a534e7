import AxisMetrics.Lib.CText
import Mathlib.Data.List.DropRight

/-!
# Searching and scanning C strings

`strstr`, `strtol`, `g_ascii_strdown` and the conversion `%s` of `sscanf`. More text behind a
match does not move it, and a text is searched the same as far as it was cut behind the match.
Scanning with `%s` gives the words of a text, each cut to its width.
-/

namespace Lib

/-- `strstr`: the position of the first occurrence. -/
def strstr (needle : Bytes) : Bytes → Option ℕ
  | [] => if needle = [] then some 0 else none
  | b :: rest => if needle <+: b :: rest then some 0 else (strstr needle rest).map (· + 1)

/-- `g_ascii_tolower`. -/
def tolower (b : UInt8) : UInt8 := if 65 ≤ b ∧ b ≤ 90 then b + 32 else b

/-- `g_ascii_strdown` of a text without zero bytes. -/
def strdown (text : Bytes) : Bytes := text.map tolower

/-- `strtol (s, NULL, 10)`: leading space, a sign, then digits; a value that does not fit gives the
nearest one that does. -/
def strtol (s : Bytes) : ℤ :=
  let body := (cString s).dropWhile isSpace
  let negative := body.head? = some 45
  let digits := if negative ∨ body.head? = some 43 then body.tail else body
  let value : ℤ := digitsValue digits
  if negative then max (-2 ^ 63) (-value) else min (2 ^ 63 - 1) value

/-- A `long` converted to `gsize`. -/
def gsizeOfLong (n : ℤ) : ℕ := (n % 2 ^ 64).toNat

/-- The next word of a text. -/
def nextWord (text : Bytes) : Bytes := (text.dropWhile isSpace).takeWhile (!isSpace ·)

/-- What follows it. -/
def afterWord (text : Bytes) : Bytes := (text.dropWhile isSpace).dropWhile (!isSpace ·)

/-- The conversion `%[width]s` of `sscanf`: a word, cut to the width, and what follows. -/
def scanWord (width : ℕ) (text : Bytes) : Option (Bytes × Bytes) :=
  let word := (nextWord text).take width
  if word = [] then none else some (word, (text.dropWhile isSpace).drop word.length)

/-- The words of a text: its longest parts without white space. -/
def words (text : Bytes) : List Bytes := (text.splitOnP isSpace).filter (· ≠ [])

variable {needle hay more text : Bytes} {i k : ℕ}

theorem cString_take (n : ℕ) (buffer : Bytes) : cString (buffer.take n) = (cString buffer).take n := by
  induction buffer generalizing n with
  | nil => simp [cString]
  | cons b buffer ih =>
    cases n with
    | zero => rfl
    | succ n =>
      unfold cString at ih ⊢
      rw [List.take_succ_cons, List.takeWhile_cons, List.takeWhile_cons]
      split
      · rw [ih, List.take_succ_cons]
      · rfl

theorem cString_prefix (buffer : Bytes) : cString buffer <+: buffer := List.takeWhile_prefix _

/-- More bytes in the buffer only add to the string. -/
theorem cString_prefix_append (buffer more : Bytes) :
    cString buffer <+: cString (buffer ++ more) := by
  unfold cString
  rw [List.takeWhile_append]
  split
  · next hall =>
    rw [(List.takeWhile_prefix _).eq_of_length hall]
    exact List.prefix_append _ _
  · exact List.prefix_rfl

theorem strstr_cons_eq (b : UInt8) (rest : Bytes) :
    strstr needle (b :: rest) =
      if needle <+: b :: rest then some 0 else (strstr needle rest).map (· + 1) := rfl

/-- Where the text occurs. -/
theorem prefix_of_strstr (h : strstr needle hay = some i) : needle <+: hay.drop i := by
  induction hay generalizing i with
  | nil =>
    rw [strstr] at h
    split at h
    · next hnil => exact hnil ▸ List.nil_prefix
    · cases h
  | cons b rest ih =>
    rw [strstr_cons_eq] at h
    split at h
    · next hbegins =>
      obtain rfl := Option.some.inj h
      exact hbegins
    · obtain ⟨j, hj, rfl⟩ := Option.map_eq_some_iff.mp h
      exact ih hj

theorem length_le_of_strstr (h : strstr needle hay = some i) : i + needle.length ≤ hay.length := by
  induction hay generalizing i with
  | nil =>
    rw [strstr] at h
    split at h
    · next hnil =>
      obtain rfl := Option.some.inj h
      simp [hnil]
    · cases h
  | cons b rest ih =>
    rw [strstr_cons_eq] at h
    split at h
    · next hbegins =>
      obtain rfl := Option.some.inj h
      rw [Nat.zero_add]
      exact hbegins.length_le
    · obtain ⟨j, hj, rfl⟩ := Option.map_eq_some_iff.mp h
      have hrest := ih hj
      rw [List.length_cons]
      omega

/-- More text behind a match does not move it. -/
theorem strstr_append (h : strstr needle hay = some i) (more : Bytes) :
    strstr needle (hay ++ more) = some i := by
  induction hay generalizing i with
  | nil =>
    rw [strstr] at h
    split at h
    · next hnil =>
      obtain rfl := Option.some.inj h
      subst hnil
      cases more <;> simp [strstr]
    · cases h
  | cons b rest ih =>
    rw [strstr_cons_eq] at h
    rw [List.cons_append, strstr_cons_eq]
    split at h
    · next hbegins =>
      obtain rfl := Option.some.inj h
      exact if_pos (hbegins.trans (List.prefix_append (b :: rest) more))
    · next hnot =>
      obtain ⟨j, hj, rfl⟩ := Option.map_eq_some_iff.mp h
      rw [if_neg, ih hj, Option.map_some]
      intro hbegins
      have hlength := length_le_of_strstr hj
      refine hnot (List.prefix_of_prefix_length_le hbegins (List.prefix_append (b :: rest) more) ?_)
      rw [List.length_cons]
      omega

/-- A text that was cut behind a match has it. -/
theorem strstr_take (h : strstr needle hay = some i) (hk : i + needle.length ≤ k) :
    strstr needle (hay.take k) = some i := by
  induction hay generalizing i k with
  | nil => rwa [List.take_nil]
  | cons b rest ih =>
    cases k with
    | zero =>
      obtain rfl : needle = [] := List.length_eq_zero_iff.mp (by omega)
      obtain rfl : i = 0 := by omega
      rfl
    | succ k =>
      rw [strstr_cons_eq] at h
      rw [List.take_succ_cons, strstr_cons_eq]
      split at h
      · next hbegins =>
        obtain rfl := Option.some.inj h
        refine if_pos ?_
        rw [← List.take_succ_cons]
        exact List.prefix_take_iff.mpr ⟨hbegins, by omega⟩
      · next hnot =>
        obtain ⟨j, hj, rfl⟩ := Option.map_eq_some_iff.mp h
        rw [if_neg, ih hj (by omega), Option.map_some]
        intro hbegins
        refine hnot (hbegins.trans ?_)
        rw [← List.take_succ_cons]
        exact List.take_prefix _ _

/-- Text without the first byte of what is searched is skipped. -/
theorem strstr_skip_chars {b : UInt8} {chars : Bytes} (hchars : b ∉ chars) (hay : Bytes) :
    strstr (b :: needle) (chars ++ hay) = (strstr (b :: needle) hay).map (· + chars.length) := by
  induction chars with
  | nil => simp
  | cons c chars ih =>
    obtain ⟨hc, hrest⟩ := List.ne_and_not_mem_of_not_mem_cons hchars
    have hnot : ¬ b :: needle <+: c :: (chars ++ hay) := fun h => hc (List.cons_prefix_cons.mp h).1
    rw [List.cons_append, strstr_cons_eq, if_neg hnot, ih hrest, Option.map_map]
    rfl

/-- What is not in a text is not across its end, where a byte follows that it does not have. -/
theorem strstr_skip_sep {sep : UInt8} (hne : needle ≠ []) (hsep : sep ∉ needle)
    (hnone : strstr needle hay = none) (rest : Bytes) :
    strstr needle (hay ++ sep :: rest) = (strstr needle rest).map (· + (hay.length + 1)) := by
  have hnot : ∀ hay : Bytes, ¬ needle <+: hay → ¬ needle <+: hay ++ sep :: rest := by
    intro hay hnot h
    rcases Nat.le_total needle.length hay.length with hle | hge
    · exact hnot (List.prefix_of_prefix_length_le h (List.prefix_append _ _) hle)
    · obtain ⟨more, rfl⟩ := List.prefix_of_prefix_length_le (List.prefix_append _ _) h hge
      cases more with
      | nil =>
        rw [List.append_nil] at hnot
        exact hnot List.prefix_rfl
      | cons b more =>
        obtain ⟨rfl, -⟩ := List.cons_prefix_cons.mp ((List.prefix_append_right_inj hay).mp h)
        exact hsep (List.mem_append_right _ List.mem_cons_self)
  induction hay with
  | nil =>
    have hbegin : ¬ needle <+: sep :: rest := hnot [] fun h => hne (List.prefix_nil.mp h)
    rw [List.nil_append, strstr_cons_eq, if_neg hbegin]
    rfl
  | cons b hay ih =>
    rw [strstr_cons_eq] at hnone
    split at hnone
    · cases hnone
    · next hbegin =>
      have hbegin' : ¬ needle <+: b :: (hay ++ sep :: rest) := hnot (b :: hay) hbegin
      rw [List.cons_append, strstr_cons_eq, if_neg hbegin', ih (Option.map_eq_none_iff.mp hnone),
        Option.map_map]
      rfl

theorem words_cons_space {b : UInt8} (hb : isSpace b = true) (rest : Bytes) :
    words (b :: rest) = words rest := by
  have hsplit := List.splitOnP_append_cons [] rest hb
  rw [List.nil_append, List.splitOnP_nil] at hsplit
  rw [words, hsplit]
  rfl

theorem words_dropWhile (text : Bytes) : words (text.dropWhile isSpace) = words text := by
  induction text with
  | nil => rfl
  | cons b text ih =>
    rw [List.dropWhile_cons]
    split
    · next hspace => rw [ih, words_cons_space hspace]
    · rfl

/-- A word in front of white space. -/
theorem words_append {word rest : Bytes} (hword : word ≠ [])
    (hplain : ∀ b ∈ word, isSpace b = false) (hrest : ∀ b ∈ rest.head?, isSpace b = true) :
    words (word ++ rest) = word :: words rest := by
  cases rest with
  | nil =>
    rw [List.append_nil, words, List.splitOnP_eq_singleton hplain]
    simp [words, hword]
  | cons b rest =>
    have hb := hrest b rfl
    rw [words, List.splitOnP_append_cons_of_forall_mem hplain b hb, words_cons_space hb]
    simp [words, hword]

/-- There is no word left just if there is white space only. -/
theorem nextWord_eq_nil : nextWord text = [] ↔ text.dropWhile isSpace = [] := by
  constructor
  · intro h
    cases hrest : text.dropWhile isSpace with
    | nil => rfl
    | cons b rest =>
      have hb : isSpace b = false := by
        have hhead := List.head?_dropWhile_not isSpace text
        rw [hrest] at hhead
        simpa using hhead
      rw [nextWord, hrest, List.takeWhile_cons_of_pos (by simp [hb])] at h
      cases h
  · intro h
    rw [nextWord, h]
    rfl

/-- The words are the next word and those after it. -/
theorem words_eq (text : Bytes) :
    words text = if nextWord text = [] then [] else nextWord text :: words (afterWord text) := by
  rw [← words_dropWhile, nextWord, afterWord]
  have hsplit := List.takeWhile_append_dropWhile (p := (!isSpace ·)) (l := text.dropWhile isSpace)
  split
  · next hnone =>
    rw [nextWord_eq_nil.mp hnone]
    rfl
  · next hword =>
    conv_lhs => rw [← hsplit]
    refine words_append hword (fun b hb => ?_) fun b hb => ?_
    · simpa using List.mem_takeWhile_imp hb
    · have hhead := List.head?_dropWhile_not (!isSpace ·) (text.dropWhile isSpace)
      rw [hb] at hhead
      simpa using hhead

theorem dropWhile_nextWord (text : Bytes) :
    (text.dropWhile isSpace).drop (nextWord text).length = afterWord text := by
  have hsplit := List.takeWhile_append_dropWhile (p := (!isSpace ·)) (l := text.dropWhile isSpace)
  rw [← nextWord, ← afterWord] at hsplit
  conv_lhs => rw [← hsplit]
  exact List.drop_left

/-- A word that fits its width is scanned whole. -/
theorem scanWord_of_le {width : ℕ} (hword : nextWord text ≠ [])
    (hwidth : (nextWord text).length ≤ width) :
    scanWord width text = some (nextWord text, afterWord text) := by
  rw [scanWord, List.take_of_length_le hwidth, if_neg hword, dropWhile_nextWord]

theorem length_le_of_scanWord {width : ℕ} {word rest : Bytes}
    (h : scanWord width text = some (word, rest)) : word.length ≤ width := by
  simp only [scanWord] at h
  split at h
  · cases h
  · obtain ⟨rfl, -⟩ := Prod.mk.inj (Option.some.inj h)
    exact List.length_take_le _ _

/-- What fails a test behind a text ends its longest part that passes. -/
theorem takeWhile_stop {p : UInt8 → Bool} {rest : Bytes} (hrest : ∀ b ∈ rest.head?, p b = false)
    (word : Bytes) : (word ++ rest).takeWhile p = word.takeWhile p ∧
      (word ++ rest).dropWhile p = word.dropWhile p ++ rest := by
  induction word with
  | nil =>
    cases rest with
    | nil => exact ⟨rfl, rfl⟩
    | cons b rest => simp [hrest b rfl]
  | cons b word ih =>
    rw [List.cons_append, List.takeWhile_cons, List.takeWhile_cons, List.dropWhile_cons,
      List.dropWhile_cons, ih.1, ih.2]
    split <;> simp

/-- White space or nothing behind a text leaves its next word as it is. -/
theorem nextWord_append {rest : Bytes} (hword : nextWord text ≠ [])
    (hrest : ∀ b ∈ rest.head?, isSpace b = true) :
    nextWord (text ++ rest) = nextWord text ∧ afterWord (text ++ rest) = afterWord text ++ rest := by
  have hdrop : (text ++ rest).dropWhile isSpace = text.dropWhile isSpace ++ rest := by
    rw [List.dropWhile_append, if_neg]
    intro hempty
    refine hword ?_
    rw [nextWord, List.isEmpty_iff.mp hempty]
    rfl
  rw [nextWord, nextWord, afterWord, afterWord, hdrop]
  exact takeWhile_stop (fun b hb => by simp [hrest b hb]) _

/-- The first word of a line is scanned, and the others are the words of what is left. -/
theorem scanWord_line {width : ℕ} {line rest word : Bytes} {others : List Bytes}
    (hwords : words line = word :: others) (hrest : ∀ b ∈ rest.head?, isSpace b = true)
    (hwidth : word.length ≤ width) :
    scanWord width (line ++ rest) = some (word, afterWord line ++ rest) ∧
      words (afterWord line) = others := by
  rw [words_eq] at hwords
  split at hwords
  · cases hwords
  · next hword =>
    obtain ⟨rfl, hothers⟩ := List.cons.inj hwords
    obtain ⟨hnext, hafter⟩ := nextWord_append hword hrest
    refine ⟨?_, hothers⟩
    rw [scanWord_of_le (by rwa [hnext]) (by rwa [hnext]), hnext, hafter]

theorem scanWord_dropWhile (width : ℕ) (text : Bytes) :
    scanWord width (text.dropWhile isSpace) = scanWord width text := by
  rw [scanWord, scanWord, nextWord, nextWord, List.dropWhile_idempotent]

end Lib
