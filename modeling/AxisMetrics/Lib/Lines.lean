import AxisMetrics.Lib.Scan

/-!
# Lines and formats

`fgets` and the conversions of `sscanf` that read text files, and texts that are joined by dots.
-/

namespace Lib

/-- The lines that `fgets` gives with a buffer of `size` bytes, in which `line` has been read so
far: a line ends behind its newline, or where the buffer is full. -/
def fgetsFrom (size : ℕ) : Bytes → Bytes → List Bytes
  | line, [] => if line = [] then [] else [line]
  | line, b :: rest =>
    if b = 10 ∨ line.length + 2 = size then (line ++ [b]) :: fgetsFrom size [] rest
    else fgetsFrom size (line ++ [b]) rest

/-- What `fgets` leaves in the buffer, line after line. -/
def fgetsLines (size : ℕ) (text : Bytes) : List Bytes := (fgetsFrom size [] text).map cString

/-- The text of a format up to a conversion: white space in it matches any amount, and other bytes
match themselves. Gives what follows. -/
def scanLiteral : Bytes → Bytes → Option Bytes
  | [], text => some text
  | f :: format, text =>
    if isSpace f then scanLiteral format (text.dropWhile isSpace)
    else
      match text with
      | [] => none
      | b :: text => if b = f then scanLiteral format text else none

/-- The conversion `%lu`: the number and what follows. -/
def scanUnsigned (text : Bytes) : Option (ℕ × Bytes) :=
  let body := text.dropWhile isSpace
  let digits := if body.head? = some 45 ∨ body.head? = some 43 then body.tail else body
  if digits.takeWhile isDigit = [] then none
  else some (strtoull text, digits.dropWhile isDigit)

/-- The conversion `%*d`: whether there is a number, and what follows. -/
def skipInteger (text : Bytes) : Bool × Bytes :=
  let body := text.dropWhile isSpace
  let digits := if body.head? = some 45 ∨ body.head? = some 43 then body.tail else body
  (digits.takeWhile isDigit ≠ [], digits.dropWhile isDigit)

/-- Up to `n` conversions `%lu`, as far as they succeed. -/
def scanNumbers : ℕ → Bytes → List ℕ
  | 0, _ => []
  | n + 1, text =>
    match scanUnsigned text with
    | none => []
    | some (value, rest) => value :: scanNumbers n rest

/-- The value of the leading hexadecimal digits. -/
def hexValue (text : Bytes) : ℕ :=
  (text.takeWhile isXDigit).foldl (fun n b => 16 * n + xdigitValue b) 0

/-- The conversion `%x`, with its optional `0x`. -/
def scanHex (text : Bytes) : Option (ℕ × Bytes) :=
  let body := text.dropWhile isSpace
  let negative := body.head? = some 45
  let digits := if negative ∨ body.head? = some 43 then body.tail else body
  let digits := if ascii "0x" <+: digits ∨ ascii "0X" <+: digits then digits.drop 2 else digits
  if digits.takeWhile isXDigit = [] then none
  else
    let value := hexValue digits
    let value := if 2 ^ 64 ≤ value then 2 ^ 64 - 1 else if negative then 2 ^ 64 - value else value
    some (value % 2 ^ 64, digits.dropWhile isXDigit)

/-- A value in a `guint64`. -/
def guint64 (n : ℕ) : ℕ := n % 2 ^ 64

/-- `a - b` in `guint64` arithmetic. -/
def guint64Sub (a b : ℕ) : ℕ := guint64 (a + (2 ^ 64 - guint64 b))

/-- Texts joined by dots. -/
def dotted : List Bytes → Bytes
  | [] => []
  | [part] => part
  | part :: parts => part ++ 46 :: dotted parts

variable {text part word rest : Bytes} {width wide : ℕ}

/-- A narrower `%s` scans the beginning of the word. -/
theorem scanWord_take (h : scanWord width text = some (word, rest)) (hwide : width ≤ wide) :
    ∃ whole rest', scanWord wide text = some (whole, rest') ∧ word = whole.take width := by
  simp only [scanWord] at h ⊢
  split at h
  · cases h
  · next hword =>
    obtain ⟨rfl, -⟩ := Prod.mk.inj (Option.some.inj h)
    rw [if_neg]
    · refine ⟨_, _, rfl, ?_⟩
      rw [List.take_take, Nat.min_eq_left hwide]
    · intro hnone
      apply hword
      rw [← Nat.min_eq_left hwide, ← List.take_take, hnone, List.take_nil]

theorem zero_notMem_of_mem_fgetsLines {size : ℕ} {line : Bytes} (h : line ∈ fgetsLines size text) :
    0 ∉ line := by
  obtain ⟨chunk, -, rfl⟩ := List.mem_map.mp h
  exact zero_notMem_cString chunk

theorem suffix_of_scanUnsigned {value : ℕ} (h : scanUnsigned text = some (value, rest)) :
    rest <:+ text := by
  have hdigits : ∀ digits : Bytes, digits <:+ text.dropWhile isSpace →
      digits.dropWhile isDigit <:+ text := by
    intro digits hsuffix
    exact (List.dropWhile_suffix _).trans (hsuffix.trans (List.dropWhile_suffix _))
  have hrest : rest = (if (text.dropWhile isSpace).head? = some 45 ∨
      (text.dropWhile isSpace).head? = some 43 then (text.dropWhile isSpace).tail
        else text.dropWhile isSpace).dropWhile isDigit := by
    simp only [scanUnsigned, Option.ite_none_left_eq_some, Option.some.injEq, Prod.mk.injEq] at h
    exact h.2.2.symm
  rw [hrest]
  apply hdigits
  split
  · exact List.tail_suffix _
  · exact List.suffix_rfl

theorem mem_of_mem_scanWord (h : scanWord width text = some (word, rest)) {b : UInt8}
    (hb : b ∈ word) : b ∈ text := by
  simp only [scanWord] at h
  split at h
  · cases h
  · obtain ⟨rfl, -⟩ := Prod.mk.inj (Option.some.inj h)
    exact (List.dropWhile_suffix _).subset
      ((List.takeWhile_prefix _).subset (List.mem_of_mem_take hb))

theorem dotted_cons (part : Bytes) {parts : List Bytes} (h : parts ≠ []) :
    dotted (part :: parts) = part ++ 46 :: dotted parts := by
  cases parts with
  | nil => exact absurd rfl h
  | cons next parts => rfl

theorem dotted_two (a b : Bytes) : dotted [a, b] = a ++ 46 :: b := rfl

theorem dotted_three (a b c : Bytes) : dotted [a, b, c] = a ++ 46 :: (b ++ 46 :: c) := rfl

theorem dotted_eq_intercalate (parts : List Bytes) : dotted parts = [46].intercalate parts := by
  induction parts with
  | nil => rfl
  | cons part parts ih =>
    cases parts with
    | nil => simp [dotted]
    | cons next parts =>
      rw [dotted_cons part (List.cons_ne_nil _ _), ih, List.intercalate_cons_cons, List.append_assoc,
        List.singleton_append]

/-- The parts of a dotted text are found in it again. -/
theorem splitOn_dotted {parts : List Bytes} (hparts : parts ≠ [])
    (hplain : ∀ part ∈ parts, 46 ∉ part) : (dotted parts).splitOn 46 = parts := by
  rw [dotted_eq_intercalate]
  exact List.splitOn_intercalate 46 hplain hparts

end Lib
