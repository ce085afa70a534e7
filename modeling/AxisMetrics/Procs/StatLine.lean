import AxisMetrics.Lib.Tokens
import AxisMetrics.Procs.Scan

/-!
# The status line of a process

The kernel writes the status of a process as its pid, its command name in parentheses and the
other fields, separated by blanks. `readStat_text` says that `readStat` inverts that, whatever
the name is.
-/

namespace AxisMetrics

open Lib (Bytes ascii cString decimal IsWord isSpace scanUnsigned guint64)

/-- The status of a process, as the kernel writes it. `fields` are those behind the command name,
from the third on. -/
structure StatLine where
  pid : ℕ
  comm : Bytes
  comm_le : comm.length ≤ 15
  zero_notMem_comm : 0 ∉ comm
  fields : List Bytes
  fields_plain : ∀ field ∈ fields, IsWord field ∧ 0 ∉ field ∧ 40 ∉ field ∧ 41 ∉ field

/-- The fields with a blank in front of each, and the end of the line. -/
def fieldsText (fields : List Bytes) : Bytes := fields.flatMap (fun field => 32 :: field) ++ [10]

/-- The line itself. -/
def StatLine.text (line : StatLine) : Bytes :=
  decimal line.pid ++ ascii " (" ++ line.comm ++ ascii ")" ++ fieldsText line.fields

/-- Field `n` of the line, counted from one, behind the command name. -/
def StatLine.field? (line : StatLine) (n : ℕ) : Option Bytes := line.fields[n - 3]?

theorem isSpace_of_head?_fieldsText (fields : List Bytes) :
    ∀ b ∈ (fieldsText fields).head?, isSpace b = true := by
  cases fields with
  | nil =>
    intro b hb
    obtain rfl : 10 = b := Option.some.inj hb
    rfl
  | cons field fields =>
    intro b hb
    obtain rfl : 32 = b := Option.some.inj hb
    rfl

theorem fieldsText_cons (field : Bytes) (fields : List Bytes) :
    fieldsText (field :: fields) = 32 :: (field ++ fieldsText fields) := by
  simp only [fieldsText, List.flatMap_cons, List.cons_append, List.append_assoc]

theorem skipWords_cons_space {b : UInt8} (hb : isSpace b = true) (n : ℕ) (text : Bytes) :
    skipWords (n + 1) (b :: text) = skipWords (n + 1) text := by
  rw [skipWords, skipWords, Lib.nextWord_cons_space hb, Lib.afterWord_cons_space hb]

/-- `%*s` skips the fields one by one. -/
theorem skipWords_fieldsText {fields : List Bytes} (hfields : ∀ field ∈ fields, IsWord field)
    (n : ℕ) (hn : n ≤ fields.length) :
    skipWords n (fieldsText fields) = some (fieldsText (fields.drop n)) := by
  induction n generalizing fields with
  | zero => rfl
  | succ n ih =>
    cases fields with
    | nil => exact absurd hn (Nat.not_succ_le_zero n)
    | cons field fields =>
      obtain ⟨hfield, hrest⟩ := List.forall_mem_cons.mp hfields
      have hspace := isSpace_of_head?_fieldsText fields
      rw [fieldsText_cons, skipWords_cons_space rfl, skipWords, hfield.nextWord hspace,
        if_neg hfield.ne_nil, hfield.afterWord hspace]
      exact ih hrest (Nat.le_of_succ_le_succ hn)

/-- `%lu` reads the next field. -/
theorem scanUnsigned_fieldsText {fields : List Bytes} {i value : ℕ}
    (hfield : fields[i]? = some (decimal value)) (hvalue : value < 2 ^ 64) :
    scanUnsigned (fieldsText (fields.drop i)) = some (value, fieldsText (fields.drop (i + 1))) := by
  obtain ⟨hi, hget⟩ := List.getElem?_eq_some_iff.mp hfield
  rw [List.drop_eq_getElem_cons hi, hget, fieldsText_cons, Lib.scanUnsigned_cons_space rfl,
    Lib.scanUnsigned_decimal hvalue (isSpace_of_head?_fieldsText _)]

theorem notMem_fieldsText {b : UInt8} {fields : List Bytes} (h10 : b ≠ 10) (h32 : b ≠ 32)
    (hfields : ∀ field ∈ fields, b ∉ field) : b ∉ fieldsText fields := by
  intro hb
  rcases List.mem_append.mp hb with hmem | hend
  · obtain ⟨field, hfield, hin⟩ := List.mem_flatMap.mp hmem
    rcases List.mem_cons.mp hin with heq | hin
    · exact h32 heq
    · exact hfields field hfield hin
  · exact h10 (List.mem_singleton.mp hend)

theorem notMem_decimal {b : UInt8} (hb : Lib.isDigit b = false) (n : ℕ) : b ∉ decimal n := by
  intro hmem
  rw [Lib.isDigit_of_mem_decimal hmem] at hb
  cases hb

namespace StatLine

variable (line : StatLine)

theorem zero_notMem_text : 0 ∉ line.text := by
  simp only [StatLine.text, List.mem_append, not_or]
  refine ⟨⟨⟨⟨notMem_decimal rfl _, by decide⟩, line.zero_notMem_comm⟩, by decide⟩, ?_⟩
  exact notMem_fieldsText (by decide) (by decide) fun field hfield =>
    (line.fields_plain field hfield).2.1

/-- The first opening parenthesis is the one in front of the name: there is none in the pid. -/
theorem takeWhile_text : line.text.takeWhile (· ≠ 40) = decimal line.pid ++ [32] := by
  have hsplit : line.text = (decimal line.pid ++ [32]) ++ 40 ::
      (line.comm ++ ascii ")" ++ fieldsText line.fields) := by
    simp [StatLine.text, ascii]
  rw [hsplit, List.takeWhile_append_of_pos, List.takeWhile_cons_of_neg (by decide), List.append_nil]
  intro b hb
  rw [decide_eq_true_eq]
  rintro rfl
  rcases List.mem_append.mp hb with hpid | hblank
  · exact notMem_decimal rfl _ hpid
  · exact absurd hblank (by decide)

/-- The last closing parenthesis is the one behind the name: there is none in the other fields. -/
theorem rdropWhile_text : line.text.rdropWhile (· ≠ 41) =
    decimal line.pid ++ ascii " (" ++ line.comm ++ [41] := by
  have hbehind : 41 ∉ fieldsText line.fields := notMem_fieldsText (by decide) (by decide)
    fun field hfield => (line.fields_plain field hfield).2.2.2
  rw [List.rdropWhile, StatLine.text, List.reverse_append, List.dropWhile_append_of_pos]
  · rw [List.reverse_append, show (ascii ")").reverse = [41] from rfl, List.singleton_append,
      List.dropWhile_cons_of_neg (by decide), List.reverse_cons, List.reverse_reverse]
  · intro b hb
    rw [decide_eq_true_eq]
    rintro rfl
    exact hbehind (List.mem_reverse.mp hb)

/-- What the fields are scanned from, two bytes behind the last parenthesis, lacks their first
blank only. -/
theorem skipWords_behind (hne : line.fields ≠ []) (n : ℕ) :
    skipWords (n + 1) (line.text.drop ((line.text.rdropWhile (· ≠ 41)).length + 1)) =
      skipWords (n + 1) (fieldsText line.fields) := by
  obtain ⟨field, fields, hfields⟩ := List.exists_cons_of_ne_nil hne
  have hsplit : line.text = (line.text.rdropWhile (· ≠ 41) ++ [32]) ++
      (field ++ fieldsText fields) := by
    rw [rdropWhile_text, StatLine.text, hfields, fieldsText_cons]
    simp [ascii]
  rw [hfields, fieldsText_cons, skipWords_cons_space rfl]
  have hdrop : line.text.drop ((line.text.rdropWhile (· ≠ 41)).length + 1) =
      field ++ fieldsText fields := by
    nth_rewrite 2 [hsplit]
    exact List.drop_left' List.length_append
  rw [hdrop]

/-- The name is what stands between the two parentheses. -/
theorem drop_take_text : (line.text.take ((line.text.rdropWhile (· ≠ 41)).length - 1)).drop
    ((line.text.takeWhile (· ≠ 40)).length + 1) = line.comm := by
  have hfront : line.text = (decimal line.pid ++ ascii " (" ++ line.comm) ++
      (41 :: fieldsText line.fields) := by
    simp [StatLine.text, ascii]
  have hclose : (line.text.rdropWhile (· ≠ 41)).length - 1 =
      (decimal line.pid ++ ascii " (" ++ line.comm).length := by
    rw [rdropWhile_text, List.length_append, List.length_singleton, Nat.add_sub_cancel]
  rw [hclose, takeWhile_text, hfront, List.take_left, List.drop_left']
  rw [List.length_append, List.length_append]
  rfl

end StatLine

/-- Whatever the command name is, `readStat` gives it back unchanged, with the sum of fields 14
and 15 as an `unsigned long` holds it, and field 24. -/
theorem readStat_text (line : StatLine) (pid : ℤ) {utime stime rss : ℕ}
    (hutime : line.field? 14 = some (decimal utime)) (hutime_lt : utime < 2 ^ 64)
    (hstime : line.field? 15 = some (decimal stime)) (hstime_lt : stime < 2 ^ 64)
    (hrss : line.field? 24 = some (decimal rss)) (hrss_lt : rss < 2 ^ 64) :
    ∃ reading, readStat pid line.text = some reading ∧ reading.pid = pid ∧
      reading.name = line.comm ∧ reading.jiffies = (utime + stime) % 2 ^ 64 ∧
      reading.rssPages = rss := by
  have hwords : ∀ field ∈ line.fields, IsWord field := fun field hfield =>
    (line.fields_plain field hfield).1
  have hlength : 21 < line.fields.length := (List.getElem?_eq_some_iff.mp hrss).1
  have hne : line.fields ≠ [] := List.ne_nil_of_length_pos (by omega)
  -- the name is found by its parentheses
  have hparens : ¬ ((line.text.takeWhile (· ≠ 40)).length = line.text.length ∨
      line.text.rdropWhile (· ≠ 41) = [] ∨ (line.text.rdropWhile (· ≠ 41)).length - 1 <
        (line.text.takeWhile (· ≠ 40)).length) := by
    rw [StatLine.takeWhile_text, StatLine.rdropWhile_text, StatLine.text]
    simp only [List.length_append, List.append_eq_nil_iff, List.length_singleton]
    have hopen : (ascii " (").length = 2 := rfl
    rintro (hend | hempty | hbefore)
    · omega
    · cases hempty.2
    · omega
  have hname : line.comm.take 23 = line.comm :=
    List.take_of_length_le (line.comm_le.trans (by decide))
  -- the fields are counted off one by one
  have hskip := skipWords_fieldsText hwords 11 (by omega)
  have hscan14 := scanUnsigned_fieldsText hutime hutime_lt
  have hscan15 := scanUnsigned_fieldsText hstime hstime_lt
  have hbetween := @skipWords_fieldsText (line.fields.drop 13)
    (fun field hfield => hwords field (List.mem_of_mem_drop hfield)) 8
    (by rw [List.length_drop]; omega)
  rw [List.drop_drop] at hbetween
  have hscan24 := scanUnsigned_fieldsText hrss hrss_lt
  unfold readStat
  rw [Lib.cString_eq_self line.zero_notMem_text]
  dsimp only
  rw [if_neg hparens, line.skipWords_behind hne, hskip, line.drop_take_text, hname]
  dsimp only [Option.bind_eq_bind, Option.bind_some]
  rw [hscan14]
  dsimp only [Option.bind_some]
  rw [hscan15]
  dsimp only [Option.bind_some]
  rw [hbetween]
  dsimp only [Option.bind_some]
  rw [hscan24]
  exact ⟨_, rfl, rfl, rfl, rfl, rfl⟩

/-- The fields of a process with 150 ticks and 512 pages. -/
abbrev nestedFields : List Bytes :=
  ascii "S" :: List.replicate 10 (ascii "-1") ++ [ascii "120", ascii "30"] ++
    List.replicate 8 (ascii "0") ++ [ascii "512", ascii "99"]

theorem nestedFields_plain : ∀ field ∈ nestedFields,
    IsWord field ∧ 0 ∉ field ∧ 40 ∉ field ∧ 41 ∉ field := by
  have hall : ∀ field ∈ nestedFields, (field ≠ [] ∧ ∀ b ∈ field, isSpace b = false) ∧
      0 ∉ field ∧ 40 ∉ field ∧ 41 ∉ field := by decide
  intro field hfield
  obtain ⟨⟨hne, hplain⟩, hrest⟩ := hall field hfield
  exact ⟨⟨hne, hplain⟩, hrest⟩

/-- A process whose name imitates the fields behind it. -/
abbrev nestedLine : StatLine where
  pid := 7
  comm := ascii ") R 1 2) (x ("
  comm_le := by decide
  zero_notMem_comm := by decide
  fields := nestedFields
  fields_plain := nestedFields_plain

/-- It is read like any other. -/
theorem readStat_nestedLine : ∃ reading, readStat 7 nestedLine.text = some reading ∧
    reading.pid = 7 ∧ reading.name = ascii ") R 1 2) (x (" ∧
    reading.jiffies = (120 + 30) % 2 ^ 64 ∧ reading.rssPages = 512 :=
  readStat_text nestedLine 7 (by decide) (by decide) (by decide) (by decide) (by decide)
    (by decide)

end AxisMetrics
