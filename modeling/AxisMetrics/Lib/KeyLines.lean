import AxisMetrics.Lib.Scan

/-!
# Searching lines

A search of a whole text for something without a line break finds the first line that has it. What
it gives runs from there to the end of the text, over the lines behind.
-/

namespace Lib

variable {needle line rest : Bytes} {lines : List Bytes}

/-- The first line that has a text, from the text on, and the lines behind it. -/
def foundIn (needle : Bytes) : List Bytes → Option (Bytes × List Bytes)
  | [] => none
  | line :: lines =>
    match strstr needle line with
    | some i => some (line.drop i, lines)
    | none => foundIn needle lines

/-- The value in the first line with this key. -/
def lineValue (key : Bytes) (lines : List Bytes) : Option Bytes :=
  lines.findSome? fun line =>
    if key ++ [61] <+: line then some (line.drop (key.length + 1)) else none

/-- Lines, with the line breaks in front of them. -/
def linesBehind (lines : List Bytes) : Bytes := lines.flatMap fun line => 10 :: line

theorem intercalate_cons_eq (line : Bytes) (lines : List Bytes) :
    [10].intercalate (line :: lines) = line ++ linesBehind lines := by
  induction lines generalizing line with
  | nil => simp [List.intercalate, linesBehind]
  | cons next lines ih =>
    rw [List.intercalate_cons_cons, ih]
    simp [linesBehind]

/-- What is behind a line begins a new one. -/
theorem head?_linesBehind {b : UInt8} (h : b ∈ (linesBehind lines).head?) : b = 10 := by
  cases lines with
  | nil => cases h
  | cons line lines => exact (Option.some.inj h).symm

/-- The first place in a text is in the first line that has it. -/
theorem strstr_intercalate (hne : needle ≠ []) (hbreak : 10 ∉ needle) (lines : List Bytes) :
    (strstr needle ([10].intercalate lines)).map (([10].intercalate lines).drop ·) =
      (foundIn needle lines).map fun found => found.1 ++ linesBehind found.2 := by
  induction lines with
  | nil =>
    have hnil : strstr needle ([10].intercalate ([] : List Bytes)) = none := if_neg hne
    rw [hnil]
    rfl
  | cons line lines ih =>
    rw [intercalate_cons_eq, foundIn]
    cases hline : strstr needle line with
    | some i =>
      have hi := length_le_of_strstr hline
      rw [strstr_append hline, Option.map_some, Option.map_some,
        List.drop_append_of_le_length (by omega)]
    | none =>
      cases lines with
      | nil =>
        rw [linesBehind, List.flatMap_nil, List.append_nil, hline]
        rfl
      | cons next lines =>
        have hbehind : linesBehind (next :: lines) = 10 :: [10].intercalate (next :: lines) := by
          rw [intercalate_cons_eq]
          rfl
        rw [hbehind, strstr_skip_sep hne hbreak hline, Option.map_map, ← ih]
        congr 1
        funext i
        have hdrop : (line ++ 10 :: [10].intercalate (next :: lines)).drop (line.length + 1) =
            [10].intercalate (next :: lines) := by
          rw [← List.drop_drop, List.drop_left]
          rfl
        rw [Function.comp_apply, Nat.add_comm, ← List.drop_drop, hdrop]

end Lib
