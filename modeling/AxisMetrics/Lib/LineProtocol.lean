import AxisMetrics.Lib.JsonNumber

/-!
# Lines of measurements

A reader for one line of the InfluxDB line protocol: the series, the fields with a number each, and
the timestamp. A backslash takes the byte behind it as it is.
-/

namespace Lib

/-- What stands before the first byte of a kind, and the rest from there. -/
def lineToken (stop : UInt8 → Bool) : Bytes → Bytes × Bytes
  | [] => ([], [])
  | b :: rest =>
    if stop b then ([], b :: rest)
    else if b = 92 then
      match rest with
      | [] => ([92], [])
      | c :: rest => consByte c (lineToken stop rest)
    else consByte b (lineToken stop rest)

/-- The fields of a line up to the space behind them; `fuel` bounds their number. -/
def lineFields : ℕ → Bytes → Option (List (Bytes × Bytes) × Bytes)
  | 0, _ => none
  | fuel + 1, text =>
    let (key, rest) := lineToken (fun b => b = 61 || b = 44 || b = 32) text
    (expect 61 rest).bind fun rest =>
      let value := rest.takeWhile fun b => b ≠ 44 ∧ b ≠ 32
      let rest := rest.dropWhile fun b => b ≠ 44 ∧ b ≠ 32
      if key = [] ∨ isJsonNumber value = false then none
      else if rest.head? = some 32 then some ([(key, value)], rest.tail)
      else ((expect 44 rest).bind (lineFields fuel)).map fun more => ((key, value) :: more.1, more.2)

/-- A line that was read. -/
structure LinePoint where
  series : Bytes
  fields : List (Bytes × Bytes)
  timestamp : Bytes

/-- Read a line up to the newline at its end. -/
def linePoint (text : Bytes) : Option LinePoint :=
  let (series, rest) := lineToken (fun b => b = 32) text
  (expect 32 rest).bind fun rest => (lineFields rest.length rest).bind fun (fields, rest) =>
    let timestamp := rest.takeWhile (· ≠ 10)
    if isJsonNumber timestamp ∧ rest.dropWhile (· ≠ 10) = [10] then some ⟨series, fields, timestamp⟩
    else none

section Token

variable {stop : UInt8 → Bool}

theorem lineToken_stop {b : UInt8} (h : stop b = true) (rest : Bytes) :
    lineToken stop (b :: rest) = ([], b :: rest) := by
  rw [lineToken.eq_def]
  exact if_pos h

/-- Marked text is read as it was. -/
theorem lineToken_mark (stop marked : UInt8 → Bool) (text : Bytes) (hbackslash : stop 92 = false)
    (h : ∀ b ∈ text, marked b = true ∨ stop b = false ∧ b ≠ 92) (rest : Bytes) :
    lineToken stop ((text.flatMap fun b => if marked b then [92, b] else [b]) ++ rest) =
      (text ++ (lineToken stop rest).1, (lineToken stop rest).2) := by
  induction text with
  | nil => rfl
  | cons b text ih =>
    obtain ⟨hb, htext⟩ := List.forall_mem_cons.mp h
    rw [List.flatMap_cons, List.append_assoc]
    by_cases hmarked : marked b = true
    · rw [if_pos hmarked, List.cons_append, List.singleton_append, lineToken.eq_def]
      dsimp only
      rw [if_neg (by rw [hbackslash]; exact Bool.false_ne_true), if_pos rfl, ih htext]
      rfl
    · obtain ⟨hstop, hne⟩ := hb.resolve_left hmarked
      rw [if_neg hmarked, List.singleton_append, lineToken.eq_def]
      dsimp only
      rw [if_neg (by rw [hstop]; exact Bool.false_ne_true), if_neg hne, ih htext]
      rfl

/-- So is text that needs no marks. -/
theorem lineToken_plain {text : Bytes} (hbackslash : stop 92 = false)
    (h : ∀ b ∈ text, stop b = false ∧ b ≠ 92) (rest : Bytes) :
    lineToken stop (text ++ rest) = (text ++ (lineToken stop rest).1, (lineToken stop rest).2) := by
  have hread := lineToken_mark stop (fun _ => false) text hbackslash (fun b hb => .inr (h b hb)) rest
  rwa [show (fun b : UInt8 => if (fun _ => false) b = true then [92, b] else [b]) = fun b => [b] from
    rfl, List.flatMap_singleton'] at hread

end Token

/-- A field as it is written. -/
def lineField (field : Bytes × Bytes) : Bytes := field.1 ++ 61 :: field.2

/-- Fields that need no marks. -/
def IsPlainField (field : Bytes × Bytes) : Prop :=
  field.1 ≠ [] ∧ (∀ b ∈ field.1, b ≠ 61 ∧ b ≠ 44 ∧ b ≠ 32 ∧ b ≠ 92) ∧ isJsonNumber field.2 = true

/-- Reading fields gives them back. -/
theorem lineFields_intercalate {fields : List (Bytes × Bytes)} (hne : fields ≠ [])
    (h : ∀ field ∈ fields, IsPlainField field) (rest : Bytes) :
    ∀ fuel, fields.length ≤ fuel →
      lineFields fuel ([44].intercalate (fields.map lineField) ++ 32 :: rest) =
        some (fields, rest) := by
  induction fields with
  | nil => exact absurd rfl hne
  | cons field fields ih =>
    intro fuel hfuel
    obtain ⟨⟨hkey, hplain, hvalue⟩, hfields⟩ := List.forall_mem_cons.mp h
    have hbytes : ∀ b ∈ field.2, decide (b ≠ 44 ∧ b ≠ 32) = true := by
      intro b hb
      refine decide_eq_true ⟨?_, ?_⟩ <;> rintro rfl
      · exact absurd (isNumberByte_of_isJsonNumber hvalue 44 hb) (by decide)
      · exact absurd (isNumberByte_of_isJsonNumber hvalue 32 hb) (by decide)
    -- the key, and the value up to the separator
    have hfield : ∀ (separator : UInt8) (rest : Bytes), separator = 44 ∨ separator = 32 →
        lineToken (fun b => b = 61 || b = 44 || b = 32) (lineField field ++ separator :: rest) =
            (field.1, 61 :: (field.2 ++ separator :: rest)) ∧
          (field.2 ++ separator :: rest).takeWhile (fun b => b ≠ 44 ∧ b ≠ 32) = field.2 ∧
          (field.2 ++ separator :: rest).dropWhile (fun b => b ≠ 44 ∧ b ≠ 32) =
            separator :: rest := by
      intro separator rest hseparator
      have hstop : decide (separator ≠ 44 ∧ separator ≠ 32) = false :=
        decide_eq_false fun h => hseparator.elim h.1 h.2
      refine ⟨?_, ?_, ?_⟩
      · rw [lineField, List.append_assoc, lineToken_plain rfl, List.cons_append, lineToken_stop rfl,
          List.append_nil]
        intro b hb
        obtain ⟨hequals, hcomma, hspace, hbackslash⟩ := hplain b hb
        exact ⟨by simp [hequals, hcomma, hspace], hbackslash⟩
      · rw [List.takeWhile_append_of_pos hbytes, List.takeWhile_cons_of_neg, List.append_nil]
        rw [hstop]
        exact Bool.false_ne_true
      · rw [List.dropWhile_append_of_pos hbytes, List.dropWhile_cons_of_neg]
        rw [hstop]
        exact Bool.false_ne_true
    cases fuel with
    | zero => cases hfuel
    | succ fuel =>
      have hgood : ¬ (field.1 = [] ∨ isJsonNumber field.2 = false) :=
        not_or.mpr ⟨hkey, by rw [hvalue]; exact Bool.noConfusion⟩
      cases fields with
      | nil =>
        obtain ⟨hread, htake, hdrop⟩ := hfield 32 rest (.inr rfl)
        rw [List.map_singleton, List.intercalate_singleton, lineFields, hread]
        dsimp only
        rw [expect_cons, Option.bind_some, htake, hdrop, if_neg hgood]
        rfl
      | cons next fields =>
        obtain ⟨hread, htake, hdrop⟩ := hfield 44
          ([44].intercalate ((next :: fields).map lineField) ++ 32 :: rest) (.inl rfl)
        have hmore := ih (List.cons_ne_nil _ _) hfields fuel (Nat.le_of_succ_le_succ hfuel)
        rw [List.map_cons, List.map_cons, List.intercalate_cons_cons, ← List.map_cons,
          List.append_assoc, List.append_assoc, List.singleton_append, lineFields, hread]
        dsimp only
        rw [expect_cons, Option.bind_some, htake, hdrop, if_neg hgood, List.head?_cons,
          if_neg (by decide), expect_cons, Option.bind_some, hmore]
        rfl

/-- There are no more fields than bytes. -/
theorem length_le_fields (fields : List (Bytes × Bytes)) :
    fields.length ≤ ([44].intercalate (fields.map lineField)).length := by
  refine (List.length_map lineField).ge.trans (length_le_intercalate fun text htext => ?_)
  obtain ⟨field, -, rfl⟩ := List.mem_map.mp htext
  simp [lineField]

/-- Reading a line gives back its parts. -/
theorem linePoint_line {series text timestamp : Bytes} {fields : List (Bytes × Bytes)}
    (hseries : ∀ rest, lineToken (fun b => b = 32) (text ++ 32 :: rest) = (series, 32 :: rest))
    (hne : fields ≠ []) (hfields : ∀ field ∈ fields, IsPlainField field)
    (htimestamp : isJsonNumber timestamp = true) :
    linePoint (text ++ 32 :: ([44].intercalate (fields.map lineField) ++
      32 :: (timestamp ++ [10]))) = some ⟨series, fields, timestamp⟩ := by
  have hbytes : ∀ b ∈ timestamp, decide (b ≠ 10) = true := by
    rintro b hb
    refine decide_eq_true ?_
    rintro rfl
    exact absurd (isNumberByte_of_isJsonNumber htimestamp 10 hb) (by decide)
  have hlength := length_le_fields fields
  rw [linePoint, hseries]
  dsimp only
  rw [expect_cons, Option.bind_some, lineFields_intercalate hne hfields _ _ (by
    rw [List.length_append]
    omega), Option.bind_some]
  dsimp only
  rw [List.takeWhile_append_of_pos hbytes, List.dropWhile_append_of_pos hbytes]
  simp [htimestamp]

end Lib
