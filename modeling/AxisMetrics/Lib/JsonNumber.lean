import AxisMetrics.Lib.FloatText
import AxisMetrics.Lib.JsonPart

/-!
# Printed numbers in JSON

What `%g` prints of a finite number is a JSON number. `nan` and `inf` are none.
-/

namespace Lib

variable {digits rest : Bytes}

/-- Some digits. -/
def IsDigits (digits : Bytes) : Prop := digits ≠ [] ∧ ∀ b ∈ digits, isDigit b = true

/-- What stands behind digits is none. -/
def EndsDigits (rest : Bytes) : Prop := ∀ b ∈ rest.head?, isDigit b = false

theorem jsonDigits_append (h : IsDigits digits) (hrest : EndsDigits rest) :
    jsonDigits (digits ++ rest) = some rest := by
  obtain ⟨hne, hdigits⟩ := h
  cases digits with
  | nil => exact absurd rfl hne
  | cons b digits =>
    obtain ⟨hb, hdigits⟩ := List.forall_mem_cons.mp hdigits
    rw [List.cons_append, jsonDigits, if_pos hb, List.dropWhile_append_of_pos hdigits]
    cases rest with
    | nil => rfl
    | cons c rest =>
      rw [List.dropWhile_cons_of_neg]
      rw [hrest c rfl]
      exact Bool.false_ne_true

/-- The whole part of a number: one zero, or digits that start with another. -/
def IsWhole (whole : Bytes) : Prop := IsDigits whole ∧ (whole = [48] ∨ whole.head? ≠ some 48)

/-- The decimals of a number, if there are any. -/
def IsFraction (fraction : Bytes) : Prop :=
  fraction = [] ∨ ∃ digits, fraction = 46 :: digits ∧ IsDigits digits

/-- The exponent of a number, if there is one. -/
def IsExponent (exponent : Bytes) : Prop :=
  exponent = [] ∨ ∃ sign digits, exponent = 101 :: sign :: digits ∧ (sign = 43 ∨ sign = 45) ∧
    IsDigits digits

theorem IsExponent.endsDigits {exponent : Bytes} (h : IsExponent exponent) :
    EndsDigits exponent := by
  rcases h with rfl | ⟨sign, digits, rfl, -⟩
  · exact fun _ hb => by cases hb
  · exact fun _ hb => by cases hb; rfl

theorem IsFraction.endsDigits {fraction exponent : Bytes} (h : IsFraction fraction)
    (h' : IsExponent exponent) : EndsDigits (fraction ++ exponent) := by
  rcases h with rfl | ⟨digits, rfl, -⟩
  · exact h'.endsDigits
  · exact fun _ hb => by cases hb; rfl

theorem jsonWhole_append {whole : Bytes} (h : IsWhole whole) (hrest : EndsDigits rest) :
    jsonWhole (whole ++ rest) = some rest := by
  obtain ⟨hdigits, rfl | hhead⟩ := h
  · rfl
  · cases whole with
    | nil => exact absurd rfl hdigits.1
    | cons b whole =>
      rw [List.cons_append, jsonWhole, if_neg fun hb => hhead (congrArg some hb),
        ← List.cons_append, jsonDigits_append hdigits hrest]

theorem jsonFraction_append {fraction exponent : Bytes} (h : IsFraction fraction)
    (h' : IsExponent exponent) : jsonFraction (fraction ++ exponent) = some exponent := by
  rcases h with rfl | ⟨digits, rfl, hdigits⟩
  · rcases h' with rfl | ⟨sign, digits, rfl, -⟩ <;> rfl
  · rw [List.cons_append, jsonFraction, if_pos rfl, jsonDigits_append hdigits h'.endsDigits]

theorem jsonExponent_of_isExponent {exponent : Bytes} (h : IsExponent exponent) :
    jsonExponent exponent = some [] := by
  rcases h with rfl | ⟨sign, digits, rfl, hsign, hdigits⟩
  · rfl
  · have hends : EndsDigits [] := fun _ hb => by cases hb
    have hread := jsonDigits_append hdigits hends
    rw [List.append_nil] at hread
    have hsigns : (sign :: digits).head? = some 43 ∨ (sign :: digits).head? = some 45 :=
      hsign.imp (congrArg some) (congrArg some)
    rw [jsonExponent, if_pos (.inr rfl), if_pos hsigns, List.tail_cons, hread]

theorem isJsonNumber_parts (negative : Bool) {whole fraction exponent : Bytes}
    (hwhole : IsWhole whole) (hfraction : IsFraction fraction) (hexponent : IsExponent exponent) :
    isJsonNumber (signText negative ++ (whole ++ (fraction ++ exponent))) = true := by
  have hsign : (if (signText negative ++ (whole ++ (fraction ++ exponent))).head? = some 45 then
      (signText negative ++ (whole ++ (fraction ++ exponent))).tail
      else signText negative ++ (whole ++ (fraction ++ exponent))) =
      whole ++ (fraction ++ exponent) := by
    cases negative with
    | true => rfl
    | false =>
      obtain ⟨⟨hne, hdigits⟩, -⟩ := hwhole
      cases whole with
      | nil => exact absurd rfl hne
      | cons b whole =>
        refine if_neg fun hb => ?_
        cases hb
        exact absurd (hdigits 45 List.mem_cons_self) (by decide)
  rw [isJsonNumber, hsign, jsonWhole_append hwhole (hfraction.endsDigits hexponent),
    Option.bind_some, jsonFraction_append hfraction hexponent, Option.bind_some,
    jsonExponent_of_isExponent hexponent]
  rfl

theorem isDigits_decimal (n : ℕ) : IsDigits (decimal n) :=
  ⟨decimal_ne_nil n, fun _ hb => isDigit_of_mem_decimal hb⟩

theorem isFraction_fractionText (h : ∀ b ∈ digits, isDigit b = true) :
    IsFraction (fractionText digits) := by
  rw [fractionText]
  split
  · exact .inl rfl
  · next hne =>
    exact .inr ⟨_, rfl, hne, fun b hb => h b ((List.rdropWhile_prefix _ _).subset hb)⟩

theorem isExponent_exponentText (exponent : ℤ) : IsExponent (exponentText exponent) := by
  refine .inr ⟨_, _, rfl, ?_, ?_⟩
  · split
    · exact .inr rfl
    · exact .inl rfl
  · obtain ⟨hne, hdigits⟩ := isDigits_decimal exponent.natAbs
    split
    · exact ⟨List.cons_ne_nil _ _, List.forall_mem_cons.mpr ⟨rfl, hdigits⟩⟩
    · exact ⟨hne, hdigits⟩

/-- The first digits of a number are a whole part. -/
theorem isWhole_take_decimal (n k : ℕ) : IsWhole ((decimal n).take (k + 1)) := by
  obtain ⟨hne, hdigits⟩ := isDigits_decimal n
  refine ⟨⟨?_, fun b hb => hdigits b (List.mem_of_mem_take hb)⟩, ?_⟩
  · rw [Ne, List.take_eq_nil_iff]
    exact not_or.mpr ⟨nofun, hne⟩
  · by_cases hn : n = 0
    · rw [hn, show decimal 0 = [48] from rfl, List.take_succ_cons, List.take_nil]
      exact .inl rfl
    · rw [List.head?_take, if_neg nofun]
      exact .inr (head?_decimal hn)

/-- What `%u` prints. -/
theorem isWhole_decimal (n : ℕ) : IsWhole (decimal n) := by
  have h := isWhole_take_decimal n (decimal n).length
  rwa [List.take_of_length_le (Nat.le_succ _)] at h

/-- What `%d` prints. -/
theorem isJsonNumber_decimalInt (n : ℤ) : isJsonNumber (decimalInt n) = true := by
  have h := fun negative => isJsonNumber_parts negative (isWhole_decimal n.natAbs)
    (.inl rfl) (.inl rfl)
  rw [decimalInt]
  split
  · have hnegative := h true
    rwa [List.append_nil, List.append_nil] at hnegative
  · have hpositive := h false
    rwa [List.append_nil, List.append_nil] at hpositive

theorem isJsonNumber_decimal (n : ℕ) : isJsonNumber (decimal n) = true := by
  have h := isJsonNumber_decimalInt n
  rwa [decimalInt, if_neg (by omega), Int.natAbs_natCast] at h

/-- What `%g` prints of a finite number. -/
theorem isJsonNumber_formatG (precision : ℕ) (negative : Bool) (num den : ℕ) :
    isJsonNumber (formatG precision (.finite negative num den)) = true := by
  rw [formatG, formatFraction]
  split
  · cases negative <;> rfl
  · generalize significant precision num den = parts
    obtain ⟨number, exponent⟩ := parts
    have hdigits := (isDigits_decimal number).2
    dsimp only
    split_ifs with hlarge hsmall
    · rw [List.append_assoc]
      exact isJsonNumber_parts _ (isWhole_take_decimal number 0)
        (isFraction_fractionText fun b hb => hdigits b (List.mem_of_mem_drop hb))
        (isExponent_exponentText exponent)
    · rw [← List.append_nil ([48] ++ _), List.append_assoc]
      refine isJsonNumber_parts _ (isWhole_take_decimal 0 0) (isFraction_fractionText fun b hb => ?_)
        (.inl rfl)
      rcases List.mem_append.mp hb with hzero | hdigit
      · rw [(List.mem_replicate.mp hzero).2]
        rfl
      · exact hdigits b hdigit
    · rw [← List.append_nil (_ ++ fractionText _), List.append_assoc]
      exact isJsonNumber_parts _ (isWhole_take_decimal number _)
        (isFraction_fractionText fun b hb => hdigits b (List.mem_of_mem_drop hb)) (.inl rfl)

/-- A number that is neither infinite nor NaN. -/
def FloatDatum.isFinite : FloatDatum → Bool
  | .finite .. => true
  | _ => false

/-- What `%g` prints. -/
def JsonPart.printed (precision : ℕ) (datum : FloatDatum) : JsonPart :=
  ⟨formatG precision datum, .number (formatG precision datum), datum.isFinite⟩

/-- It is read just if the number is finite. -/
theorem JsonPart.sound_printed (precision : ℕ) (datum : FloatDatum) :
    (JsonPart.printed precision datum).Sound := by
  cases datum with
  | finite negative num den => exact reads_number (isJsonNumber_formatG precision negative num den)
  | nan negative =>
    cases negative
    · exact reads_scalar (by decide) fun rest _ => rfl
    · exact reads_scalar (by decide) fun rest _ => rfl
  | infinite negative =>
    cases negative
    · exact reads_scalar (by decide) fun rest _ => rfl
    · exact reads_scalar (by decide) fun rest _ => rfl

end Lib
