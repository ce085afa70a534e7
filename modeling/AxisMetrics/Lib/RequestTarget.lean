import AxisMetrics.Lib.FormUrl
import AxisMetrics.Lib.Separated
import Mathlib.Data.List.Forall2

/-!
# The target of a request

A server reads the target of a request up to the first question mark and takes what is behind it as
names and values, with ampersands between them. A percent sign and two digits are a byte, and a plus
sign is a space. `readTarget_targetText` says that names and values whose reserved bytes were escaped
are read back.
-/

namespace Lib

/-- What a URL may hold as it is, anywhere. -/
def isUnreserved (b : UInt8) : Bool := isAlnum b || b = 45 || b = 46 || b = 95 || b = 126

/-- A byte as it may stand in a part of a URL. -/
inductive EscapedByte (b : UInt8) : Bytes → Prop where
  | plain : isUnreserved b = true → EscapedByte b [b]
  | percent (high low : UInt8) : isXDigit high = true → isXDigit low = true →
      xdigitValue high * 16 + xdigitValue low = b.toNat → EscapedByte b [37, high, low]

/-- `text` is `value` with its reserved bytes escaped. -/
def Escaped (value text : Bytes) : Prop :=
  ∃ pieces, List.Forall₂ EscapedByte value pieces ∧ text = pieces.flatten

/-- A name or a value as a server takes it. -/
def percentDecode : Bytes → Bytes
  | [] => []
  | b :: rest =>
    if b = 43 then 32 :: percentDecode rest
    else match rest with
      | high :: low :: rest' =>
        if b = 37 ∧ isXDigit high ∧ isXDigit low then
          UInt8.ofNat (xdigitValue high * 16 + xdigitValue low) :: percentDecode rest'
        else b :: percentDecode (high :: low :: rest')
      | rest => b :: percentDecode rest

/-- A name and its value. -/
def readParameter (text : Bytes) : Bytes × Bytes :=
  (percentDecode (text.takeWhile (· ≠ 61)), percentDecode (text.dropWhile (· ≠ 61)).tail)

/-- What a target asks for, and the parameters behind it. -/
def readTarget (target : Bytes) : Bytes × List (Bytes × Bytes) :=
  (target.takeWhile (· ≠ 63), (strsplit 38 (target.dropWhile (· ≠ 63)).tail).map readParameter)

/-- Whatever stands on the right is related to something. -/
theorem exists_of_mem_forall₂ {α β : Type} {R : α → β → Prop} {l : List α} {l' : List β}
    (h : List.Forall₂ R l l') {b : β} (hb : b ∈ l') : ∃ a, R a b := by
  induction h with
  | nil => cases hb
  | @cons a b' l l' hhead _ ih =>
    obtain rfl | htail := List.mem_cons.mp hb
    · exact ⟨a, hhead⟩
    · exact ih htail

/-- Where lists are related, so are the parts of one and parts of the other. -/
theorem exists_sublist_of_forall₂ {α β : Type} {R : α → β → Prop} {l : List α} {l' part' : List β}
    (h : List.Forall₂ R l l') (hsub : part'.Sublist l') :
    ∃ part, part.Sublist l ∧ List.Forall₂ R part part' := by
  induction hsub generalizing l with
  | slnil => exact ⟨[], List.nil_sublist _, .nil⟩
  | @cons part' l' b _ ih =>
    cases h with
    | @cons a _ l _ _ hrest =>
      obtain ⟨part, hpart, hrel⟩ := ih hrest
      exact ⟨part, hpart.cons a, hrel⟩
  | @cons_cons part' l' b _ ih =>
    cases h with
    | @cons a _ l _ hhead hrest =>
      obtain ⟨part, hpart, hrel⟩ := ih hrest
      exact ⟨a :: part, hpart.cons_cons a, .cons hhead hrel⟩

section Bytewise

variable {b : UInt8} {piece value text : Bytes}

/-- What stands for a byte has no separators. -/
theorem EscapedByte.mem (h : EscapedByte b piece) {c : UInt8} (hc : c ∈ piece) :
    isUnreserved c = true ∨ c = 37 := by
  cases h with
  | plain hplain =>
    obtain rfl := List.mem_singleton.mp hc
    exact Or.inl hplain
  | percent high low hhigh hlow =>
    have hdigit : ∀ d, isXDigit d = true → isUnreserved d = true := by
      have hall : ∀ n < 256, isXDigit (UInt8.ofNat n) = true →
          isUnreserved (UInt8.ofNat n) = true := by decide +kernel
      intro d hd
      have hbyte := hall d.toNat d.toNat_lt
      rw [UInt8.ofNat_toNat] at hbyte
      exact hbyte hd
    simp only [List.mem_cons, List.not_mem_nil, or_false] at hc
    obtain rfl | rfl | rfl := hc
    · exact Or.inr rfl
    · exact Or.inl (hdigit _ hhigh)
    · exact Or.inl (hdigit _ hlow)

/-- What stands for a byte is read as that byte, whatever follows. -/
theorem EscapedByte.percentDecode (h : EscapedByte b piece) (rest : Bytes) :
    percentDecode (piece ++ rest) = b :: percentDecode rest := by
  cases h with
  | plain hplain =>
    have hplus : b ≠ 43 := by
      rintro rfl
      cases hplain
    have hpercent : b ≠ 37 := by
      rintro rfl
      cases hplain
    rw [List.singleton_append, Lib.percentDecode.eq_def]
    dsimp only
    rw [if_neg hplus]
    split
    · rw [if_neg fun hescape => hpercent hescape.1]
    · rfl
  | percent high low hhigh hlow hvalue =>
    rw [List.cons_append, List.cons_append, List.singleton_append, Lib.percentDecode.eq_def]
    dsimp only
    rw [if_neg (by decide), if_pos ⟨rfl, hhigh, hlow⟩, hvalue, UInt8.ofNat_toNat]

theorem Escaped.mem (h : Escaped value text) {c : UInt8} (hc : c ∈ text) :
    isUnreserved c = true ∨ c = 37 := by
  obtain ⟨pieces, hpieces, rfl⟩ := h
  obtain ⟨piece, hpiece, hmem⟩ := List.mem_flatten.mp hc
  obtain ⟨b, hb⟩ := exists_of_mem_forall₂ hpieces hpiece
  exact hb.mem hmem

theorem Escaped.percentDecode (h : Escaped value text) : percentDecode text = value := by
  obtain ⟨pieces, hpieces, rfl⟩ := h
  induction hpieces with
  | nil => rfl
  | @cons b piece value pieces hpiece _ ih => rw [List.flatten_cons, hpiece.percentDecode, ih]

/-- A word of unreserved bytes needs no escapes. -/
theorem escaped_self (h : ∀ b ∈ value, isUnreserved b = true) : Escaped value value := by
  refine ⟨value.map fun b => [b], ?_, ?_⟩
  · rw [List.forall₂_map_right_iff, List.forall₂_same]
    exact fun b hb => .plain (h b hb)
  · rw [← List.flatMap_def, List.flatMap_singleton']

end Bytewise

/-- Every reserved byte as a percent sign and two digits. -/
def percentEncode (value : Bytes) : Bytes :=
  value.flatMap fun b => if isUnreserved b then [b]
    else [37, hexDigitUpper (b.toNat / 16), hexDigitUpper (b.toNat % 16)]

theorem escaped_percentEncode (value : Bytes) : Escaped value (percentEncode value) := by
  refine ⟨value.map fun b => if isUnreserved b then [b]
    else [37, hexDigitUpper (b.toNat / 16), hexDigitUpper (b.toNat % 16)], ?_, List.flatMap_def⟩
  rw [List.forall₂_map_right_iff, List.forall₂_same]
  intro b _
  split
  · next hplain => exact .plain hplain
  · have hlt := b.toNat_lt
    obtain ⟨hhigh, hhighValue, -⟩ := hexDigitUpper_spec (show b.toNat / 16 < 16 by omega)
    obtain ⟨hlow, hlowValue, -⟩ := hexDigitUpper_spec (show b.toNat % 16 < 16 by omega)
    exact .percent _ _ hhigh hlow (by omega)

/-- A parameter as it is written. -/
def parameterText (parameter : Bytes × Bytes) : Bytes := parameter.1 ++ 61 :: parameter.2

/-- A target as it is written. -/
def targetText (path : Bytes) (parameters : List (Bytes × Bytes)) : Bytes :=
  path ++ 63 :: [38].intercalate (parameters.map parameterText)

/-- A parameter and how it is written. -/
def EscapedParameter (parameter written : Bytes × Bytes) : Prop :=
  Escaped parameter.1 written.1 ∧ Escaped parameter.2 written.2

variable {parameter written : Bytes × Bytes} {parameters writtens : List (Bytes × Bytes)}

theorem EscapedParameter.mem (h : EscapedParameter parameter written) {b : UInt8}
    (hb : b ∈ parameterText written) : b ≠ 38 := by
  rw [parameterText, List.mem_append, List.mem_cons] at hb
  rintro rfl
  obtain hname | hequals | hvalue := hb
  · exact absurd (h.1.mem hname) (by decide)
  · exact absurd hequals (by decide)
  · exact absurd (h.2.mem hvalue) (by decide)

theorem EscapedParameter.readParameter (h : EscapedParameter parameter written) :
    readParameter (parameterText written) = parameter := by
  have hname : ∀ b ∈ written.1, decide (b ≠ 61) = true := by
    intro b hb
    refine decide_eq_true ?_
    rintro rfl
    exact absurd (h.1.mem hb) (by decide)
  rw [Lib.readParameter, parameterText, List.takeWhile_append_of_pos hname,
    List.dropWhile_append_of_pos hname, List.takeWhile_cons_of_neg (by decide),
    List.dropWhile_cons_of_neg (by decide), List.append_nil, List.tail_cons, h.1.percentDecode,
    h.2.percentDecode]

/-- The parameters of a target that was written are read back. -/
theorem readTarget_targetText {path : Bytes} (hpath : 63 ∉ path)
    (h : List.Forall₂ EscapedParameter parameters writtens) (hne : parameters ≠ []) :
    readTarget (targetText path writtens) = (path, parameters) := by
  have hquestion : ∀ b ∈ path, decide (b ≠ 63) = true := fun b hb =>
    decide_eq_true fun heq => hpath (heq ▸ hb)
  have hwrittens : writtens ≠ [] := by
    rintro rfl
    exact hne (List.forall₂_nil_right_iff.mp h)
  have hsplit : strsplit 38 ([38].intercalate (writtens.map parameterText)) =
      writtens.map parameterText := by
    refine strsplit_intercalate ?_ ?_
    · intro hmem
      obtain ⟨written, -, hnil⟩ := List.mem_map.mp hmem
      rw [parameterText] at hnil
      simp at hnil
    · intro text htext hmem
      obtain ⟨written, hwritten, rfl⟩ := List.mem_map.mp htext
      obtain ⟨parameter, hparameter⟩ := exists_of_mem_forall₂ h hwritten
      exact hparameter.mem hmem rfl
  rw [readTarget, targetText, List.takeWhile_append_of_pos hquestion,
    List.dropWhile_append_of_pos hquestion, List.takeWhile_cons_of_neg (by decide),
    List.dropWhile_cons_of_neg (by decide), List.append_nil, List.tail_cons, hsplit, List.map_map]
  congr 1
  clear hwrittens hsplit hne
  induction h with
  | nil => rfl
  | cons hparameter _ ih => rw [List.map_cons, ih, Function.comp_apply, hparameter.readParameter]

end Lib
