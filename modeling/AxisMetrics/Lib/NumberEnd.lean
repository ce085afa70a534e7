import AxisMetrics.Lib.FloatText

/-!
# Where a number ends

What `strtod` reads of a text, when more text stands behind it.
-/

namespace Lib

/-- A byte that no number goes on with: neither a letter nor a digit, no sign and no point. -/
def endsNumber (b : UInt8) : Bool := !isAlnum b && b != 43 && b != 45 && b != 46

variable {text more : Bytes}

theorem endsNumber_iff {b : UInt8} :
    endsNumber b = true ↔ isAlnum b = false ∧ b ≠ 43 ∧ b ≠ 45 ∧ b ≠ 46 := by
  simp [endsNumber, and_assoc]

theorem not_isDigit_of_endsNumber {b : UInt8} (h : endsNumber b = true) : isDigit b = false := by
  have halnum := (endsNumber_iff.mp h).1
  simp only [isAlnum, Bool.or_eq_false_iff] at halnum
  exact halnum.1.1

theorem not_isXDigit_of_endsNumber {b : UInt8} (h : endsNumber b = true) : isXDigit b = false := by
  have halnum := (endsNumber_iff.mp h).1
  simp only [isAlnum, isXDigit, Bool.or_eq_false_iff, Bool.and_eq_false_iff,
    decide_eq_false_iff_not] at halnum ⊢
  obtain ⟨⟨hdigit, hupper⟩, hlower⟩ := halnum
  have hF : (70 : UInt8) ≤ 90 := by decide
  have hf : (102 : UInt8) ≤ 122 := by decide
  exact ⟨⟨hdigit, hupper.imp_right fun h hle => h (UInt8.le_trans hle hF)⟩,
    hlower.imp_right fun h hle => h (UInt8.le_trans hle hf)⟩

/-- Such a byte is no letter, small or capital. -/
theorem tolower_ne_of_endsNumber {b c : UInt8} (h : endsNumber b = true) (hc : isAlnum c = true) :
    tolower b ≠ c := by
  have halnum := (endsNumber_iff.mp h).1
  rw [tolower]
  split
  · next hupper =>
    simp only [isAlnum, hupper.1, hupper.2, decide_true, Bool.and_self, Bool.or_true,
      Bool.true_or, Bool.true_eq_false] at halnum
  · rintro rfl
    rw [halnum] at hc
    cases hc

/-- A byte that is not in a word ends it. -/
theorem prefix_append_iff {word : Bytes} (h : ∀ b ∈ more.head?, b ∉ word) :
    word <+: text ++ more ↔ word <+: text := by
  refine ⟨fun hprefix => ?_, fun hprefix => hprefix.trans (List.prefix_append _ _)⟩
  rcases Nat.le_total word.length text.length with hle | hge
  · exact List.prefix_of_prefix_length_le hprefix (List.prefix_append _ _) hle
  · obtain ⟨rest, rfl⟩ := List.prefix_of_prefix_length_le (List.prefix_append _ _) hprefix hge
    cases rest with
    | nil => rw [List.append_nil]
    | cons b rest =>
      obtain ⟨_, hnext⟩ := (List.prefix_append_right_inj text).mp hprefix
      have hfirst : more.head? = some b := by
        rw [← hnext]
        rfl
      exact absurd (by simp) (h b hfirst)

theorem head?_append_iff {b : UInt8} (h : ∀ c ∈ more.head?, c ≠ b) :
    (text ++ more).head? = some b ↔ text.head? = some b := by
  cases text with
  | nil => exact iff_of_false (fun hb => h b hb rfl) (by simp)
  | cons c text => exact Iff.rfl

theorem scanFixed_append {digit : UInt8 → Bool} (text : Bytes) (hdigit : ∀ b ∈ more.head?, digit b = false)
    (hpoint : ∀ b ∈ more.head?, b ≠ 46) :
    scanFixed digit (text ++ more) =
      ((scanFixed digit text).1, (scanFixed digit text).2.1, (scanFixed digit text).2.2 ++ more) := by
  obtain ⟨hwhole, hbehind⟩ := takeWhile_stop hdigit text
  rw [scanFixed, scanFixed, hwhole, hbehind]
  dsimp only
  rw [if_congr (head?_append_iff hpoint) rfl rfl]
  split
  · next hhead =>
    obtain ⟨rest, hrest⟩ : ∃ rest, text.dropWhile digit = 46 :: rest := by
      cases hdrop : text.dropWhile digit with
      | nil => simp [hdrop] at hhead
      | cons b rest =>
        rw [hdrop] at hhead
        exact ⟨rest, congrArg (· :: rest) (Option.some.inj hhead)⟩
    obtain ⟨hdecimals, hafter⟩ := takeWhile_stop hdigit rest
    rw [hrest, List.cons_append, List.tail_cons, List.tail_cons, hdecimals, hafter]
  · rfl

theorem scanExponent_append (letter : UInt8) (hletter : isAlnum letter = true)
    (hmore : ∀ b ∈ more.head?, endsNumber b = true) :
    scanExponent letter (text ++ more) = scanExponent letter text := by
  cases text with
  | nil =>
    cases more with
    | nil => rfl
    | cons b more =>
      have hne := tolower_ne_of_endsNumber (hmore b rfl) hletter
      simp [scanExponent, hne]
  | cons b text =>
    have hdigits := takeWhile_stop (p := isDigit)
      fun b (hb : b ∈ more.head?) => not_isDigit_of_endsNumber (hmore b hb)
    have hsign : ∀ sign : UInt8, endsNumber sign = false →
        ((text ++ more).head? = some sign ↔ text.head? = some sign) := fun sign hsign =>
      head?_append_iff fun c hc heq => by
        rw [← heq, hmore c hc] at hsign
        cases hsign
    have htail : (if (text ++ more).head? = some 45 ∨ (text ++ more).head? = some 43
          then (text ++ more).tail else text ++ more).takeWhile isDigit =
        (if text.head? = some 45 ∨ text.head? = some 43 then text.tail else text).takeWhile
          isDigit := by
      simp only [hsign 45 (by decide), hsign 43 (by decide)]
      split
      · next hhead =>
        cases text with
        | nil => simp at hhead
        | cons c text => exact (hdigits text).1
      · exact (hdigits text).1
    have hnegative := hsign 45 (by decide)
    rw [scanExponent, scanExponent, List.cons_append, List.head?_cons, List.head?_cons,
      List.tail_cons, List.tail_cons]
    simp only [hnegative] at htail ⊢
    rw [htail]

/-- White space in front of a number is skipped. -/
theorem strtod_of_blank (hblank : text.dropWhile isSpace = []) (more : Bytes) :
    strtod (text ++ more) = strtod more := by
  have hspaces : ∀ b ∈ text, isSpace b = true := List.dropWhile_eq_nil_iff.mp hblank
  have hzero : ∀ b ∈ text, decide (b ≠ 0) = true := fun b hb => by
    have hb := hspaces b hb
    refine decide_eq_true fun h => ?_
    rw [h] at hb
    exact absurd hb (by decide)
  have hbody : (cString (text ++ more)).dropWhile isSpace = (cString more).dropWhile isSpace := by
    rw [cString, List.takeWhile_append_of_pos hzero, List.dropWhile_append, hblank]
    rfl
  rw [strtod, hbody, strtod]

/-- What `strtod` sees of a text, when more text stands behind it. -/
theorem cString_append_cases (text more : Bytes) :
    cString (text ++ more) = cString text ∨
      cString text = text ∧ cString (text ++ more) = text ++ cString more := by
  rw [cString, cString, cString, List.takeWhile_append]
  split
  · next hlength =>
    have hwhole : text.takeWhile (fun b => decide (b ≠ 0)) = text :=
      (List.takeWhile_prefix _).eq_of_length hlength
    exact .inr ⟨hwhole, rfl⟩
  · exact .inl rfl

theorem head?_of_cString {b : UInt8} (h : b ∈ (cString text).head?) : b ∈ text.head? := by
  cases text with
  | nil => cases h
  | cons c text =>
    rw [cString, List.takeWhile_cons] at h
    split at h
    · exact h
    · cases h

/-- A word of letters and digits in front of a text, in small letters. -/
theorem prefix_tolower_append (text word : Bytes) (hword : ∀ b ∈ word, isAlnum b = true)
    (hmore : ∀ b ∈ more.head?, endsNumber b = true) :
    word <+: (text ++ more).map tolower ↔ word <+: text.map tolower := by
  rw [List.map_append]
  refine prefix_append_iff fun b hb hmem => ?_
  rw [List.head?_map] at hb
  obtain ⟨c, hc, rfl⟩ := Option.map_eq_some_iff.mp hb
  exact tolower_ne_of_endsNumber (hmore c hc) (hword _ hmem) rfl

/-- A number ends in front of a byte that none goes on with. -/
theorem strtod_append (htext : text.dropWhile isSpace ≠ [])
    (hmore : ∀ b ∈ more.head?, endsNumber b = true) : strtod (text ++ more) = strtod text := by
  rcases cString_append_cases text more with hcut | ⟨hwhole, hcut⟩
  · rw [strtod, hcut, strtod]
  obtain ⟨b, body, hbody⟩ := List.exists_cons_of_ne_nil htext
  have hdrop : (text ++ cString more).dropWhile isSpace = b :: body ++ cString more := by
    rw [List.dropWhile_append, hbody]
    rfl
  have hleft : ∀ c ∈ (cString more).head?, endsNumber c = true := fun c hc =>
    hmore c (head?_of_cString hc)
  -- behind the sign
  have hunsigned : (if b = 45 ∨ b = 43 then body ++ cString more else b :: body ++ cString more) =
      (if b = 45 ∨ b = 43 then body else b :: body) ++ cString more := by
    split <;> rfl
  rw [strtod, hcut, hdrop, strtod, hwhole, hbody]
  simp only [List.cons_append, List.head?_cons, List.tail_cons, Option.some.injEq]
  rw [← List.cons_append, hunsigned]
  generalize (if b = 45 ∨ b = 43 then body else b :: body) = unsigned
  have hinf := prefix_tolower_append unsigned (ascii "inf") (by decide) hleft
  have hnan := prefix_tolower_append unsigned (ascii "nan") (by decide) hleft
  have hhex := prefix_tolower_append unsigned (ascii "0x") (by decide) hleft
  have hpoint : ∀ c ∈ (cString more).head?, c ≠ 46 := fun c hc =>
    (endsNumber_iff.mp (hleft c hc)).2.2.2
  have hdecimal := scanFixed_append unsigned
    (fun c hc => not_isDigit_of_endsNumber (hleft c hc)) hpoint
  simp only [hinf, hnan, hhex, hdecimal, scanExponent_append 101 (by decide) hleft]
  by_cases hzero : ascii "0x" <+: unsigned.map tolower
  · have htwo : 2 ≤ unsigned.length := by
      have hle := hzero.length_le
      rwa [List.length_map] at hle
    have hhexadecimal := scanFixed_append (unsigned.drop 2)
      (fun c hc => not_isXDigit_of_endsNumber (hleft c hc)) hpoint
    rw [List.drop_append_of_le_length htwo, hhexadecimal]
    simp only [scanExponent_append 112 (by decide) hleft]
  · simp only [hzero, false_and, if_false]

/-- Such a byte begins no number. -/
theorem strtod_of_endsNumber {b : UInt8} (hspace : isSpace b = false) (hend : endsNumber b = true)
    (rest : Bytes) : strtod (b :: rest) = .finite false 0 1 := by
  have hhead : ∀ c ∈ (cString (b :: rest)).head?, c = b := fun c hc =>
    (Option.some.inj (head?_of_cString hc)).symm
  have hends : ∀ c ∈ (cString (b :: rest)).head?, endsNumber c = true := fun c hc => by
    rw [hhead c hc, hend]
  have hdrop := (takeWhile_stop (p := isSpace) (fun c hc => by rw [hhead c hc, hspace]) []).2
  rw [strtod]
  rw [List.nil_append] at hdrop
  generalize cString (b :: rest) = body at *
  have hsign : ∀ sign : UInt8, endsNumber sign = false → (body.head? = some sign ↔ False) :=
    fun sign hsign => iff_of_false (fun h => by
      rw [hends sign h] at hsign
      cases hsign) id
  have hinf := prefix_tolower_append [] (ascii "inf") (by decide) hends
  have hnan := prefix_tolower_append [] (ascii "nan") (by decide) hends
  have hhex := prefix_tolower_append [] (ascii "0x") (by decide) hends
  have hdecimal := scanFixed_append []
    (fun c hc => not_isDigit_of_endsNumber (hends c hc))
    (fun c hc => (endsNumber_iff.mp (hends c hc)).2.2.2)
  rw [List.nil_append] at hinf hnan hhex hdecimal
  rw [hdrop]
  simp only [List.dropWhile_nil, List.nil_append, hsign 45 (by decide), hsign 43 (by decide),
    or_self, if_false, hinf, hnan, hhex, hdecimal]
  rfl

end Lib
