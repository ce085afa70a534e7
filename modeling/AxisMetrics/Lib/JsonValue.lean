import AxisMetrics.Lib.Json
import AxisMetrics.Lib.Utf8

/-!
# JSON documents

A reader for JSON values on the bytes of a text. Numbers are kept as they are written, strings have to
be UTF-8, and there is no white space between tokens. `Reads` says what comes of a text wherever it
stands, a value or nothing.
-/

namespace Lib

/-- A JSON value. -/
inductive Json where
  | null
  | bool (b : Bool)
  | number (text : Bytes)
  | string (s : Bytes)
  | array (items : List Json)
  | object (members : List (Bytes × Json))

/-- The bytes numbers are made of. -/
def isNumberByte (b : UInt8) : Bool :=
  isDigit b || b == 43 || b == 45 || b == 46 || b == 69 || b == 101

/-- At least one digit, and what follows the digits. -/
def jsonDigits : Bytes → Option Bytes
  | [] => none
  | b :: rest => if isDigit b then some (rest.dropWhile isDigit) else none

/-- The whole part of a number, without a zero in front, and what follows. -/
def jsonWhole : Bytes → Option Bytes
  | [] => none
  | b :: rest => if b = 48 then some rest else jsonDigits (b :: rest)

/-- The decimals of a number, if there is a point. -/
def jsonFraction : Bytes → Option Bytes
  | [] => some []
  | b :: rest => if b = 46 then jsonDigits rest else some (b :: rest)

/-- The exponent of a number, if there is one. -/
def jsonExponent : Bytes → Option Bytes
  | [] => some []
  | b :: rest =>
    if b = 69 ∨ b = 101 then
      jsonDigits (if rest.head? = some 43 ∨ rest.head? = some 45 then rest.tail else rest)
    else some (b :: rest)

/-- A JSON number. -/
def isJsonNumber (text : Bytes) : Bool :=
  (((jsonWhole (if text.head? = some 45 then text.tail else text)).bind jsonFraction).bind
    jsonExponent) == some []

/-- A value that is a word or a number. -/
def jsonScalar (text : Bytes) : Option (Json × Bytes) :=
  if ascii "null" <+: text then some (.null, text.drop 4)
  else if ascii "true" <+: text then some (.bool true, text.drop 4)
  else if ascii "false" <+: text then some (.bool false, text.drop 5)
  else if isJsonNumber (text.takeWhile isNumberByte) then
    some (.number (text.takeWhile isNumberByte), text.dropWhile isNumberByte)
  else none

/-- A string after its opening quote, if it is UTF-8, and what follows it. -/
def jsonText (text : Bytes) : Option (Bytes × Bytes) :=
  (jsonString text).filter fun read => isUtf8 read.1

mutual

/-- A value and what follows it; `fuel` bounds the number of tokens. -/
def jsonValue : ℕ → Bytes → Option (Json × Bytes)
  | 0, _ => none
  | _ + 1, [] => none
  | fuel + 1, b :: rest =>
    if b = 34 then (jsonText rest).map fun read => (.string read.1, read.2)
    else if b = 91 then
      if rest.head? = some 93 then some (.array [], rest.tail)
      else (jsonItems fuel rest).map fun read => (.array read.1, read.2)
    else if b = 123 then
      if rest.head? = some 125 then some (.object [], rest.tail)
      else (jsonPairs fuel rest).map fun read => (.object read.1, read.2)
    else jsonScalar (b :: rest)

/-- The items up to the closing bracket. -/
def jsonItems : ℕ → Bytes → Option (List Json × Bytes)
  | 0, _ => none
  | fuel + 1, text =>
    (jsonValue fuel text).bind fun read =>
      if read.2.head? = some 93 then some ([read.1], read.2.tail)
      else ((expect 44 read.2).bind (jsonItems fuel)).map fun more => (read.1 :: more.1, more.2)

/-- The members up to the closing brace. -/
def jsonPairs : ℕ → Bytes → Option (List (Bytes × Json) × Bytes)
  | 0, _ => none
  | fuel + 1, text =>
    ((expect 34 text).bind jsonText).bind fun key =>
      ((expect 58 key.2).bind (jsonValue fuel)).bind fun read =>
        if read.2.head? = some 125 then some ([(key.1, read.1)], read.2.tail)
        else ((expect 44 read.2).bind (jsonPairs fuel)).map fun more =>
          ((key.1, read.1) :: more.1, more.2)

end

/-- A text that is one value. -/
def jsonDocument (text : Bytes) : Option Json :=
  match jsonValue text.length text with
  | some (value, []) => some value
  | _ => none

/-- Nothing follows that could belong to a number. -/
def Delimits (rest : Bytes) : Prop := ∀ b ∈ rest.head?, isNumberByte b = false

theorem delimits_nil : Delimits [] := fun _ hb => by cases hb

theorem delimits_cons {b : UInt8} (h : isNumberByte b = false) (rest : Bytes) :
    Delimits (b :: rest) := fun c hc => by
  cases hc
  exact h

/-- What comes of reading a text as a value, whatever stands behind it. -/
structure Reads (text : Bytes) (read : Option Json) : Prop where
  head : ∃ b rest, text = b :: rest ∧ b ≠ 93
  value : ∀ fuel rest, text.length ≤ fuel → Delimits rest →
    jsonValue fuel (text ++ rest) = read.map (·, rest)

theorem Reads.jsonDocument {text : Bytes} {read : Option Json} (h : Reads text read) :
    jsonDocument text = read := by
  have hread := h.value text.length [] le_rfl delimits_nil
  rw [List.append_nil] at hread
  rw [Lib.jsonDocument, hread]
  cases read <;> rfl

section Number

variable {text rest : Bytes}

theorem jsonDigits_split (h : jsonDigits text = some rest) :
    ∃ digits, text = digits ++ rest ∧ digits ≠ [] ∧ ∀ b ∈ digits, isDigit b = true := by
  cases text with
  | nil => cases h
  | cons b text =>
    rw [jsonDigits] at h
    split at h
    · next hb =>
      obtain rfl := Option.some.inj h
      refine ⟨b :: text.takeWhile isDigit, ?_, List.cons_ne_nil _ _, ?_⟩
      · rw [List.cons_append, List.takeWhile_append_dropWhile]
      · rintro c (hc | ⟨_, hc⟩)
        · exact hb
        · exact List.mem_takeWhile_imp hc
    · cases h

theorem isNumberByte_of_isDigit {b : UInt8} (h : isDigit b = true) : isNumberByte b = true := by
  rw [isNumberByte, h]
  rfl

/-- The number bytes that a part of a number takes from a text. -/
def TakesNumber (text rest : Bytes) : Prop :=
  ∃ part, text = part ++ rest ∧ ∀ b ∈ part, isNumberByte b = true

theorem TakesNumber.trans {text mid rest : Bytes} (h : TakesNumber text mid)
    (h' : TakesNumber mid rest) : TakesNumber text rest := by
  obtain ⟨part, rfl, hpart⟩ := h
  obtain ⟨part', rfl, hpart'⟩ := h'
  refine ⟨part ++ part', (List.append_assoc _ _ _).symm, fun b hb => ?_⟩
  exact (List.mem_append.mp hb).elim (hpart b) (hpart' b)

theorem takesNumber_refl (text : Bytes) : TakesNumber text text :=
  ⟨[], rfl, fun _ hb => absurd hb List.not_mem_nil⟩

theorem takesNumber_cons {b : UInt8} (hb : isNumberByte b = true) (text : Bytes) :
    TakesNumber (b :: text) text :=
  ⟨[b], rfl, fun _ hc => List.mem_singleton.mp hc ▸ hb⟩

theorem takesNumber_jsonDigits (h : jsonDigits text = some rest) : TakesNumber text rest := by
  obtain ⟨digits, rfl, -, hdigits⟩ := jsonDigits_split h
  exact ⟨digits, rfl, fun b hb => isNumberByte_of_isDigit (hdigits b hb)⟩

theorem takesNumber_jsonWhole (h : jsonWhole text = some rest) : TakesNumber text rest := by
  cases text with
  | nil => cases h
  | cons b text =>
    rw [jsonWhole] at h
    split at h
    · next hb =>
      obtain rfl := Option.some.inj h
      exact takesNumber_cons (hb ▸ by decide) _
    · exact takesNumber_jsonDigits h

theorem takesNumber_jsonFraction (h : jsonFraction text = some rest) : TakesNumber text rest := by
  cases text with
  | nil => exact Option.some.inj h ▸ takesNumber_refl _
  | cons b text =>
    rw [jsonFraction] at h
    split at h
    · next hb => exact (takesNumber_cons (hb ▸ by decide) _).trans (takesNumber_jsonDigits h)
    · exact Option.some.inj h ▸ takesNumber_refl _

theorem takesNumber_jsonExponent (h : jsonExponent text = some rest) : TakesNumber text rest := by
  cases text with
  | nil => exact Option.some.inj h ▸ takesNumber_refl _
  | cons b text =>
    rw [jsonExponent] at h
    split at h
    · next hb =>
      have hletter : isNumberByte b = true := by
        rcases hb with rfl | rfl <;> decide
      refine (takesNumber_cons hletter _).trans (TakesNumber.trans ?_ (takesNumber_jsonDigits h))
      cases text with
      | nil => exact takesNumber_refl _
      | cons c text =>
        split
        · next hsign =>
          have hc : isNumberByte c = true := by
            rcases hsign with hsign | hsign <;> cases hsign <;> decide
          exact takesNumber_cons hc _
        · exact takesNumber_refl _
    · exact Option.some.inj h ▸ takesNumber_refl _

/-- A number is made of number bytes. -/
theorem isNumberByte_of_isJsonNumber (h : isJsonNumber text = true) :
    ∀ b ∈ text, isNumberByte b = true := by
  rw [isJsonNumber, beq_iff_eq] at h
  obtain ⟨afterFraction, hfraction, hexponent⟩ := Option.bind_eq_some_iff.mp h
  obtain ⟨afterWhole, hwhole, hfraction⟩ := Option.bind_eq_some_iff.mp hfraction
  have hunsigned := ((takesNumber_jsonWhole hwhole).trans (takesNumber_jsonFraction hfraction)).trans
    (takesNumber_jsonExponent hexponent)
  have hsigned : TakesNumber text [] := by
    refine TakesNumber.trans ?_ hunsigned
    cases text with
    | nil => exact takesNumber_refl _
    | cons b text =>
      split
      · next hminus =>
        cases hminus
        exact takesNumber_cons (by decide) _
      · exact takesNumber_refl _
  obtain ⟨part, hpart, hbytes⟩ := hsigned
  rw [List.append_nil] at hpart
  rwa [hpart]

theorem ne_nil_of_isJsonNumber (h : isJsonNumber text = true) : text ≠ [] := by
  rintro rfl
  exact absurd h (by decide)

/-- What is no string, array or object, and is read as a scalar. -/
theorem reads_scalar {b : UInt8} {read : Option Json}
    (hopen : b ≠ 34 ∧ b ≠ 91 ∧ b ≠ 93 ∧ b ≠ 123)
    (h : ∀ rest, Delimits rest → jsonScalar (b :: text ++ rest) = read.map (·, rest)) :
    Reads (b :: text) read := by
  refine ⟨⟨b, text, rfl, hopen.2.2.1⟩, fun fuel rest hfuel hrest => ?_⟩
  cases fuel with
  | zero => cases hfuel
  | succ fuel =>
    rw [← h rest hrest, List.cons_append, jsonValue, if_neg hopen.1, if_neg hopen.2.1,
      if_neg hopen.2.2.2]

/-- A number is read as it is written. -/
theorem reads_number (h : isJsonNumber text = true) : Reads text (some (.number text)) := by
  have hbytes := isNumberByte_of_isJsonNumber h
  cases text with
  | nil => exact absurd rfl (ne_nil_of_isJsonNumber h)
  | cons b text =>
    have hb := hbytes b List.mem_cons_self
    have hne : ∀ c, isNumberByte c = false → b ≠ c := fun c hc hbc => by
      rw [hbc, hc] at hb
      cases hb
    refine reads_scalar ⟨hne 34 rfl, hne 91 rfl, hne 93 rfl, hne 123 rfl⟩ fun rest hrest => ?_
    have htake : (b :: text ++ rest).takeWhile isNumberByte = b :: text ∧
        (b :: text ++ rest).dropWhile isNumberByte = rest := by
      rw [List.takeWhile_append_of_pos hbytes, List.dropWhile_append_of_pos hbytes]
      cases rest with
      | nil => exact ⟨List.append_nil _, rfl⟩
      | cons c rest =>
        have hc := hrest c rfl
        rw [List.takeWhile_cons_of_neg (by rw [hc]; exact Bool.false_ne_true),
          List.dropWhile_cons_of_neg (by rw [hc]; exact Bool.false_ne_true), List.append_nil]
        exact ⟨rfl, rfl⟩
    have hword : ∀ c word, isNumberByte c = false → ¬ c :: word <+: b :: text ++ rest :=
      fun c word hc hprefix => hne c hc (List.cons_prefix_cons.mp hprefix).1.symm
    have hnull : ¬ ascii "null" <+: b :: text ++ rest := hword 110 (ascii "ull") rfl
    have htrue : ¬ ascii "true" <+: b :: text ++ rest := hword 116 (ascii "rue") rfl
    have hfalse : ¬ ascii "false" <+: b :: text ++ rest := hword 102 (ascii "alse") rfl
    rw [jsonScalar, if_neg hnull, if_neg htrue, if_neg hfalse, htake.1, htake.2, if_pos h]
    rfl

end Number

theorem reads_null : Reads (ascii "null") (some .null) :=
  reads_scalar (by decide) fun _ _ => rfl

theorem reads_bool (b : Bool) :
    Reads (if b then ascii "true" else ascii "false") (some (.bool b)) := by
  cases b
  · exact reads_scalar (by decide) fun rest _ => rfl
  · exact reads_scalar (by decide) fun rest _ => rfl

section Text

variable {raw s : Bytes} {read : Option Bytes}

/-- What comes of the inside of a string. -/
def ReadsText (raw : Bytes) (read : Option Bytes) : Prop :=
  ∀ rest, jsonText (raw ++ 34 :: rest) = read.map (·, rest)

theorem ReadsText.reads (h : ReadsText raw read) :
    Reads (34 :: raw ++ [34]) (read.map Json.string) := by
  refine ⟨⟨34, raw ++ [34], rfl, by decide⟩, fun fuel rest hfuel _ => ?_⟩
  cases fuel with
  | zero => cases hfuel
  | succ fuel =>
    rw [List.cons_append, List.cons_append, List.append_assoc, jsonValue, if_pos rfl,
      List.singleton_append, h rest, Option.map_map, Option.map_map]
    rfl

/-- A byte that a string may have without a backslash. -/
def IsPlainByte (b : UInt8) : Prop := b ≠ 34 ∧ b ≠ 92 ∧ ¬ b < 32

instance (b : UInt8) : Decidable (IsPlainByte b) := inferInstanceAs (Decidable (_ ∧ _ ∧ _))

/-- Text that stands for itself in a string. -/
def PlainText (s : Bytes) : Prop := (∀ b ∈ s, IsPlainByte b) ∧ isUtf8 s = true

instance (s : Bytes) : Decidable (PlainText s) := inferInstanceAs (Decidable (_ ∧ _))

theorem PlainText.append {s t : Bytes} (hs : PlainText s) (ht : PlainText t) :
    PlainText (s ++ t) :=
  ⟨fun b hb => (List.mem_append.mp hb).elim (hs.1 b) (ht.1 b), isUtf8_append hs.2 ht.2⟩

/-- Letters, digits, underscores and dots are plain. -/
theorem plainText_of_isAlnum {s : Bytes} (h : ∀ b ∈ s, isAlnum b = true ∨ b = 95 ∨ b = 46) :
    PlainText s := by
  have hall : ∀ n < 256, isAlnum (UInt8.ofNat n) = true ∨ UInt8.ofNat n = 95 ∨ UInt8.ofNat n = 46 →
      IsPlainByte (UInt8.ofNat n) ∧ UInt8.ofNat n < 0x80 := by decide +kernel
  have hbyte : ∀ b ∈ s, IsPlainByte b ∧ b < 0x80 := by
    intro b hb
    have hplain := hall b.toNat b.toNat_lt
    rw [UInt8.ofNat_toNat] at hplain
    exact hplain (h b hb)
  exact ⟨fun b hb => (hbyte b hb).1, isUtf8_of_ascii fun b hb => (hbyte b hb).2⟩

/-- Text that a string can hold, with a backslash in front of its quotes and backslashes. -/
def QuotableText (s : Bytes) : Prop := (∀ b ∈ s, ¬ b < 32) ∧ isUtf8 s = true

instance (s : Bytes) : Decidable (QuotableText s) := inferInstanceAs (Decidable (_ ∧ _))

/-- The quotes and backslashes of a text. -/
def isMarked (b : UInt8) : Bool := b = 34 ∨ b = 92

theorem jsonText_of_jsonString {text rest : Bytes} (h : jsonString text = some (s, rest)) :
    jsonText text = if isUtf8 s then some (s, rest) else none := by
  rw [jsonText, h, Option.filter_some]

theorem jsonString_plain (h : ∀ b ∈ s, IsPlainByte b) (rest : Bytes) :
    jsonString (s ++ 34 :: rest) = some (s, rest) := by
  induction s with
  | nil => exact jsonString_quote rest
  | cons b s ih =>
    obtain ⟨⟨hquote, hescape, hcontrol⟩, hs⟩ := List.forall_mem_cons.mp h
    rw [List.cons_append, jsonString_byte hquote hescape hcontrol, ih hs]
    rfl

/-- Plain text is read as it is. -/
theorem readsText_plain (h : PlainText s) : ReadsText s (some s) := fun rest => by
  rw [jsonText_of_jsonString (jsonString_plain h.1 rest), if_pos h.2]
  rfl

/-- A byte that is marked where it has to be. -/
theorem jsonString_markByte {b : UInt8} (hb : ¬ b < 32) (rest : Bytes) :
    jsonString ((if isMarked b then [92, b] else [b]) ++ rest) =
      (jsonString rest).map (consByte b) := by
  by_cases hmarked : isMarked b = true
  · rw [if_pos hmarked]
    rcases of_decide_eq_true hmarked with rfl | rfl
    · exact jsonString_escape (by decide) rfl rest
    · exact jsonString_escape (by decide) rfl rest
  · rw [if_neg hmarked]
    have hother := not_or.mp fun h => hmarked (decide_eq_true h)
    exact jsonString_byte hother.1 hother.2 hb rest

/-- No mark helps a control character. -/
theorem jsonString_mark_control (hcontrol : ¬ ∀ b ∈ s, ¬ b < 32) (rest : Bytes) :
    jsonString ((s.flatMap fun b => if isMarked b then [92, b] else [b]) ++ 34 :: rest) = none := by
  induction s with
  | nil => exact absurd (fun _ hb => absurd hb List.not_mem_nil) hcontrol
  | cons b s ih =>
    rw [List.flatMap_cons, List.append_assoc]
    by_cases hb : b < 32
    · have hmarked : ¬ isMarked b = true := fun h => by
        rcases of_decide_eq_true h with rfl | rfl <;> exact absurd hb (by decide)
      rw [if_neg hmarked, List.singleton_append, jsonString.eq_def]
      dsimp only
      rw [if_neg (by rintro rfl; exact absurd hb (by decide)), if_pos hb]
    · rw [jsonString_markByte hb, ih fun h => hcontrol (List.forall_mem_cons.mpr ⟨hb, h⟩)]
      rfl

/-- Marking quotes and backslashes is enough just for text without control characters. -/
theorem readsText_mark (s : Bytes) :
    ReadsText (s.flatMap fun b => if isMarked b then [92, b] else [b])
      (if QuotableText s then some s else none) := by
  intro rest
  by_cases hcontrol : ∀ b ∈ s, ¬ b < 32
  · have hread : jsonString ((s.flatMap fun b => if isMarked b then [92, b] else [b]) ++ 34 :: rest) =
        some (s, rest) :=
      jsonString_flatMap (fun b hb rest => jsonString_markByte (hcontrol b hb) rest) rest
    rw [jsonText_of_jsonString hread]
    by_cases hutf8 : isUtf8 s = true
    · rw [if_pos hutf8, if_pos ⟨hcontrol, hutf8⟩]
      rfl
    · rw [if_neg hutf8, if_neg fun h => hutf8 h.2]
      rfl
  · rw [if_neg fun h => hcontrol h.1, jsonText, jsonString_mark_control hcontrol]
    rfl

/-- A byte of a string, as it is written: one byte or more, with no more quotes than are read. -/
theorem jsonString_cases {text out rest : Bytes} (h : jsonString text = some (out, rest)) :
    (text = 34 :: rest ∧ out = []) ∨
      ∃ written b text' out', text = written ++ text' ∧ out = b :: out' ∧
        jsonString text' = some (out', rest) ∧ written.length ≠ 0 ∧
        written.count 34 ≤ [b].count 34 ∧ (written.length = 1 → written = [b] ∧ IsPlainByte b) := by
  have hcons : ∀ {text' : Bytes} {b : UInt8},
      (jsonString text').map (consByte b) = some (out, rest) →
        ∃ out', out = b :: out' ∧ jsonString text' = some (out', rest) := by
    intro text' b hmap
    obtain ⟨⟨out', rest'⟩, hread, hsame⟩ := Option.map_eq_some_iff.mp hmap
    obtain ⟨rfl, rfl⟩ := Prod.mk.inj hsame
    exact ⟨out', rfl, hread⟩
  rw [jsonString.eq_def] at h
  split at h
  · cases h
  · next b text =>
    split_ifs at h with hquote hcontrol hescape
    · cases h
      exact .inl ⟨by rw [hquote], rfl⟩
    · obtain ⟨out', hout, hread⟩ := hcons h
      exact .inr ⟨[b], b, text, out', rfl, hout, hread, Nat.one_ne_zero, le_rfl,
        fun _ => ⟨rfl, hquote, hescape, hcontrol⟩⟩
    · obtain rfl := not_not.mp hescape
      split at h
      · cases h
      · next e text =>
        split_ifs at h with hhex
        · split at h
          · next h₁ h₂ h₃ h₄ text =>
            split_ifs at h with hdigits
            obtain ⟨out', hout, hread⟩ := hcons h
            refine .inr ⟨[92, e, h₁, h₂, h₃, h₄], _, text, out', rfl, hout, hread, by simp, ?_, by simp⟩
            have hne : ∀ d, isXDigit d = true → ¬ d = 34 := by
              rintro d hd rfl
              exact absurd hd (by decide)
            rw [hhex]
            simp [List.count_cons, hne _ hdigits.1, hne _ hdigits.2.1, hne _ hdigits.2.2.1,
              hne _ hdigits.2.2.2.1]
          · cases h
        · obtain ⟨byte, hbyte, hmap⟩ := Option.bind_eq_some_iff.mp h
          obtain ⟨out', hout, hread⟩ := hcons hmap
          refine .inr ⟨[92, e], byte, text, out', rfl, hout, hread, by simp, ?_, by simp⟩
          by_cases he : e = 34
          · subst he
            cases hbyte
            decide
          · simp [List.count_cons, he]

/-- What a string is written with: a byte or more for each of its bytes, with no more quotes than it
has, and as many bytes just if it is written as it is. -/
theorem exists_of_jsonString {text out rest : Bytes} (h : jsonString text = some (out, rest)) :
    ∃ written, text = written ++ 34 :: rest ∧ out.length ≤ written.length ∧
      written.count 34 ≤ out.count 34 ∧
      (out.length = written.length → out = written ∧ ∀ b ∈ out, IsPlainByte b) := by
  induction hn : text.length using Nat.strong_induction_on generalizing text out with
  | _ n ih =>
    rcases jsonString_cases h with ⟨rfl, rfl⟩ | ⟨head, b, text', out', rfl, rfl, hread, hpos,
      hcount, hplain⟩
    · exact ⟨[], rfl, le_rfl, le_rfl, fun _ => ⟨rfl, fun _ hb => absurd hb List.not_mem_nil⟩⟩
    · rw [List.length_append] at hn
      obtain ⟨written, rfl, hlength, hquotes, hsame⟩ := ih _ (by omega) hread rfl
      refine ⟨head ++ written, (List.append_assoc _ _ _).symm, ?_, ?_, fun hall => ?_⟩
      · rw [List.length_append, List.length_cons]
        omega
      · rw [List.count_append, ← List.singleton_append, List.count_append]
        omega
      · rw [List.length_append, List.length_cons] at hall
        obtain ⟨rfl, hb⟩ := hplain (by omega)
        obtain ⟨rfl, hbytes⟩ := hsame (by omega)
        exact ⟨rfl, List.forall_mem_cons.mpr ⟨hb, hbytes⟩⟩

/-- Text that is read as it is written is plain. -/
theorem plain_of_jsonString {rest r : Bytes} (h : jsonString (s ++ 34 :: rest) = some (s, r)) :
    (∀ b ∈ s, IsPlainByte b) ∧ r = rest := by
  obtain ⟨written, htext, hlength, hquotes, hsame⟩ := exists_of_jsonString h
  by_cases hwhole : s.length = written.length
  · obtain ⟨rfl, hplain⟩ := hsame hwhole
    exact ⟨hplain, (List.cons.inj (List.append_cancel_left htext)).2.symm⟩
  · -- the quote behind the text would be one of those that are read
    exfalso
    obtain ⟨more, rfl⟩ : s ++ [34] <+: written := by
      have hquoted : s ++ [34] <+: s ++ 34 :: rest :=
        ⟨rest, by rw [List.append_assoc, List.singleton_append]⟩
      refine List.prefix_of_prefix_length_le hquoted ⟨34 :: r, htext.symm⟩ ?_
      rw [List.length_append, List.length_singleton]
      omega
    rw [List.count_append, List.count_append] at hquotes
    simp only [List.count_singleton_self] at hquotes
    omega

/-- Raw text is read as it is just if it is plain. -/
theorem jsonText_raw_iff {rest r : Bytes} :
    jsonText (s ++ 34 :: rest) = some (s, r) ↔ PlainText s ∧ r = rest := by
  constructor
  · intro h
    obtain ⟨hread, hutf8⟩ := Option.filter_eq_some_iff.mp h
    obtain ⟨hplain, hrest⟩ := plain_of_jsonString hread
    exact ⟨⟨hplain, hutf8⟩, hrest⟩
  · rintro ⟨hplain, rfl⟩
    exact readsText_plain hplain r

end Text

end Lib
