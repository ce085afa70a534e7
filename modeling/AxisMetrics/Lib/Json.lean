import AxisMetrics.Lib.CText

/-!
# JSON objects of strings

A reader for objects whose members are strings, on the bytes of a UTF-8 text, and what a
writer needs so that the reader gives back its members. All bytes with a meaning in JSON are
ASCII, so the bytes of other characters pass as they are. The reader takes no white space
between tokens and no `\u` escape above ASCII; no writer here uses either.
-/

namespace Lib

/-- The value of four hexadecimal digits. -/
def hex4 (a b c d : UInt8) : ℕ :=
  ((xdigitValue a * 16 + xdigitValue b) * 16 + xdigitValue c) * 16 + xdigitValue d

/-- What follows a backslash and one more byte. -/
def jsonEscape (b : UInt8) : Option UInt8 :=
  if b = 34 then some 34
  else if b = 92 then some 92
  else if b = 47 then some 47
  else if b = 98 then some 8
  else if b = 102 then some 12
  else if b = 110 then some 10
  else if b = 114 then some 13
  else if b = 116 then some 9
  else none

/-- One more byte of a string that has been read. -/
def consByte (b : UInt8) (read : Bytes × Bytes) : Bytes × Bytes := (b :: read.1, read.2)

/-- The inside of a string after its opening quote, and what follows the closing quote. -/
def jsonString : Bytes → Option (Bytes × Bytes)
  | [] => none
  | b :: rest =>
    if b = 34 then some ([], rest)
    else if b < 32 then none
    else if b ≠ 92 then (jsonString rest).map (consByte b)
    else match rest with
      | [] => none
      | e :: rest =>
        if e = 117 then
          match rest with
          | h₁ :: h₂ :: h₃ :: h₄ :: rest =>
            if isXDigit h₁ ∧ isXDigit h₂ ∧ isXDigit h₃ ∧ isXDigit h₄ ∧ hex4 h₁ h₂ h₃ h₄ < 128 then
              (jsonString rest).map (consByte (UInt8.ofNat (hex4 h₁ h₂ h₃ h₄)))
            else none
          | _ => none
        else (jsonEscape e).bind fun byte => (jsonString rest).map (consByte byte)

theorem jsonString_quote (rest : Bytes) : jsonString (34 :: rest) = some ([], rest) := by
  rw [jsonString.eq_def]
  exact if_pos rfl

theorem jsonString_byte {b : UInt8} (hquote : b ≠ 34) (hescape : b ≠ 92) (hcontrol : ¬ b < 32)
    (rest : Bytes) : jsonString (b :: rest) = (jsonString rest).map (consByte b) := by
  rw [jsonString.eq_def]
  dsimp only
  rw [if_neg hquote, if_neg hcontrol, if_pos hescape]

theorem jsonString_escape {e byte : UInt8} (hhex : e ≠ 117) (he : jsonEscape e = some byte)
    (rest : Bytes) : jsonString (92 :: e :: rest) = (jsonString rest).map (consByte byte) := by
  rw [jsonString.eq_def]
  dsimp only
  rw [if_neg (by decide), if_neg (by decide), if_neg (by decide), if_neg hhex, he, Option.bind_some]

theorem jsonString_hex {h₁ h₂ h₃ h₄ : UInt8} (hdigits : isXDigit h₁ ∧ isXDigit h₂ ∧ isXDigit h₃ ∧
      isXDigit h₄ ∧ hex4 h₁ h₂ h₃ h₄ < 128) (rest : Bytes) :
    jsonString (92 :: 117 :: h₁ :: h₂ :: h₃ :: h₄ :: rest) =
      (jsonString rest).map (consByte (UInt8.ofNat (hex4 h₁ h₂ h₃ h₄))) := by
  rw [jsonString.eq_def]
  dsimp only
  rw [if_neg (by decide), if_neg (by decide), if_neg (by decide), if_pos rfl, if_pos hdigits]

/-- One byte that has to come next. -/
def expect (b : UInt8) : Bytes → Option Bytes
  | [] => none
  | c :: rest => if c = b then some rest else none

@[simp]
theorem expect_cons (b : UInt8) (rest : Bytes) : expect b (b :: rest) = some rest := if_pos rfl

/-- The members up to the closing brace; `fuel` bounds their number. -/
def jsonMembers : ℕ → Bytes → Option (List (Bytes × Bytes))
  | 0, _ => none
  | fuel + 1, text => do
    let text ← expect 34 text
    let (key, text) ← jsonString text
    let text ← expect 58 text
    let text ← expect 34 text
    let (value, text) ← jsonString text
    if text = [125] then some [(key, value)]
    else
      let text ← expect 44 text
      let members ← jsonMembers fuel text
      some ((key, value) :: members)

/-- The members of an object, in order. -/
def jsonObject (text : Bytes) : Option (List (Bytes × Bytes)) := do
  let text ← expect 123 text
  if text = [125] then some [] else jsonMembers text.length text

/-- A way to write the bytes of a string that the reader undoes. -/
def Escapes (escape : UInt8 → Bytes) : Prop :=
  ∀ b, b ≠ 0 → ∀ rest, jsonString (escape b ++ rest) =
    (jsonString rest).map (consByte b)

/-- The three ways to write one byte of a string. -/
inductive JsonPiece : UInt8 → Bytes → Prop
  | byte {b : UInt8} : b ≠ 34 → b ≠ 92 → ¬ b < 32 → JsonPiece b [b]
  | escape {e b : UInt8} : e ≠ 117 → ¬ e < 32 → jsonEscape e = some b → JsonPiece b [92, e]
  | hex {h₁ h₂ h₃ h₄ : UInt8} : isXDigit h₁ ∧ isXDigit h₂ ∧ isXDigit h₃ ∧ isXDigit h₄ ∧
      hex4 h₁ h₂ h₃ h₄ < 128 → JsonPiece (UInt8.ofNat (hex4 h₁ h₂ h₃ h₄)) [92, 117, h₁, h₂, h₃, h₄]

theorem JsonPiece.jsonString {b : UInt8} {piece : Bytes} (h : JsonPiece b piece) (rest : Bytes) :
    jsonString (piece ++ rest) = (jsonString rest).map (consByte b) := by
  cases h with
  | byte hquote hescape hcontrol => exact jsonString_byte hquote hescape hcontrol rest
  | escape hhex hcontrol he => exact jsonString_escape hhex he rest
  | hex hdigits => exact jsonString_hex hdigits rest

theorem escapes_of_piece {escape : UInt8 → Bytes} (h : ∀ b, JsonPiece b (escape b)) :
    Escapes escape := fun b _ => (h b).jsonString

/-- A hexadecimal digit is neither a quote nor a backslash nor a control character. -/
theorem ne_of_isXDigit {b : UInt8} (h : isXDigit b = true) : b ≠ 34 ∧ b ≠ 92 ∧ ¬ b < 32 := by
  refine ⟨?_, ?_, ?_⟩
  · rintro rfl
    cases h
  · rintro rfl
    cases h
  · intro hlt
    simp only [isXDigit, isDigit, Bool.or_eq_true, Bool.and_eq_true, decide_eq_true_eq,
      UInt8.le_iff_toNat_le, UInt8.lt_iff_toNat_lt, UInt8.reduceToNat] at h hlt
    omega

theorem JsonPiece.not_control {b : UInt8} {piece : Bytes} (h : JsonPiece b piece) :
    ∀ c ∈ piece, ¬ c < 32 := by
  cases h with
  | byte hquote hescape hcontrol => simpa using hcontrol
  | escape hhex hcontrol he => simpa using hcontrol
  | hex hdigits =>
    obtain ⟨h₁, h₂, h₃, h₄, -⟩ := hdigits
    simp only [List.forall_mem_cons]
    exact ⟨by decide, by decide, (ne_of_isXDigit h₁).2.2, (ne_of_isXDigit h₂).2.2,
      (ne_of_isXDigit h₃).2.2, (ne_of_isXDigit h₄).2.2, List.forall_mem_nil _⟩

/-- Every quote has a backslash in front that is not itself behind one, and the text does not end
in such a backslash. -/
def quotesEscaped : Bytes → Bool
  | [] => true
  | b :: rest =>
    if b = 34 then false
    else if b = 92 then
      match rest with
      | [] => false
      | _ :: rest => quotesEscaped rest
    else quotesEscaped rest

theorem quotesEscaped_byte {b : UInt8} (hquote : b ≠ 34) (hescape : b ≠ 92) (rest : Bytes) :
    quotesEscaped (b :: rest) = quotesEscaped rest := by
  rw [quotesEscaped.eq_def]
  dsimp only
  rw [if_neg hquote, if_neg hescape]

theorem quotesEscaped_escape (e : UInt8) (rest : Bytes) :
    quotesEscaped (92 :: e :: rest) = quotesEscaped rest := by
  rw [quotesEscaped.eq_def]
  rfl

theorem JsonPiece.quotesEscaped {b : UInt8} {piece : Bytes} (h : JsonPiece b piece)
    (rest : Bytes) : quotesEscaped (piece ++ rest) = quotesEscaped rest := by
  cases h with
  | byte hquote hescape hcontrol => exact quotesEscaped_byte hquote hescape rest
  | escape hhex hcontrol he => exact quotesEscaped_escape _ rest
  | hex hdigits =>
    obtain ⟨h₁, h₂, h₃, h₄, -⟩ := hdigits
    refine (quotesEscaped_escape _ _).trans ?_
    refine (quotesEscaped_byte (ne_of_isXDigit h₁).1 (ne_of_isXDigit h₁).2.1 _).trans ?_
    refine (quotesEscaped_byte (ne_of_isXDigit h₂).1 (ne_of_isXDigit h₂).2.1 _).trans ?_
    refine (quotesEscaped_byte (ne_of_isXDigit h₃).1 (ne_of_isXDigit h₃).2.1 _).trans ?_
    exact quotesEscaped_byte (ne_of_isXDigit h₄).1 (ne_of_isXDigit h₄).2.1 rest

variable {escape : UInt8 → Bytes}

/-- A member as it is written. -/
def memberText (escape : UInt8 → Bytes) (member : Bytes × Bytes) : Bytes :=
  34 :: member.1.flatMap escape ++ 34 :: 58 :: 34 :: member.2.flatMap escape ++ [34]

/-- A string whose bytes are all written so that the reader undoes it. -/
theorem jsonString_flatMap {s : Bytes}
    (h : ∀ b ∈ s, ∀ rest, jsonString (escape b ++ rest) = (jsonString rest).map (consByte b))
    (rest : Bytes) : jsonString (s.flatMap escape ++ 34 :: rest) = some (s, rest) := by
  induction s with
  | nil => exact jsonString_quote rest
  | cons b s ih =>
    obtain ⟨hb, hs⟩ := List.forall_mem_cons.mp h
    rw [List.flatMap_cons, List.append_assoc, hb, ih hs]
    rfl

theorem Escapes.jsonString (h : Escapes escape) {s : Bytes} (hs : 0 ∉ s) (rest : Bytes) :
    jsonString (s.flatMap escape ++ 34 :: rest) = some (s, rest) :=
  jsonString_flatMap (fun b hb => h b fun hzero => hs (hzero ▸ hb)) rest

/-- A text of pieces has neither control characters nor quotes of its own. -/
theorem clean_flatMap (h : ∀ b, JsonPiece b (escape b)) (s : Bytes) :
    (∀ c ∈ s.flatMap escape, ¬ c < 32) ∧ quotesEscaped (s.flatMap escape) = true := by
  constructor
  · intro c hc
    obtain ⟨b, -, hb⟩ := List.mem_flatMap.mp hc
    exact (h b).not_control c hb
  · induction s with
    | nil => rfl
    | cons b s ih => rw [List.flatMap_cons, (h b).quotesEscaped, ih]

/-- The reader gives back the members that were written. -/
theorem Escapes.jsonMembers (h : Escapes escape) {members : List (Bytes × Bytes)} {fuel : ℕ}
    (hne : members ≠ []) (hfuel : members.length ≤ fuel)
    (hzero : ∀ member ∈ members, 0 ∉ member.1 ∧ 0 ∉ member.2) :
    jsonMembers fuel ([44].intercalate (members.map (memberText escape)) ++ [125]) =
      some members := by
  induction members generalizing fuel with
  | nil => exact absurd rfl hne
  | cons member members ih =>
    obtain ⟨key, value⟩ := member
    obtain ⟨⟨hkey, hvalue⟩, hrest⟩ := List.forall_mem_cons.mp hzero
    dsimp only at hkey hvalue
    cases fuel with
    | zero => cases hfuel
    | succ fuel =>
      cases members with
      | nil =>
        rw [List.map_singleton, List.intercalate_singleton, memberText]
        simp only [List.cons_append, List.append_assoc, List.nil_append, Lib.jsonMembers,
          expect_cons, h.jsonString hkey, h.jsonString hvalue, Option.bind_eq_bind,
          Option.bind_some, if_true]
      | cons next members =>
        have hmore := ih (List.cons_ne_nil _ _) (Nat.le_of_succ_le_succ hfuel) hrest
        rw [List.map_cons] at hmore
        rw [List.map_cons, List.map_cons, List.intercalate_cons_cons, memberText]
        simp only [List.cons_append, List.append_assoc, List.nil_append, Lib.jsonMembers,
          expect_cons, h.jsonString hkey, h.jsonString hvalue, hmore, Option.bind_eq_bind,
          Option.bind_some]
        exact if_neg fun heq => by cases heq

theorem intercalate_append (separator : Bytes) {l l' : List Bytes} (h : l ≠ []) (h' : l' ≠ []) :
    separator.intercalate (l ++ l') =
      separator.intercalate l ++ separator ++ separator.intercalate l' := by
  induction l with
  | nil => exact absurd rfl h
  | cons a l ih =>
    cases l with
    | nil =>
      rw [List.singleton_append, List.intercalate_cons_of_ne_nil h', List.intercalate_singleton]
    | cons b l =>
      rw [List.cons_append, List.cons_append, List.intercalate_cons_cons, ← List.cons_append,
        ih (List.cons_ne_nil _ _), List.intercalate_cons_cons]
      simp only [List.append_assoc]

/-- A separator behind every text but the last. -/
theorem intercalate_concat (separator last : Bytes) (l : List Bytes) :
    separator.intercalate (l ++ [last]) = (l.flatMap fun text => text ++ separator) ++ last := by
  induction l with
  | nil => exact List.intercalate_singleton
  | cons a l ih =>
    rw [List.cons_append, List.intercalate_cons_of_ne_nil (List.append_ne_nil_of_right_ne_nil _
      (List.cons_ne_nil _ _)), ih, List.flatMap_cons, List.append_assoc, List.append_assoc,
      List.append_assoc]

theorem mem_intercalate {separator : Bytes} {l : List Bytes} {b : UInt8}
    (h : b ∈ separator.intercalate l) : b ∈ separator ∨ ∃ text ∈ l, b ∈ text := by
  induction l with
  | nil => cases h
  | cons a l ih =>
    cases l with
    | nil =>
      rw [List.intercalate_singleton] at h
      exact .inr ⟨a, List.mem_cons_self, h⟩
    | cons a' l =>
      rw [List.intercalate_cons_cons, List.mem_append, List.mem_append] at h
      rcases h with (ha | hseparator) | hl
      · exact .inr ⟨a, List.mem_cons_self, ha⟩
      · exact .inl hseparator
      · exact (ih hl).imp_right fun ⟨text, hmem, hb⟩ => ⟨text, List.mem_cons_of_mem _ hmem, hb⟩

theorem mem_intercalate_of_mem {separator : Bytes} {l : List Bytes} {text : Bytes} {b : UInt8}
    (htext : text ∈ l) (hb : b ∈ text) : b ∈ separator.intercalate l := by
  induction l with
  | nil => cases htext
  | cons a l ih =>
    cases l with
    | nil =>
      rw [List.intercalate_singleton]
      exact List.mem_singleton.mp htext ▸ hb
    | cons a' l =>
      rw [List.intercalate_cons_cons, List.mem_append, List.mem_append]
      rcases List.mem_cons.mp htext with rfl | hmem
      · exact .inl (.inl hb)
      · exact .inr (ih hmem)

/-- A comma between groups of members is a comma between the members. -/
theorem intercalate_flatMap {α : Type} (separator : Bytes) (f : α → List Bytes) (l : List α)
    (hf : ∀ a ∈ l, f a ≠ []) :
    separator.intercalate (l.map fun a => separator.intercalate (f a)) =
      separator.intercalate (l.flatMap f) := by
  induction l with
  | nil => rfl
  | cons a l ih =>
    obtain ⟨ha, hl⟩ := List.forall_mem_cons.mp hf
    cases l with
    | nil => rw [List.map_singleton, List.intercalate_singleton, List.flatMap_singleton]
    | cons a' l =>
      have hne : (a' :: l).flatMap f ≠ [] := by
        rw [List.flatMap_cons]
        exact List.append_ne_nil_of_left_ne_nil (hl a' List.mem_cons_self) _
      rw [List.map_cons, List.flatMap_cons, intercalate_append separator ha hne, ← ih hl,
        List.map_cons, List.intercalate_cons_cons]

/-- There are no more texts than bytes, where none of them is empty. -/
theorem length_le_intercalate {separator : Bytes} {texts : List Bytes}
    (h : ∀ text ∈ texts, text ≠ []) : texts.length ≤ (separator.intercalate texts).length := by
  induction texts with
  | nil => exact Nat.zero_le _
  | cons text texts ih =>
    obtain ⟨htext, htexts⟩ := List.forall_mem_cons.mp h
    have hpos : 1 ≤ text.length := List.length_pos_of_ne_nil htext
    cases texts with
    | nil =>
      rw [List.intercalate_singleton]
      exact hpos
    | cons next texts =>
      have hrest := ih htexts
      rw [List.intercalate_cons_cons]
      simp only [List.length_append, List.length_cons] at hrest ⊢
      omega

/-- Every member has quotes, so a text has fewer members than bytes. -/
theorem length_le_members (escape : UInt8 → Bytes) (members : List (Bytes × Bytes)) :
    members.length ≤ ([44].intercalate (members.map (memberText escape))).length := by
  refine (List.length_map (memberText escape)).ge.trans (length_le_intercalate fun text htext => ?_)
  obtain ⟨member, -, rfl⟩ := List.mem_map.mp htext
  simp [memberText]

theorem Escapes.jsonObject (h : Escapes escape) {members : List (Bytes × Bytes)}
    (hne : members ≠ []) (hzero : ∀ member ∈ members, 0 ∉ member.1 ∧ 0 ∉ member.2) :
    jsonObject (123 :: [44].intercalate (members.map (memberText escape)) ++ [125]) =
      some members := by
  have hlength := length_le_members escape members
  have hpos := List.length_pos_of_ne_nil hne
  rw [List.cons_append, Lib.jsonObject, expect_cons]
  change ite _ _ _ = _
  rw [if_neg, h.jsonMembers hne _ hzero]
  · rw [List.length_append]
    omega
  · intro heq
    have := congrArg List.length heq
    rw [List.length_append] at this
    simp only [List.length_cons, List.length_nil] at this
    omega

end Lib
