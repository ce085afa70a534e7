import AxisMetrics.Lib.JsonValue

/-!
# Writing JSON

A part is a text together with the value it stands for, and whether it is read as that or not at all.
Parts are built up as the text is: a number, a string, an array of parts, an object of them. Where
strings are written as they are, the reader gives them back just if they are plain.
-/

namespace Lib

/-- A text, the value it stands for, and whether it is read as that or not at all. -/
structure JsonPart where
  text : Bytes
  value : Json
  good : Bool

namespace JsonPart

/-- What comes of the text. -/
def read (part : JsonPart) : Option Json := if part.good then some part.value else none

/-- The text is read as it should be. -/
def Sound (part : JsonPart) : Prop := Reads part.text part.read

theorem Sound.jsonDocument {part : JsonPart} (h : part.Sound) :
    jsonDocument part.text = part.read := Reads.jsonDocument h

/-- An array. -/
def array (parts : List JsonPart) : JsonPart :=
  ⟨91 :: [44].intercalate (parts.map text) ++ [93], .array (parts.map value), parts.all good⟩

/-- A key and its value as they are written. -/
def fieldText (field : Bytes × JsonPart) : Bytes := 34 :: field.1 ++ 34 :: 58 :: field.2.text

/-- An object with keys that need no marks. -/
def object (fields : List (Bytes × JsonPart)) : JsonPart :=
  ⟨123 :: [44].intercalate (fields.map fieldText) ++ [125],
    .object (fields.map fun field => (field.1, field.2.value)), fields.all fun field => field.2.good⟩

/-- A string that is written as it is. -/
def raw (s : Bytes) : JsonPart := ⟨34 :: s ++ [34], .string s, true⟩

/-- A string with a backslash in front of its quotes and backslashes. -/
def marked (s : Bytes) : JsonPart :=
  ⟨34 :: (s.flatMap fun b => if isMarked b then [92, b] else [b]) ++ [34], .string s,
    decide (QuotableText s)⟩

/-- A string whose bytes are written in a way of their own. -/
def escaped (escape : UInt8 → Bytes) (s : Bytes) : JsonPart :=
  ⟨34 :: s.flatMap escape ++ [34], .string s, isUtf8 s⟩

/-- A number. -/
def number (text : Bytes) : JsonPart := ⟨text, .number text, true⟩

def null : JsonPart := ⟨ascii "null", .null, true⟩

/-- A truth value. -/
def bool (b : Bool) : JsonPart := ⟨if b then ascii "true" else ascii "false", .bool b, true⟩

theorem sound_raw {s : Bytes} (h : PlainText s) : (raw s).Sound := (readsText_plain h).reads

theorem sound_marked (s : Bytes) : (marked s).Sound := by
  have h := (readsText_mark s).reads
  by_cases hs : QuotableText s
  · rw [if_pos hs] at h
    rwa [Sound, read, marked, decide_eq_true hs]
  · rw [if_neg hs] at h
    rwa [Sound, read, marked, decide_eq_false hs]

theorem sound_escaped {escape : UInt8 → Bytes} (h : ∀ b, JsonPiece b (escape b)) (s : Bytes) :
    (escaped escape s).Sound := by
  have hread : ReadsText (s.flatMap escape) (if isUtf8 s then some s else none) := by
    intro rest
    rw [jsonText_of_jsonString (jsonString_flatMap (fun b _ => (h b).jsonString) rest)]
    split <;> rfl
  have hreads := hread.reads
  rw [Sound, read, escaped]
  cases hs : isUtf8 s <;> rwa [hs] at hreads

theorem sound_number {text : Bytes} (h : isJsonNumber text = true) : (number text).Sound :=
  reads_number h

theorem sound_null : null.Sound := reads_null

theorem sound_bool (b : Bool) : (bool b).Sound := reads_bool b

theorem jsonItems_parts {parts : List JsonPart} (h : ∀ part ∈ parts, part.Sound) (hne : parts ≠ [])
    (rest : Bytes) : ∀ fuel, ([44].intercalate (parts.map text)).length < fuel →
      jsonItems fuel ([44].intercalate (parts.map text) ++ 93 :: rest) =
        if parts.all good then some (parts.map value, rest) else none := by
  induction parts with
  | nil => exact absurd rfl hne
  | cons part parts ih =>
    obtain ⟨hpart, hparts⟩ := List.forall_mem_cons.mp h
    intro fuel hfuel
    cases fuel with
    | zero => cases hfuel
    | succ fuel =>
      cases parts with
      | nil =>
        rw [List.map_singleton, List.intercalate_singleton] at hfuel ⊢
        rw [jsonItems, hpart.value fuel _ (Nat.lt_succ_iff.mp hfuel) (delimits_cons rfl _), read]
        cases hgood : part.good <;> simp [hgood]
      | cons next parts =>
        rw [List.map_cons, List.map_cons, List.intercalate_cons_cons, ← List.map_cons] at hfuel ⊢
        have hmore := ih hparts (List.cons_ne_nil _ _) fuel
        simp only [List.length_append, List.length_singleton] at hfuel
        rw [jsonItems, List.append_assoc, List.append_assoc, List.singleton_append,
          hpart.value fuel _ (by omega) (delimits_cons rfl _), read, List.all_cons]
        cases hgood : part.good with
        | false => rfl
        | true =>
          rw [if_pos rfl, Option.map_some, Option.bind_some]
          dsimp only
          rw [List.head?_cons, if_neg (by decide), expect_cons, Option.bind_some,
            hmore (by omega), Bool.true_and]
          exact Option.map_if

theorem sound_array {parts : List JsonPart} (h : ∀ part ∈ parts, part.Sound) :
    (array parts).Sound := by
  refine ⟨⟨91, _, rfl, by decide⟩, fun fuel rest hfuel _ => ?_⟩
  change (91 :: [44].intercalate (parts.map text) ++ [93]).length ≤ fuel at hfuel
  change jsonValue fuel (91 :: [44].intercalate (parts.map text) ++ [93] ++ rest) = _
  cases fuel with
  | zero => cases hfuel
  | succ fuel =>
    rw [List.cons_append, List.cons_append, List.append_assoc, List.singleton_append, jsonValue,
      if_neg (by decide), if_pos rfl]
    simp only [List.length_append, List.length_cons, List.length_nil] at hfuel
    cases parts with
    | nil => rfl
    | cons part parts =>
      have hhead : ([44].intercalate ((part :: parts).map text) ++ 93 :: rest).head? ≠ some 93 := by
        obtain ⟨b, more, htext, hb⟩ := (h part List.mem_cons_self).head
        cases parts with
        | nil =>
          rw [List.map_singleton, List.intercalate_singleton, htext]
          exact fun h => hb (Option.some.inj h)
        | cons next parts =>
          rw [List.map_cons, List.map_cons, List.intercalate_cons_cons, htext]
          exact fun h => hb (Option.some.inj h)
      rw [if_neg hhead, jsonItems_parts h (List.cons_ne_nil _ _) rest fuel (by omega), read, array]
      rw [Option.map_if, Option.map_if]

/-- A member whose key needs no marks. -/
theorem jsonPairs_field {field : Bytes × JsonPart} (hkey : PlainText field.1) (rest : Bytes)
    (fuel : ℕ) : jsonPairs (fuel + 1) (fieldText field ++ rest) =
      (jsonValue fuel (field.2.text ++ rest)).bind fun read =>
        if read.2.head? = some 125 then some ([(field.1, read.1)], read.2.tail)
        else ((expect 44 read.2).bind (jsonPairs fuel)).map fun more =>
          ((field.1, read.1) :: more.1, more.2) := by
  rw [fieldText, List.append_assoc, List.cons_append, List.cons_append, List.cons_append, jsonPairs,
    expect_cons, Option.bind_some, readsText_plain hkey]
  rfl

theorem jsonPairs_fields {fields : List (Bytes × JsonPart)}
    (h : ∀ field ∈ fields, PlainText field.1 ∧ field.2.Sound) (hne : fields ≠ []) (rest : Bytes) :
    ∀ fuel, ([44].intercalate (fields.map fieldText)).length < fuel →
      jsonPairs fuel ([44].intercalate (fields.map fieldText) ++ 125 :: rest) =
        if fields.all fun field => field.2.good then
          some (fields.map fun field => (field.1, field.2.value), rest) else none := by
  induction fields with
  | nil => exact absurd rfl hne
  | cons field fields ih =>
    obtain ⟨⟨hkey, hpart⟩, hfields⟩ := List.forall_mem_cons.mp h
    intro fuel hfuel
    have hlength : field.2.text.length + 3 ≤ (fieldText field).length := by
      rw [fieldText, List.length_append, List.length_cons, List.length_cons, List.length_cons]
      omega
    cases fuel with
    | zero => cases hfuel
    | succ fuel =>
      cases fields with
      | nil =>
        rw [List.map_singleton, List.intercalate_singleton] at hfuel ⊢
        rw [jsonPairs_field hkey, hpart.value fuel _ (by omega) (delimits_cons rfl _), read]
        cases hgood : field.2.good <;> simp [hgood]
      | cons next fields =>
        rw [List.map_cons, List.map_cons, List.intercalate_cons_cons, ← List.map_cons] at hfuel ⊢
        have hmore := ih hfields (List.cons_ne_nil _ _) fuel
        simp only [List.length_append, List.length_singleton] at hfuel
        rw [List.append_assoc, List.append_assoc, List.singleton_append, jsonPairs_field hkey,
          hpart.value fuel _ (by omega) (delimits_cons rfl _), read,
          List.all_cons]
        cases hgood : field.2.good with
        | false => rfl
        | true =>
          rw [if_pos rfl, Option.map_some, Option.bind_some]
          dsimp only
          rw [List.head?_cons, if_neg (by decide), expect_cons, Option.bind_some,
            hmore (by omega), Bool.true_and]
          exact Option.map_if

/-- An object with members is read member by member. -/
theorem jsonValue_object {fields : List (Bytes × JsonPart)} (hne : fields ≠ []) (rest : Bytes)
    (fuel : ℕ) : jsonValue (fuel + 1) (123 :: ([44].intercalate (fields.map fieldText) ++ rest)) =
      (jsonPairs fuel ([44].intercalate (fields.map fieldText) ++ rest)).map fun read =>
        (.object read.1, read.2) := by
  have hhead : ([44].intercalate (fields.map fieldText) ++ rest).head? = some 34 := by
    cases fields with
    | nil => exact absurd rfl hne
    | cons field fields =>
      cases fields with
      | nil => rfl
      | cons next fields =>
        rw [List.map_cons, List.map_cons, List.intercalate_cons_cons]
        rfl
  rw [jsonValue, if_neg (by decide), if_neg (by decide), if_pos rfl, hhead, if_neg (by decide)]

theorem sound_object {fields : List (Bytes × JsonPart)}
    (h : ∀ field ∈ fields, PlainText field.1 ∧ field.2.Sound) : (object fields).Sound := by
  refine ⟨⟨123, _, rfl, by decide⟩, fun fuel rest hfuel _ => ?_⟩
  change (123 :: [44].intercalate (fields.map fieldText) ++ [125]).length ≤ fuel at hfuel
  change jsonValue fuel (123 :: [44].intercalate (fields.map fieldText) ++ [125] ++ rest) = _
  cases fuel with
  | zero => cases hfuel
  | succ fuel =>
    simp only [List.length_append, List.length_cons, List.length_nil] at hfuel
    by_cases hne : fields = []
    · subst hne
      rfl
    · rw [List.append_assoc, List.cons_append, List.singleton_append, jsonValue_object hne,
        jsonPairs_fields h hne rest fuel (by omega), read, object]
      rw [Option.map_if, Option.map_if]

/-- A string that is read as it is written is plain, and the next member comes behind it. -/
theorem plain_of_jsonPairs {key s rest r : Bytes} (hkey : PlainText key) {fuel : ℕ}
    {members : List (Bytes × Json)}
    (h : jsonPairs fuel (fieldText (key, raw s) ++ 44 :: rest) =
      some ((key, .string s) :: members, r)) :
    PlainText s ∧ ∃ fuel, jsonPairs fuel rest = some (members, r) := by
  cases fuel with
  | zero => cases h
  | succ fuel =>
    rw [jsonPairs_field hkey] at h
    obtain ⟨⟨value, after⟩, hvalue, hmore⟩ := Option.bind_eq_some_iff.mp h
    have hstring : value = .string s := by
      split at hmore
      · exact (Prod.mk.inj (List.cons.inj (Prod.mk.inj (Option.some.inj hmore)).1).1).2
      · obtain ⟨more, -, hsame⟩ := Option.map_eq_some_iff.mp hmore
        exact (Prod.mk.inj (List.cons.inj (Prod.mk.inj hsame).1).1).2
    rw [hstring] at hvalue hmore
    cases fuel with
    | zero => cases hvalue
    | succ fuel =>
      obtain ⟨⟨read, after'⟩, hread, hsame⟩ := Option.map_eq_some_iff.mp hvalue
      obtain ⟨hs, hafter⟩ := Prod.mk.inj hsame
      change jsonText (s ++ [34] ++ 44 :: rest) = _ at hread
      rw [show read = s from Json.string.inj hs, show after' = after from hafter,
        List.append_assoc] at hread
      obtain ⟨hplain, hrest⟩ := jsonText_raw_iff.mp hread
      rw [hrest] at hmore
      obtain ⟨more, hpairs, hsame⟩ := Option.map_eq_some_iff.mp hmore
      obtain ⟨hmembers, hend⟩ := Prod.mk.inj hsame
      refine ⟨hplain, fuel + 1, hpairs.trans ?_⟩
      rw [← (List.cons.inj hmembers).2, ← hend]

end JsonPart

/-- An object whose first members are these strings. -/
def Json.StartsWith (value : Json) (texts : List (Bytes × Bytes)) : Prop :=
  ∃ more, value = .object (texts.map (fun text => (text.1, .string text.2)) ++ more)

namespace JsonPart

/-- Strings that are written as they are. -/
def raws (texts : List (Bytes × Bytes)) : List (Bytes × JsonPart) :=
  texts.map fun text => (text.1, raw text.2)

theorem plain_of_jsonPairs_raws {texts : List (Bytes × Bytes)} {fields : List (Bytes × JsonPart)}
    {rest r : Bytes} {more : List (Bytes × Json)} (hkeys : ∀ text ∈ texts, PlainText text.1)
    (hfields : fields ≠ []) (fuel : ℕ)
    (h : jsonPairs fuel ([44].intercalate ((raws texts ++ fields).map fieldText) ++ rest) =
      some (texts.map (fun text => (text.1, Json.string text.2)) ++ more, r)) :
    ∀ text ∈ texts, PlainText text.2 := by
  induction texts generalizing fuel with
  | nil => exact fun _ h => absurd h List.not_mem_nil
  | cons text texts ih =>
    obtain ⟨hkey, hkeys⟩ := List.forall_mem_cons.mp hkeys
    have hne : (raws texts ++ fields).map fieldText ≠ [] := by
      rw [Ne, List.map_eq_nil_iff]
      exact List.append_ne_nil_of_right_ne_nil _ hfields
    rw [raws, List.map_cons, List.cons_append, List.map_cons, ← raws,
      List.intercalate_cons_of_ne_nil hne, List.append_assoc, List.append_assoc,
      List.singleton_append] at h
    obtain ⟨hplain, fuel, hmore⟩ := plain_of_jsonPairs hkey h
    exact List.forall_mem_cons.mpr ⟨hplain, ih hkeys fuel hmore⟩

/-- Strings that are written as they are and read back are plain. -/
theorem plain_of_startsWith {texts : List (Bytes × Bytes)} {fields : List (Bytes × JsonPart)}
    (hkeys : ∀ text ∈ texts, PlainText text.1) (hfields : fields ≠ []) {value : Json}
    (hdocument : jsonDocument (object (raws texts ++ fields)).text = some value)
    (hstarts : value.StartsWith texts) : ∀ text ∈ texts, PlainText text.2 := by
  obtain ⟨more, rfl⟩ := hstarts
  rw [Lib.jsonDocument] at hdocument
  split at hdocument
  · next value hvalue =>
    obtain rfl := Option.some.inj hdocument
    have hne : raws texts ++ fields ≠ [] := List.append_ne_nil_of_right_ne_nil _ hfields
    change jsonValue ([44].intercalate ((raws texts ++ fields).map fieldText) ++ [125]).length.succ
      (123 :: ([44].intercalate ((raws texts ++ fields).map fieldText) ++ [125])) = _ at hvalue
    rw [jsonValue_object hne] at hvalue
    obtain ⟨⟨members, r⟩, hpairs, hsame⟩ := Option.map_eq_some_iff.mp hvalue
    rw [show members = _ from Json.object.inj (Prod.mk.inj hsame).1] at hpairs
    exact plain_of_jsonPairs_raws hkeys hfields _ hpairs
  · cases hdocument

end JsonPart

end Lib
