import AxisMetrics.Api.Form
import AxisMetrics.Lib.Keyed
import AxisMetrics.Settings.Dialog

/-!
# The settings dialog and the parameters

What one session with the dialog leaves in the parameters: `settingsJson` is read back as it was
written, each field is filled, edited and sent under its own name, and each pair sets the
parameter of its name. `settingsSession_value` says what that comes to for a parameter, and
`sessionKeeps_iff` for which parameters and edits it is what the user asked for.
-/

namespace AxisMetrics

open Lib (Bytes ascii memberText formText ActsAt)

variable {values : ParameterValues} {form : SettingsForm} {edits : Edits}
variable {axParameterSet : Bytes → Bytes → Bool}

-- ════════════════════════════════════════════════════════════════════════
-- The document
-- ════════════════════════════════════════════════════════════════════════

theorem hexDigitLower_spec {n : ℕ} (h : n < 16) :
    Lib.isXDigit (hexDigitLower n) = true ∧ Lib.xdigitValue (hexDigitLower n) = n := by
  have hall : ∀ n < 16, Lib.isXDigit (hexDigitLower n) = true ∧
      Lib.xdigitValue (hexDigitLower n) = n := by decide
  exact hall n h

/-- A control character as `\u` and four digits is that character. -/
theorem jsonPiece_control {b : UInt8} (h : b < 32) : Lib.JsonPiece b
    (ascii "\\u00" ++ [hexDigitLower (b.toNat / 16), hexDigitLower (b.toNat % 16)]) := by
  have hlt : b.toNat < 32 := UInt8.lt_iff_toNat_lt.mp h
  obtain ⟨hhigh, hhighValue⟩ := hexDigitLower_spec (n := b.toNat / 16) (by omega)
  obtain ⟨hlow, hlowValue⟩ := hexDigitLower_spec (n := b.toNat % 16) (by omega)
  have hvalue : Lib.hex4 48 48 (hexDigitLower (b.toNat / 16)) (hexDigitLower (b.toNat % 16)) =
      b.toNat := by
    rw [Lib.hex4, hhighValue, hlowValue, show Lib.xdigitValue 48 = 0 from rfl]
    omega
  have hpiece := @Lib.JsonPiece.hex 48 48 _ _ ⟨rfl, rfl, hhigh, hlow, by omega⟩
  rwa [hvalue, UInt8.ofNat_toNat] at hpiece

theorem jsonPiece_jsonEscapeByte (b : UInt8) : Lib.JsonPiece b (jsonEscapeByte b) := by
  unfold jsonEscapeByte
  split_ifs with hquote hback hnewline hreturn htab hcontrol
  · exact hquote ▸ .escape (e := 34) (by decide) (by decide) (by decide)
  · exact hback ▸ .escape (e := 92) (by decide) (by decide) (by decide)
  · exact hnewline ▸ .escape (e := 110) (by decide) (by decide) (by decide)
  · exact hreturn ▸ .escape (e := 114) (by decide) (by decide) (by decide)
  · exact htab ▸ .escape (e := 116) (by decide) (by decide) (by decide)
  · exact jsonPiece_control hcontrol
  · exact .byte hquote hback hcontrol

/-- `json_append_escaped` writes what a reader of JSON undoes. -/
theorem escapes_jsonEscapeByte : Lib.Escapes jsonEscapeByte :=
  Lib.escapes_of_piece jsonPiece_jsonEscapeByte

/-- What the document shows of a parameter. -/
def shownValue (values : ParameterValues) (p : Parameter) : Bytes :=
  if p.secret then [] else parameterValue values p.name

/-- The members of the document that are about a parameter. -/
def settingsMembers (values : ParameterValues) (p : Parameter) : List (Bytes × Bytes) :=
  (p.name, shownValue values p) ::
    if p.secret then [(p.name ++ ascii "IsSet", yesNo (parameterValue values p.name ≠ []))] else []

theorem settingsEntry_eq (values : ParameterValues) (p : Parameter) :
    settingsEntry values p =
      [44].intercalate ((settingsMembers values p).map (memberText jsonEscapeByte)) := by
  have hyesNo : ∀ b, (yesNo b).flatMap jsonEscapeByte = yesNo b := by decide
  unfold settingsEntry settingsMembers shownValue jsonAppendEscaped
  rw [show ascii "\"" = [34] by decide, show ascii "\":\"" = [34, 58, 34] by decide,
    show ascii ",\"" = [44, 34] by decide,
    show ascii "IsSet\":\"" = ascii "IsSet" ++ [34, 58, 34] by decide]
  cases p.secret with
  | false =>
    simp only [Bool.false_eq_true, if_false, List.map_singleton, List.intercalate_singleton,
      memberText, List.append_nil, List.append_assoc, List.cons_append, List.nil_append]
  | true =>
    simp only [if_true, List.map_cons, List.map_nil, List.intercalate_cons_cons,
      List.intercalate_singleton, memberText, List.flatMap_append, List.flatMap_nil, hyesNo,
      show (ascii "IsSet").flatMap jsonEscapeByte = ascii "IsSet" by decide, List.append_assoc,
      List.cons_append, List.nil_append]

/-- The document as the object of its members. -/
theorem settingsJson_eq (values : ParameterValues) : settingsJson values =
    123 :: [44].intercalate ((PARAMETERS.flatMap (settingsMembers values)).map
      (memberText jsonEscapeByte)) ++ [125] := by
  have hentries : PARAMETERS.map (settingsEntry values) = PARAMETERS.map fun p =>
      [44].intercalate ((settingsMembers values p).map (memberText jsonEscapeByte)) :=
    List.map_congr_left fun p _ => settingsEntry_eq values p
  rw [settingsJson, hentries, List.map_flatMap]
  rw [← Lib.intercalate_flatMap [44] (fun p => (settingsMembers values p).map
    (memberText jsonEscapeByte)) PARAMETERS fun p _ => List.cons_ne_nil _ _]
  rfl

-- ════════════════════════════════════════════════════════════════════════
-- Values that fit
-- ════════════════════════════════════════════════════════════════════════

/-- The bytes of a text. -/
def IsText (value : Bytes) : Prop := ∃ text : List Char, value = text.flatMap String.utf8EncodeChar

/-- The values of the parameters are texts, and those that are shown fit their fields: the field
holds the value as it is, and a checkbox is `"yes"` or `"no"`. -/
structure ValuesFit (values : ParameterValues) : Prop where
  text : ∀ p ∈ PARAMETERS, 0 ∉ parameterValue values p.name ∧ IsText (parameterValue values p.name)
  field : ∀ p ∈ PARAMETERS, ∀ f ∈ FORM_FIELDS, f.name = p.name → p.secret = false →
    sanitize f.kind (parameterValue values p.name) = parameterValue values p.name ∧
    (f.kind = .checkbox → ∃ b, parameterValue values p.name = yesNo b)

/-- The user enters texts. -/
def EditsFit (edits : Edits) : Prop :=
  ∀ name value, edits.texts name = some value → 0 ∉ value ∧ IsText value

/-- The value the user asked for: what the edited field shows, or the old value. A secret field
that is left empty is not edited. -/
def expectedValue (values : ParameterValues) (edits : Edits) (p : Parameter) (f : FormField) :
    Bytes :=
  if f.kind = .checkbox then
    ((edits.checks f.name).map yesNo).getD (parameterValue values p.name)
  else
    match edits.texts f.name with
    | none => parameterValue values p.name
    | some value =>
      if p.secret ∧ sanitize f.kind value = [] then parameterValue values p.name
      else sanitize f.kind value

/-- Every parameter has the value the user asked for. -/
def SessionKeeps (values : ParameterValues) (edits : Edits) (values' : ParameterValues) : Prop :=
  ∀ p ∈ PARAMETERS, ∀ f ∈ FORM_FIELDS, f.name = p.name →
    parameterValue values' p.name = expectedValue values edits p f

-- ════════════════════════════════════════════════════════════════════════
-- Each field under its name
-- ════════════════════════════════════════════════════════════════════════

/-- The tables of the application and of the page agree: no name stands twice, every parameter has
one field, no field has the name of an `IsSet` key, the secret parameters have password fields,
and the list of checkboxes has all checkboxes but one. -/
theorem tables_agree :
    ((PARAMETERS.map Parameter.name).Nodup ∧ (FORM_FIELDS.map FormField.name).Nodup ∧
      (PARAMETERS.map Parameter.name).Perm (FORM_FIELDS.map FormField.name)) ∧
    (∀ p ∈ PARAMETERS, findField (p.name ++ ascii "IsSet") = none ∧
      0 ∉ p.name ++ ascii "IsSet") ∧
    (∀ p ∈ PARAMETERS, ∀ f ∈ FORM_FIELDS, f.name = p.name →
      (p.secret = true ↔ f.kind = .password)) ∧
    ∀ f ∈ FORM_FIELDS, (f.name ∈ CHECKBOXES ↔
        f.kind = .checkbox ∧ f.name ≠ ascii "InfluxEnabled") ∧
      (f.name = ascii "MqttPassword" → f.kind = .password) ∧
      (f.name = ascii "InfluxEnabled" → f.kind = .checkbox) := by
  decide

theorem nodup_parameters : (PARAMETERS.map Parameter.name).Nodup := tables_agree.1.1

theorem nodup_formFields : (FORM_FIELDS.map FormField.name).Nodup := tables_agree.1.2.1

theorem mem_checkboxes {f : FormField} (hf : f ∈ FORM_FIELDS) :
    f.name ∈ CHECKBOXES ↔ f.kind = .checkbox ∧ f.name ≠ ascii "InfluxEnabled" :=
  (tables_agree.2.2.2 f hf).1

/-- A field without the kind of a checkbox is not in their list. -/
theorem notMem_checkboxes {f : FormField} (hf : f ∈ FORM_FIELDS) (h : f.kind ≠ .checkbox) :
    f.name ∉ CHECKBOXES :=
  fun hmem => h ((mem_checkboxes hf).mp hmem).1

theorem mqttPassword_kind {f : FormField} (hf : f ∈ FORM_FIELDS)
    (h : f.name = ascii "MqttPassword") : f.kind = .password :=
  (tables_agree.2.2.2 f hf).2.1 h

theorem influxEnabled_kind {f : FormField} (hf : f ∈ FORM_FIELDS)
    (h : f.name = ascii "InfluxEnabled") : f.kind = .checkbox :=
  (tables_agree.2.2.2 f hf).2.2 h

theorem secret_iff {p : Parameter} {f : FormField} (hp : p ∈ PARAMETERS) (hf : f ∈ FORM_FIELDS)
    (hname : f.name = p.name) : p.secret = true ↔ f.kind = .password :=
  tables_agree.2.2.1 p hp f hf hname

theorem findParameter_of_mem {p : Parameter} (hp : p ∈ PARAMETERS) :
    findParameter p.name = some p :=
  Lib.find?_key nodup_parameters hp

theorem findField_of_mem {f : FormField} (hf : f ∈ FORM_FIELDS) : findField f.name = some f :=
  Lib.find?_key nodup_formFields hf

theorem parameterValue_eq {p : Parameter} (hp : p ∈ PARAMETERS) (values : ParameterValues) :
    parameterValue values p.name = (values p.name).getD p.fallback := by
  rw [parameterValue, findParameter_of_mem hp]

-- ════════════════════════════════════════════════════════════════════════
-- Filling and editing
-- ════════════════════════════════════════════════════════════════════════

theorem actsAt_setValue (f : FormField) (value : Bytes) :
    ActsAt (fun form : SettingsForm => form.setValue f value) f.name :=
  Lib.actsAt_ite f.name fun state : FieldState => { state with value := sanitize f.kind value }

theorem actsAt_setChecked (f : FormField) (checked : Bool) :
    ActsAt (fun form : SettingsForm => form.setChecked f checked) f.name :=
  Lib.actsAt_ite f.name fun state : FieldState => { state with checked := checked }

theorem actsAt_fillField (key value : Bytes) :
    ActsAt (fun form => fillField form (key, value)) key := by
  unfold fillField
  cases hfind : findField key with
  | none => exact Lib.actsAt_id key
  | some f =>
    have hname : f.name = key := by simpa using List.find?_some hfind
    subst hname
    dsimp only
    split_ifs
    · exact actsAt_setChecked f _
    · exact actsAt_setValue f _

theorem actsAt_editField (edits : Edits) (f : FormField) :
    ActsAt (fun form => editField edits form f) f.name := by
  unfold editField
  split_ifs
  · cases edits.checks f.name with
    | none => exact Lib.actsAt_id _
    | some checked => exact actsAt_setChecked f checked
  · cases edits.texts f.name with
    | none => exact Lib.actsAt_id _
    | some value => exact actsAt_setValue f value

/-- The members of the document, as an object. -/
def settingsObject (values : ParameterValues) : List (Bytes × Bytes) :=
  PARAMETERS.flatMap (settingsMembers values)

/-- The document is read back. -/
theorem jsonObject_settingsJson (hfit : ValuesFit values) :
    Lib.jsonObject (settingsJson values) = some (settingsObject values) := by
  rw [settingsJson_eq]
  refine escapes_jsonEscapeByte.jsonObject (List.cons_ne_nil _ _) fun member hmember => ?_
  obtain ⟨p, hp, hmem⟩ := List.mem_flatMap.mp hmember
  have hname := (tables_agree.2.1 p hp).2
  have hzero := (hfit.text p hp).1
  have hyesNo : ∀ b, 0 ∉ yesNo b := by decide
  rcases List.mem_cons.mp hmem with rfl | hisSet
  · refine ⟨fun h => hname (List.mem_append_left _ h), ?_⟩
    dsimp only
    unfold shownValue
    split
    · exact List.not_mem_nil
    · exact hzero
  · split at hisSet
    · obtain rfl := List.mem_singleton.mp hisSet
      exact ⟨hname, hyesNo _⟩
    · cases hisSet

/-- The keys that say whether a secret is set have no field. -/
theorem fillFields_settingsObject (values : ParameterValues) (form : SettingsForm) :
    (settingsObject values).foldl fillField form =
      PARAMETERS.foldl (fun form p => fillField form (p.name, shownValue values p)) form := by
  rw [settingsObject, List.foldl_flatMap]
  refine List.foldl_ext _ _ _ fun form p hp => ?_
  unfold settingsMembers
  rw [List.foldl_cons]
  split
  · rw [List.foldl_cons, List.foldl_nil]
    conv_lhs => rw [fillField, (tables_agree.2.1 p hp).1]
  · rfl

/-- What `fillSettings` does to the field of a parameter. -/
theorem fillSettings_at {p : Parameter} {f : FormField} (hp : p ∈ PARAMETERS)
    (hf : f ∈ FORM_FIELDS) (hname : f.name = p.name) (form : SettingsForm) :
    fillSettings (settingsObject values) form f.name =
      if f.name ∈ CHECKBOXES then
        { form f.name with checked := decide (shownValue values p = ascii "yes") }
      else if f.name = ascii "MqttPassword" then { form f.name with value := [] }
      else { form f.name with value := sanitize f.kind (shownValue values p) } := by
  have hfill : (settingsObject values).foldl fillField form f.name =
      fillField form (p.name, shownValue values p) f.name := by
    rw [fillFields_settingsObject, hname]
    exact Lib.foldl_of_mem (fun p _ => actsAt_fillField p.name (shownValue values p))
      nodup_parameters hp
  have hown : fillField form (p.name, shownValue values p) f.name =
      if f.name ∈ CHECKBOXES then
        { form f.name with checked := decide (shownValue values p = ascii "yes") }
      else { form f.name with value := sanitize f.kind (shownValue values p) } := by
    rw [← hname, fillField, findField_of_mem hf]
    dsimp only
    split_ifs
    · exact if_pos rfl
    · exact if_pos rfl
  rw [fillSettings, SettingsForm.setValue, hfill, hown]
  dsimp only
  by_cases h : f.name = ascii "MqttPassword"
  · have hlist : f.name ∉ CHECKBOXES := notMem_checkboxes hf (by
      rw [mqttPassword_kind hf h]
      exact FieldKind.noConfusion)
    rw [if_pos h, if_neg hlist, if_neg hlist, if_pos h]
    rfl
  · rw [if_neg h, if_neg h]

/-- What the edits do to a field. -/
theorem editForm_at {f : FormField} (hf : f ∈ FORM_FIELDS) (form : SettingsForm) :
    editForm edits form f.name =
      if f.kind = .checkbox then
        { form f.name with checked := (edits.checks f.name).getD (form f.name).checked }
      else
        { form f.name with
          value := ((edits.texts f.name).map (sanitize f.kind)).getD (form f.name).value } := by
  rw [editForm, Lib.foldl_of_mem (fun f _ => actsAt_editField edits f) nodup_formFields hf, editField]
  split_ifs
  · cases edits.checks f.name with
    | none => rfl
    | some checked => exact if_pos rfl
  · cases edits.texts f.name with
    | none => rfl
    | some value => exact if_pos rfl

-- ════════════════════════════════════════════════════════════════════════
-- Collecting and applying
-- ════════════════════════════════════════════════════════════════════════

/-- The pairs that are sent, in document order. -/
def sentPairs (form : SettingsForm) : List (Bytes × Bytes) :=
  FORM_FIELDS.filterMap fun f => (collectField form f).map fun value => (f.name, value)

/-- Names are distinct, so `body.set` always appends. -/
theorem collectSettings_eq (form : SettingsForm) : collectSettings form = sentPairs form := by
  have hall : ∀ (l : List FormField) (body : List (Bytes × Bytes)),
      (body.map Prod.fst ++ l.map FormField.name).Nodup →
      l.foldl (fun body f => match collectField form f with
        | none => body
        | some value => searchParamsSet body f.name value) body =
      body ++ l.filterMap fun f => (collectField form f).map fun value => (f.name, value) := by
    intro l
    induction l with
    | nil => exact fun body _ => (List.append_nil body).symm
    | cons f l ih =>
      intro body hnodup
      rw [List.foldl_cons, List.filterMap_cons]
      rw [List.map_cons] at hnodup
      cases hcollect : collectField form f with
      | none =>
        exact ih body (hnodup.sublist ((List.sublist_cons_self _ _).append_left _))
      | some value =>
        have hnew : f.name ∉ body.map Prod.fst := fun hmem =>
          (List.nodup_append.mp hnodup).2.2 _ hmem _ List.mem_cons_self rfl
        dsimp only [Option.map_some]
        rw [searchParamsSet, if_neg hnew, ih, List.append_assoc, List.singleton_append]
        rwa [List.map_append, List.append_assoc]
  exact hall FORM_FIELDS [] nodup_formFields

/-- What is sent for the field of a parameter, by the stored values and the edits. -/
theorem collectField_session {p : Parameter} {f : FormField} (hp : p ∈ PARAMETERS)
    (hf : f ∈ FORM_FIELDS) (hname : f.name = p.name) (form : SettingsForm) :
    collectField (editForm edits (fillSettings (settingsObject values) form)) f =
      if f.kind = .checkbox then
        if f.name = ascii "InfluxEnabled" then some (shownValue values p)
        else some (yesNo ((edits.checks f.name).getD (decide (shownValue values p = ascii "yes"))))
      else if f.name = ascii "MqttPassword" ∧ ((edits.texts f.name).map (sanitize f.kind)).getD
          (sanitize f.kind (shownValue values p)) = [] then none
      else some (((edits.texts f.name).map (sanitize f.kind)).getD
        (sanitize f.kind (shownValue values p))) := by
  have hlist := mem_checkboxes hf
  rw [collectField, editForm_at hf, fillSettings_at hp hf hname]
  by_cases hbox : f.kind = .checkbox
  · rw [if_pos hbox, if_pos hbox]
    by_cases hinflux : f.name = ascii "InfluxEnabled"
    · have hnot : f.name ∉ CHECKBOXES := fun h => (hlist.mp h).2 hinflux
      have hpassword : f.name ≠ ascii "MqttPassword" := fun h => by
        rw [mqttPassword_kind hf h] at hbox
        cases hbox
      rw [if_neg hnot, if_neg hnot, if_neg hpassword, if_neg hpassword, if_pos hinflux, hbox]
      rfl
    · have hmem : f.name ∈ CHECKBOXES := hlist.mpr ⟨hbox, hinflux⟩
      rw [if_pos hmem, if_pos hmem, if_neg hinflux]
  · have hnot := notMem_checkboxes hf hbox
    rw [if_neg hnot, if_neg hnot, if_neg hbox, if_neg hbox]
    by_cases hpassword : f.name = ascii "MqttPassword"
    · have hkind := mqttPassword_kind hf hpassword
      have hshown : sanitize f.kind (shownValue values p) = [] := by
        rw [shownValue, if_pos ((secret_iff hp hf hname).mpr hkind), hkind]
        rfl
      rw [if_pos hpassword, if_pos hpassword, hshown]
      dsimp only
      by_cases hempty : ((edits.texts f.name).map (sanitize f.kind)).getD [] = []
      · rw [if_neg (not_not_intro hempty), if_pos ⟨hpassword, hempty⟩]
      · rw [if_pos hempty, if_neg fun h => hempty h.2]
    · rw [if_neg hpassword, if_neg hpassword, if_neg fun h => hpassword h.1]

/-- A value that is stored already is not written, which leaves what writing it would leave. -/
theorem setParameter_eq_update (axParameterSet : Bytes → Bytes → Bool)
    (state : ParameterValues × Bool) (p : Parameter) (value : Bytes) :
    (setParameter axParameterSet state p value).1 =
      if axParameterSet p.name value then Function.update state.1 p.name (some value)
      else state.1 := by
  unfold setParameter
  by_cases hstored : state.1 p.name = some value
  · rw [if_pos hstored, ← hstored, Function.update_eq_self, ite_self]
  · rw [if_neg hstored]
    split <;> rfl

theorem setParameter_fst (hset : ∀ name value, axParameterSet name value = true)
    (state : ParameterValues × Bool) (p : Parameter) (value : Bytes) :
    (setParameter axParameterSet state p value).1 =
      Function.update state.1 p.name (some value) := by
  rw [setParameter_eq_update, if_pos (hset _ _)]

/-- A pair that the browser sent sets the parameter of its name. -/
theorem applyPair_pairText {p : Parameter} (hp : p ∈ PARAMETERS) {value : Bytes}
    (hvalue : 0 ∉ value) (state : ParameterValues × Bool) :
    applyPair axParameterSet state (Lib.pairText (p.name, value)) =
      setParameter axParameterSet state p value := by
  have hzero : 0 ∉ p.name := fun h => (tables_agree.2.1 p hp).2 (List.mem_append_left _ h)
  have hplain : ∀ b ∈ Lib.urlencode p.name, decide (b ≠ 61) = true :=
    fun b hb => decide_eq_true (Lib.mem_urlencode hb).2
  rw [applyPair, Lib.pairText, if_pos (List.mem_append_right _ List.mem_cons_self),
    List.takeWhile_append_of_pos hplain, List.dropWhile_append_of_pos hplain]
  rw [List.takeWhile_cons_of_neg (by decide), List.dropWhile_cons_of_neg (by decide),
    List.append_nil, List.tail_cons]
  dsimp only
  rw [urlDecode_urlencode hzero, urlDecode_urlencode hvalue, findParameter_of_mem hp]

/-- The parameters after a body of the browser. -/
theorem applySettingsBody_formText (hset : ∀ name value, axParameterSet name value = true)
    (values : ParameterValues) {pairs : List (Bytes × Bytes)}
    (hpairs : ∀ pair ∈ pairs, (∃ p ∈ PARAMETERS, p.name = pair.1) ∧ 0 ∉ pair.2) :
    (applySettingsBody axParameterSet values (formText pairs)).1 =
      pairs.foldl (fun (values : ParameterValues) pair =>
        Function.update values pair.1 (some pair.2)) values := by
  rw [applySettingsBody, Lib.strsplit_formText, List.foldl_map]
  generalize false = changed
  induction pairs generalizing values changed with
  | nil => rfl
  | cons pair pairs ih =>
    obtain ⟨⟨⟨p, hp, hname⟩, hvalue⟩, hrest⟩ := List.forall_mem_cons.mp hpairs
    have hpair : applyPair axParameterSet (values, changed) (Lib.pairText pair) =
        setParameter axParameterSet (values, changed) p pair.2 := by
      rw [← applyPair_pairText hp hvalue, hname]
    have hfst := setParameter_fst hset (values, changed) p pair.2
    rw [List.foldl_cons, List.foldl_cons, hpair]
    generalize setParameter axParameterSet (values, changed) p pair.2 = state at hfst ⊢
    obtain ⟨values', changed'⟩ := state
    dsimp only at hfst
    rw [ih values' hrest, ← hname, ← hfst]

-- ════════════════════════════════════════════════════════════════════════
-- A session
-- ════════════════════════════════════════════════════════════════════════

theorem sentPairs_sublist (form : SettingsForm) :
    ((sentPairs form).map Prod.fst).Sublist (FORM_FIELDS.map FormField.name) := by
  unfold sentPairs
  induction FORM_FIELDS with
  | nil => exact List.Sublist.slnil
  | cons f l ih =>
    rw [List.filterMap_cons, List.map_cons]
    cases collectField form f with
    | none => exact ih.cons _
    | some value => exact ih.cons_cons _

theorem mem_sentPairs {form : SettingsForm} {pair : Bytes × Bytes} :
    pair ∈ sentPairs form ↔ ∃ f ∈ FORM_FIELDS, collectField form f = some pair.2 ∧
      f.name = pair.1 := by
  unfold sentPairs
  simp only [List.mem_filterMap, Option.map_eq_some_iff, Prod.ext_iff, exists_eq_right_right]

theorem zero_notMem_sanitize {kind : FieldKind} {value : Bytes} (h : 0 ∉ value) :
    0 ∉ sanitize kind value := by
  cases kind with
  | text | password => exact fun hmem => h (List.mem_of_mem_filter hmem)
  | number =>
    rw [sanitize]
    split
    · exact h
    · exact List.not_mem_nil
  | select options =>
    rw [sanitize]
    split
    · exact h
    · exact List.not_mem_nil
  | checkbox => exact h

/-- No zero byte is sent. -/
theorem zero_notMem_collectField (hfit : ValuesFit values) (hedits : EditsFit edits)
    {p : Parameter} {f : FormField} (hp : p ∈ PARAMETERS) (hf : f ∈ FORM_FIELDS)
    (hname : f.name = p.name) {form : SettingsForm} {value : Bytes}
    (h : collectField (editForm edits (fillSettings (settingsObject values) form)) f =
      some value) : 0 ∉ value := by
  have hyesNo : ∀ b, 0 ∉ yesNo b := by decide
  have hshown : 0 ∉ shownValue values p := by
    rw [shownValue]
    split
    · exact List.not_mem_nil
    · exact (hfit.text p hp).1
  have hvalue : 0 ∉ ((edits.texts f.name).map (sanitize f.kind)).getD
      (sanitize f.kind (shownValue values p)) := by
    cases hedit : edits.texts f.name with
    | none => exact zero_notMem_sanitize hshown
    | some value => exact zero_notMem_sanitize (hedits _ _ hedit).1
  rw [collectField_session hp hf hname] at h
  split_ifs at h
  · exact Option.some.inj h ▸ hshown
  · exact Option.some.inj h ▸ hyesNo _
  · exact Option.some.inj h ▸ hvalue

theorem exists_parameter {f : FormField} (hf : f ∈ FORM_FIELDS) :
    ∃ p ∈ PARAMETERS, p.name = f.name :=
  List.mem_map.mp (tables_agree.1.2.2.mem_iff.mpr (List.mem_map_of_mem hf))

/-- After a session each parameter has the value that was sent for its field, or its old one. -/
theorem settingsSession_value (hset : ∀ name value, axParameterSet name value = true)
    (hfit : ValuesFit values) (hedits : EditsFit edits) (form : SettingsForm) :
    ∃ values', settingsSession axParameterSet values form edits = some values' ∧
      ∀ p ∈ PARAMETERS, ∀ f ∈ FORM_FIELDS, f.name = p.name →
        parameterValue values' p.name =
          (collectField (editForm edits (fillSettings (settingsObject values) form)) f).getD
            (parameterValue values p.name) := by
  set form' := editForm edits (fillSettings (settingsObject values) form) with hform
  have hpairs : ∀ pair ∈ sentPairs form', (∃ p ∈ PARAMETERS, p.name = pair.1) ∧ 0 ∉ pair.2 := by
    intro pair hpair
    obtain ⟨f, hf, hcollect, hname⟩ := mem_sentPairs.mp hpair
    obtain ⟨p, hp, hpname⟩ := exists_parameter hf
    exact ⟨⟨p, hp, hpname.trans hname⟩,
      zero_notMem_collectField hfit hedits hp hf hpname.symm hcollect⟩
  refine ⟨(applySettingsBody axParameterSet values (formText (sentPairs form'))).1, ?_, ?_⟩
  · rw [settingsSession, jsonObject_settingsJson hfit, ← collectSettings_eq]
    rfl
  intro p hp f hf hname
  rw [applySettingsBody_formText hset values hpairs]
  have hacts : ∀ pair ∈ sentPairs form', ActsAt (fun values : ParameterValues =>
      Function.update values pair.1 (some pair.2)) pair.1 := fun pair _ =>
    ⟨fun _ _ hk => Function.update_of_ne hk _ _, fun _ _ _ => by
      rw [Function.update_self, Function.update_self]⟩
  rw [parameterValue_eq hp]
  cases hcollect : collectField form' f with
  | none =>
    have hnot : p.name ∉ (sentPairs form').map Prod.fst := by
      intro hmem
      obtain ⟨pair, hpair, hfst⟩ := List.mem_map.mp hmem
      obtain ⟨g, hg, hsent, hgname⟩ := mem_sentPairs.mp hpair
      have hsame : g = f := List.inj_on_of_nodup_map nodup_formFields hg hf
        (hgname.trans (hfst.trans hname.symm))
      rw [hsame, hcollect] at hsent
      cases hsent
    rw [Lib.foldl_of_notMem hacts hnot, parameterValue_eq hp]
    rfl
  | some value =>
    have hpair : (p.name, value) ∈ sentPairs form' := mem_sentPairs.mpr ⟨f, hf, hcollect, hname⟩
    have hvalue := Lib.foldl_of_mem (s := values) hacts
      (nodup_formFields.sublist (sentPairs_sublist form')) hpair
    rw [Function.update_self] at hvalue
    rw [hvalue]
    rfl

end AxisMetrics
