import AxisMetrics.Settings.RoundTrip

/-!
# What a session with the dialog changes

Three fields of the dialog are not treated like the others of their kind: the InfluxDB checkbox
is not in the list of checkboxes, so it is neither filled nor read, and the InfluxDB token and
password are sent when they are empty. `sessionKeeps_iff` says for which parameters and edits
none of this matters.
-/

namespace AxisMetrics

open Lib (Bytes ascii)

variable {values : ParameterValues} {edits : Edits}
variable {axParameterSet : Bytes → Bytes → Bool}

/-- The field of a parameter is filled and read as the user needs it. -/
structure FieldSafe (values : ParameterValues) (edits : Edits) (p : Parameter) (f : FormField) :
    Prop where
  checkbox : f.name = ascii "InfluxEnabled" → ∀ checked, edits.checks f.name = some checked →
    yesNo checked = parameterValue values p.name
  secret : p.secret = true → f.name ≠ ascii "MqttPassword" → parameterValue values p.name = [] ∨
    ∃ value, edits.texts f.name = some value ∧ sanitize f.kind value ≠ []

theorem yesNo_eq_yes (b : Bool) : decide (yesNo b = ascii "yes") = b := by
  cases b <;> decide

/-- What is sent for a field is what the user asked for. -/
def FieldKept (values : ParameterValues) (edits : Edits) (form : SettingsForm) (p : Parameter)
    (f : FormField) : Prop :=
  (collectField (editForm edits (fillSettings (settingsObject values) form)) f).getD
    (parameterValue values p.name) = expectedValue values edits p f

section Fields

variable (hfit : ValuesFit values) {p : Parameter} {f : FormField} (hp : p ∈ PARAMETERS)
  (hf : f ∈ FORM_FIELDS) (hname : f.name = p.name) (form : SettingsForm)

include hfit hp hf hname

/-- The checkbox of InfluxDB is not read; the others are sent as they are left. -/
theorem fieldKept_checkbox (hbox : f.kind = .checkbox) :
    FieldKept values edits form p f ↔ FieldSafe values edits p f := by
  rw [FieldKept, collectField_session hp hf hname, expectedValue, if_pos hbox, if_pos hbox]
  have hsecret := secret_iff hp hf hname
  have hnot : ¬ p.secret = true := fun h => by
    rw [hbox] at hsecret
    cases hsecret.mp h
  have hshown : shownValue values p = parameterValue values p.name := if_neg hnot
  rw [hshown]
  by_cases hinflux : f.name = ascii "InfluxEnabled"
  · rw [if_pos hinflux, Option.getD_some]
    cases hedit : edits.checks f.name with
    | none =>
      refine iff_of_true rfl ⟨fun _ checked h => ?_, fun h => absurd h hnot⟩
      rw [hedit] at h
      cases h
    | some checked =>
      constructor
      · intro h
        refine ⟨fun _ checked' h' => ?_, fun h => absurd h hnot⟩
        rw [hedit] at h'
        rw [← Option.some.inj h']
        exact h.symm
      · exact fun h => (h.checkbox hinflux checked hedit).symm
  · obtain ⟨stored, hstored⟩ :=
      (hfit.field p hp f hf hname (Bool.eq_false_of_not_eq_true hnot)).2 hbox
    rw [if_neg hinflux, Option.getD_some, hstored, yesNo_eq_yes]
    refine iff_of_true ?_ ⟨fun h => absurd h hinflux, fun h => absurd h hnot⟩
    cases edits.checks f.name <;> rfl

/-- A text that is shown is sent as it is left. -/
theorem fieldKept_shown (hbox : f.kind ≠ .checkbox) (hs : p.secret = false) :
    FieldKept values edits form p f ↔ FieldSafe values edits p f := by
  have hinflux : f.name ≠ ascii "InfluxEnabled" := fun h => hbox (influxEnabled_kind hf h)
  have hshown : shownValue values p = parameterValue values p.name := by
    rw [shownValue, hs]
    rfl
  have hpassword : f.name ≠ ascii "MqttPassword" := fun h => by
    have hsecret := (secret_iff hp hf hname).mpr (mqttPassword_kind hf h)
    rw [hs] at hsecret
    cases hsecret
  rw [FieldKept, collectField_session hp hf hname, expectedValue, if_neg hbox, if_neg hbox,
    if_neg fun h => hpassword h.1, hshown, (hfit.field p hp f hf hname hs).1, Option.getD_some]
  refine iff_of_true ?_ ⟨fun h => absurd h hinflux, fun h => by rw [hs] at h; cases h⟩
  cases edits.texts f.name with
  | none => rfl
  | some value => exact (if_neg fun h => by rw [hs] at h; cases h.1).symm

omit hfit

/-- A secret is not shown, and sent when it is empty; only the MQTT password is not. -/
theorem fieldKept_secret (hbox : f.kind ≠ .checkbox) (hs : p.secret = true) :
    FieldKept values edits form p f ↔ FieldSafe values edits p f := by
  have hinflux : f.name ≠ ascii "InfluxEnabled" := fun h => hbox (influxEnabled_kind hf h)
  have hshown : sanitize f.kind (shownValue values p) = [] := by
    rw [shownValue, if_pos hs, (secret_iff hp hf hname).mp hs]
    rfl
  rw [FieldKept, collectField_session hp hf hname, expectedValue, if_neg hbox, if_neg hbox, hshown]
  by_cases hpassword : f.name = ascii "MqttPassword"
  · refine iff_of_true ?_ ⟨fun h => absurd h hinflux, fun _ h => absurd hpassword h⟩
    cases edits.texts f.name with
    | none => rw [if_pos ⟨hpassword, rfl⟩, Option.getD_none]
    | some value =>
      by_cases hempty : sanitize f.kind value = []
      · rw [if_pos ⟨hpassword, hempty⟩, Option.getD_none]
        exact (if_pos ⟨hs, hempty⟩).symm
      · rw [if_neg fun h => hempty h.2, Option.getD_some]
        exact (if_neg fun h => hempty h.2).symm
  · rw [if_neg fun h => hpassword h.1, Option.getD_some]
    cases hedit : edits.texts f.name with
    | none =>
      constructor
      · exact fun h => ⟨fun h => absurd h hinflux, fun _ _ => Or.inl h.symm⟩
      · intro h
        rcases h.secret hs hpassword with hempty | ⟨value, hvalue, -⟩
        · exact hempty.symm
        · rw [hedit] at hvalue
          cases hvalue
    | some value =>
      dsimp only [Option.map_some, Option.getD_some]
      by_cases hempty : sanitize f.kind value = []
      · rw [if_pos ⟨hs, hempty⟩, hempty]
        constructor
        · exact fun h => ⟨fun h => absurd h hinflux, fun _ _ => Or.inl h.symm⟩
        · intro h
          rcases h.secret hs hpassword with hempty | ⟨value', hvalue, hne⟩
          · exact hempty.symm
          · rw [hedit] at hvalue
            exact absurd (Option.some.inj hvalue ▸ hempty) hne
      · rw [if_neg fun h => hempty h.2]
        exact iff_of_true rfl
          ⟨fun h => absurd h hinflux, fun _ _ => Or.inr ⟨value, hedit, hempty⟩⟩

end Fields

/-- What is sent for a field is what the user asked for exactly where the field is safe. -/
theorem fieldKept_iff (hfit : ValuesFit values) {p : Parameter} {f : FormField}
    (hp : p ∈ PARAMETERS) (hf : f ∈ FORM_FIELDS) (hname : f.name = p.name) (form : SettingsForm) :
    (collectField (editForm edits (fillSettings (settingsObject values) form)) f).getD
        (parameterValue values p.name) = expectedValue values edits p f ↔
      FieldSafe values edits p f := by
  by_cases hbox : f.kind = .checkbox
  · exact fieldKept_checkbox hfit hp hf hname form hbox
  · cases hs : p.secret with
    | false => exact fieldKept_shown hfit hp hf hname form hbox hs
    | true => exact fieldKept_secret hp hf hname form hbox hs

/-- The user's edits and the stored values do not meet the three fields: the checkbox of InfluxDB
is left alone or set to what is stored, and its token and password are not stored or entered
anew. -/
structure EditsSafe (values : ParameterValues) (edits : Edits) : Prop where
  influxEnabled : ∀ checked, edits.checks (ascii "InfluxEnabled") = some checked →
    yesNo checked = parameterValue values (ascii "InfluxEnabled")
  influxToken : parameterValue values (ascii "InfluxToken") = [] ∨
    ∃ value, edits.texts (ascii "InfluxToken") = some value ∧ sanitize .password value ≠ []
  influxPassword : parameterValue values (ascii "InfluxPassword") = [] ∨
    ∃ value, edits.texts (ascii "InfluxPassword") = some value ∧ sanitize .password value ≠ []

/-- The secrets, and the fields that are not like the others. -/
theorem special_fields :
    (∀ p ∈ PARAMETERS, p.secret = true → p.name ≠ ascii "MqttPassword" →
      p.name = ascii "InfluxToken" ∨ p.name = ascii "InfluxPassword") ∧
    (⟨ascii "InfluxEnabled", ascii "no", false⟩ ∈ PARAMETERS ∧
      ⟨ascii "InfluxEnabled", .checkbox⟩ ∈ FORM_FIELDS) ∧
    (⟨ascii "InfluxToken", [], true⟩ ∈ PARAMETERS ∧
      ⟨ascii "InfluxToken", .password⟩ ∈ FORM_FIELDS) ∧
    (⟨ascii "InfluxPassword", [], true⟩ ∈ PARAMETERS ∧
      ⟨ascii "InfluxPassword", .password⟩ ∈ FORM_FIELDS) ∧
    ascii "InfluxToken" ≠ ascii "MqttPassword" ∧ ascii "InfluxPassword" ≠ ascii "MqttPassword" := by
  decide

theorem editsSafe_iff (values : ParameterValues) (edits : Edits) :
    (∀ p ∈ PARAMETERS, ∀ f ∈ FORM_FIELDS, f.name = p.name → FieldSafe values edits p f) ↔
      EditsSafe values edits := by
  obtain ⟨hsecrets, ⟨hp, hf⟩, ⟨hpToken, hfToken⟩, ⟨hpPassword, hfPassword⟩, htoken, hpassword⟩ :=
    special_fields
  constructor
  · intro h
    exact ⟨(h _ hp _ hf rfl).checkbox rfl, (h _ hpToken _ hfToken rfl).secret rfl htoken,
      (h _ hpPassword _ hfPassword rfl).secret rfl hpassword⟩
  · intro h p hp f hf hname
    refine ⟨fun hinflux checked hedit => ?_, fun hsecret hother => ?_⟩
    · rw [← hname, hinflux]
      exact h.influxEnabled checked (hinflux ▸ hedit)
    · rw [(secret_iff hp hf hname).mp hsecret, hname]
      rcases hsecrets p hp hsecret (hname ▸ hother) with heq | heq
      · rw [heq]
        exact h.influxToken
      · rw [heq]
        exact h.influxPassword

/-- A session leaves the parameters as the user asked for exactly where the edits are safe. -/
theorem sessionKeeps_iff (hset : ∀ name value, axParameterSet name value = true)
    (hfit : ValuesFit values) (hedits : EditsFit edits) (form : SettingsForm) :
    (∃ values', settingsSession axParameterSet values form edits = some values' ∧
      SessionKeeps values edits values') ↔ EditsSafe values edits := by
  obtain ⟨values', hsession, hvalue⟩ := settingsSession_value hset hfit hedits form
  rw [← editsSafe_iff, hsession]
  constructor
  · rintro ⟨_, hsome, hkeeps⟩ p hp f hf hname
    rw [← Option.some.inj hsome] at hkeeps
    rw [← fieldKept_iff hfit hp hf hname form, ← hvalue p hp f hf hname]
    exact hkeeps p hp f hf hname
  · intro h
    refine ⟨values', rfl, fun p hp f hf hname => ?_⟩
    rw [hvalue p hp f hf hname]
    exact (fieldKept_iff hfit hp hf hname form).mpr (h p hp f hf hname)

/-- ASCII is text. -/
theorem isText_of_lt {value : Bytes} (h : ∀ b ∈ value, b < 128) : IsText value := by
  refine ⟨value.map fun b => Char.ofNat b.toNat, ?_⟩
  rw [List.flatMap_map]
  induction value with
  | nil => rfl
  | cons b value ih =>
    obtain ⟨hb, hrest⟩ := List.forall_mem_cons.mp h
    have hall : ∀ n < 128, String.utf8EncodeChar (Char.ofNat n) = [UInt8.ofNat n] := by
      decide
    rw [List.flatMap_cons, ← ih hrest, hall b.toNat (UInt8.lt_iff_toNat_lt.mp hb),
      UInt8.ofNat_toNat, List.singleton_append]

/-- A new installation with a token. -/
abbrev tokenValues (token : Bytes) : ParameterValues :=
  Function.update (fun _ => none) (ascii "InfluxToken") (some token)

abbrev blankForm : SettingsForm := fun _ => ⟨[], false⟩

/-- The user enters the host of the broker. -/
abbrev hostEdits : Edits :=
  ⟨fun name => if name = ascii "MqttHost" then some (ascii "broker.local") else none, fun _ => none⟩

theorem valuesFit_default : ValuesFit fun _ => none := by
  have hbytes : ∀ p ∈ PARAMETERS, ∀ b ∈ parameterValue (fun _ => none) p.name, b ≠ 0 ∧ b < 128 := by
    decide
  have hfields : ∀ p ∈ PARAMETERS, ∀ f ∈ FORM_FIELDS, f.name = p.name → p.secret = false →
      sanitize f.kind (parameterValue (fun _ => none) p.name) =
        parameterValue (fun _ => none) p.name ∧
      (f.kind = .checkbox → ∃ b, parameterValue (fun _ => none) p.name = yesNo b) := by
    decide
  exact ⟨fun p hp => ⟨fun h => (hbytes p hp 0 h).1 rfl,
    isText_of_lt fun b hb => (hbytes p hp b hb).2⟩, hfields⟩

/-- Without a token, entering a host changes the host and nothing else. -/
theorem sessionKeeps_host : ∃ values', settingsSession (fun _ _ => true) (fun _ => none) blankForm
    hostEdits = some values' ∧ SessionKeeps (fun _ => none) hostEdits values' := by
  have hbytes : ∀ b ∈ ascii "broker.local", b ≠ 0 ∧ b < 128 := by
    decide
  refine (sessionKeeps_iff (fun _ _ => rfl) valuesFit_default (fun name value h => ?_)
    blankForm).mpr ⟨fun checked h => (by cases h), Or.inl (by decide),
      Or.inl (by decide)⟩
  dsimp only at h
  split at h
  · obtain rfl := Option.some.inj h
    exact ⟨fun hzero => (hbytes 0 hzero).1 rfl, isText_of_lt fun b hb => (hbytes b hb).2⟩
  · cases h

/-- With a token, a session without edits takes the token away. -/
theorem not_sessionKeeps_token : ¬ ∃ values', settingsSession (fun _ _ => true)
    (tokenValues (ascii "s3cret")) blankForm ⟨fun _ => none, fun _ => none⟩ = some values' ∧
      SessionKeeps (tokenValues (ascii "s3cret")) ⟨fun _ => none, fun _ => none⟩ values' := by
  rintro ⟨values', hsession, hkeeps⟩
  have hwiped : (settingsSession (fun _ _ => true) (tokenValues (ascii "s3cret")) blankForm
      ⟨fun _ => none, fun _ => none⟩).map (fun values => parameterValue values (ascii "InfluxToken")) =
      some [] := by
    decide +kernel
  obtain ⟨hp, hf⟩ := special_fields.2.2.1
  have hkept := hkeeps _ hp _ hf rfl
  rw [hsession, Option.map_some] at hwiped
  dsimp only at hkept
  rw [Option.some.inj hwiped] at hkept
  exact absurd hkept (by decide)

end AxisMetrics
