import AxisMetrics.Settings.Defs

/-!
# The settings dialog

The named fields of the settings form and the two functions that fill and read it, with what a
browser does to a value that is set on a field. Texts of the page are byte strings in UTF-8.
-/

namespace AxisMetrics

open Lib (Bytes ascii isDigit)

inductive FieldKind where
  | text
  | password
  | number
  | select (options : List Bytes)
  | checkbox
  deriving DecidableEq

structure FormField where
  name : Bytes
  kind : FieldKind
  deriving DecidableEq

/-- The named fields of `settings-form`, in document order. -/
def FORM_FIELDS : List FormField :=
  [⟨ascii "SampleInterval", .number⟩,
    ⟨ascii "MqttEnabled", .checkbox⟩,
    ⟨ascii "MqttHost", .text⟩,
    ⟨ascii "MqttPort", .number⟩,
    ⟨ascii "MqttUsername", .text⟩,
    ⟨ascii "MqttPassword", .password⟩,
    ⟨ascii "MqttTopicPrefix", .text⟩,
    ⟨ascii "MqttInterval", .number⟩,
    ⟨ascii "MqttTls", .checkbox⟩,
    ⟨ascii "MqttDiscovery", .checkbox⟩,
    ⟨ascii "MqttDiscoveryAll", .checkbox⟩,
    ⟨ascii "InfluxEnabled", .checkbox⟩,
    ⟨ascii "InfluxVersion", .select [ascii "v2", ascii "v1"]⟩,
    ⟨ascii "InfluxUrl", .text⟩,
    ⟨ascii "InfluxDatabase", .text⟩,
    ⟨ascii "InfluxInterval", .number⟩,
    ⟨ascii "InfluxMeasurement", .text⟩,
    ⟨ascii "InfluxOrg", .text⟩,
    ⟨ascii "InfluxToken", .password⟩,
    ⟨ascii "InfluxUsername", .text⟩,
    ⟨ascii "InfluxPassword", .password⟩]

/-- `CHECKBOXES`. -/
def CHECKBOXES : List Bytes :=
  [ascii "MqttEnabled", ascii "MqttTls", ascii "MqttDiscovery", ascii "MqttDiscoveryAll"]

/-- An exponent of a floating-point number, or nothing. -/
def isExponent (text : Bytes) : Bool :=
  match text with
  | [] => true
  | e :: rest =>
    let digits := if rest.head? = some 43 ∨ rest.head? = some 45 then rest.tail else rest
    (e = 69 || e = 101) && digits ≠ [] && digits.all isDigit

/-- A valid floating-point number of HTML. -/
def isFloatText (text : Bytes) : Bool :=
  let text := if text.head? = some 45 then text.tail else text
  let whole := text.takeWhile isDigit
  let rest := text.dropWhile isDigit
  if rest.head? = some 46 then
    rest.tail.takeWhile isDigit ≠ [] && isExponent (rest.tail.dropWhile isDigit)
  else whole ≠ [] && isExponent rest

/-- What a field holds once a value is set on it. -/
def sanitize (kind : FieldKind) (value : Bytes) : Bytes :=
  match kind with
  | .text | .password => value.filter fun b => b ≠ 10 && b ≠ 13
  | .number => if isFloatText value then value else []
  | .select options => if value ∈ options then value else []
  | .checkbox => value

/-- The two properties of a field. -/
structure FieldState where
  value : Bytes
  checked : Bool

/-- `form.elements` by name. -/
abbrev SettingsForm := Bytes → FieldState

/-- `form.elements[key]`. -/
def findField (key : Bytes) : Option FormField := FORM_FIELDS.find? fun f => f.name = key

/-- `field.value = value`. -/
def SettingsForm.setValue (form : SettingsForm) (f : FormField) (value : Bytes) : SettingsForm :=
  fun name =>
    if name = f.name then { form name with value := sanitize f.kind value } else form name

/-- `field.checked = checked`. -/
def SettingsForm.setChecked (form : SettingsForm) (f : FormField) (checked : Bool) :
    SettingsForm :=
  fun name => if name = f.name then { form name with checked := checked } else form name

/-- One key in the loop of `fillSettings`. -/
def fillField (form : SettingsForm) (entry : Bytes × Bytes) : SettingsForm :=
  match findField entry.1 with
  | none => form
  | some f =>
    if entry.1 ∈ CHECKBOXES then form.setChecked f (entry.2 = ascii "yes")
    else form.setValue f entry.2

/-- `fillSettings`. -/
def fillSettings (values : List (Bytes × Bytes)) (form : SettingsForm) : SettingsForm :=
  (values.foldl fillField form).setValue ⟨ascii "MqttPassword", .password⟩ []

/-- `body.set` of `URLSearchParams`. -/
def searchParamsSet (body : List (Bytes × Bytes)) (name value : Bytes) : List (Bytes × Bytes) :=
  if name ∈ body.map Prod.fst then
    body.map fun pair => if pair.1 = name then (name, value) else pair
  else body ++ [(name, value)]

/-- What `collectSettings` sends for a field, if anything. -/
def collectField (form : SettingsForm) (f : FormField) : Option Bytes :=
  if f.name ∈ CHECKBOXES then some (yesNo (form f.name).checked)
  else if f.name = ascii "MqttPassword" then
    -- empty keeps the stored password; the API never returns it
    if (form f.name).value ≠ [] then some (form f.name).value else none
  else some (form f.name).value

/-- `collectSettings`. -/
def collectSettings (form : SettingsForm) : List (Bytes × Bytes) :=
  FORM_FIELDS.foldl (fun body f =>
    match collectField form f with
    | none => body
    | some value => searchParamsSet body f.name value) []

/-- What the user enters: a value for each edited field with a value, a state for each edited
checkbox. -/
structure Edits where
  texts : Bytes → Option Bytes
  checks : Bytes → Option Bool

/-- The edits of one field. -/
def editField (edits : Edits) (form : SettingsForm) (f : FormField) : SettingsForm :=
  if f.kind = .checkbox then
    match edits.checks f.name with
    | none => form
    | some checked => form.setChecked f checked
  else
    match edits.texts f.name with
    | none => form
    | some value => form.setValue f value

/-- The form after the user's edits. -/
def editForm (edits : Edits) (form : SettingsForm) : SettingsForm :=
  FORM_FIELDS.foldl (editField edits) form

/-- The dialog is opened, edited and saved; `form` is what the page showed before. -/
def settingsSession (axParameterSet : Bytes → Bytes → Bool) (values : ParameterValues)
    (form : SettingsForm) (edits : Edits) : Option ParameterValues :=
  (Lib.jsonObject (settingsJson values)).map fun object =>
    let form := editForm edits (fillSettings object form)
    (applySettingsBody axParameterSet values (Lib.formText (collectSettings form))).1

end AxisMetrics
