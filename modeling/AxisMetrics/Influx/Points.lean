import AxisMetrics.Influx.Exporters
import AxisMetrics.Lib.LinePoints
import AxisMetrics.Settings.Apply

/-!
# The line read back

`build_payload` puts a backslash before what separates the parts of a line. `ReadsBack` says that
the payload is one line and that a reader who takes the byte behind a backslash as it is finds
what was written; `readsBack_iff` says for which strings.
-/

namespace AxisMetrics

open Lib (Bytes ascii decimalInt markText WritesPair endsKey endsText readPoints lineToken)

variable {api : Api CFloat Float} {row : Row CFloat api.registry.count}

/-- What `append_escaped_tag` marks. -/
def marksTag (b : UInt8) : Bool := b = 44 ∨ b = 61 ∨ b = 32 ∨ b = 92

/-- What `append_escaped_measurement` marks. -/
def marksMeasurement (b : UInt8) : Bool := b = 44 ∨ b = 32 ∨ b = 92

theorem appendEscapedTag_eq (value : Bytes) : appendEscapedTag value = markText marksTag value := by
  simp only [appendEscapedTag, markText, marksTag, decide_eq_true_eq]

theorem appendEscapedMeasurement_eq (value : Bytes) :
    appendEscapedMeasurement value = markText marksMeasurement value := by
  simp only [appendEscapedMeasurement, markText, marksMeasurement, decide_eq_true_eq]

/-- Without a newline, what the writer of tags does not mark does not end a key. -/
theorem marksTag_or_plain {value : Bytes} (h : 10 ∉ value) :
    ∀ b ∈ value, marksTag b = true ∨ endsKey b = false ∧ b ≠ 92 := by
  intro b hb
  have hnewline : b ≠ 10 := fun heq => h (heq ▸ hb)
  by_cases hmarked : b = 44 ∨ b = 61 ∨ b = 32 ∨ b = 92
  · exact Or.inl (decide_eq_true hmarked)
  · obtain ⟨hcomma, hequals, hspace, hbackslash⟩ := by simpa only [not_or] using hmarked
    refine Or.inr ⟨?_, hbackslash⟩
    simp [endsKey, endsText, hcomma, hequals, hspace, hnewline]

theorem endsText_of_endsKey {b : UInt8} (h : endsKey b = false) : endsText b = false :=
  (Bool.or_eq_false_iff.mp h).2

/-- A tag value is read up to its end. -/
theorem lineToken_appendEscapedTag {value : Bytes} (h : 10 ∉ value) {stop : UInt8 → Bool}
    (hstop : ∀ b, endsKey b = false → stop b = false) {last : UInt8} (hlast : stop last = true)
    (rest : Bytes) : lineToken stop (appendEscapedTag value ++ last :: rest) =
      (value, last :: rest) := by
  rw [appendEscapedTag_eq]
  exact Lib.lineToken_markText (hstop 92 (by decide))
    (fun b hb => (marksTag_or_plain h b hb).imp id fun hb => ⟨hstop b hb.1, hb.2⟩) hlast rest

/-- The measurement is read up to its end. -/
theorem lineToken_appendEscapedMeasurement {measurement : Bytes} (h : 10 ∉ measurement)
    {last : UInt8} (hlast : endsText last = true) (rest : Bytes) :
    lineToken endsText (appendEscapedMeasurement measurement ++ last :: rest) =
      (measurement, last :: rest) := by
  rw [appendEscapedMeasurement_eq]
  refine Lib.lineToken_markText (by decide) (fun b hb => ?_) hlast rest
  have hnewline : b ≠ 10 := fun heq => h (heq ▸ hb)
  by_cases hmarked : b = 44 ∨ b = 32 ∨ b = 92
  · exact Or.inl (decide_eq_true hmarked)
  · obtain ⟨hcomma, hspace, hbackslash⟩ := by simpa only [not_or] using hmarked
    exact Or.inr ⟨by simp [endsText, hcomma, hspace, hnewline], hbackslash⟩

/-- Nothing ends a value but what is behind it, whatever is printed. -/
theorem plain_format7g (x : CFloat) :
    ∀ b ∈ (RenderArith.format7g x : Bytes), endsText b = false ∧ b ≠ 92 := by
  intro b hb
  have hbyte := bytes_format7g x b hb
  constructor
  · refine Bool.eq_false_of_not_eq_true fun hends => ?_
    simp only [endsText, Bool.or_eq_true, decide_eq_true_eq] at hends
    rcases hends with (rfl | rfl) | rfl <;> exact absurd hbyte (by decide)
  · rintro rfl
    exact absurd hbyte (by decide)

theorem endsText_separator {separator : UInt8} (h : separator = 44 ∨ separator = 32) :
    endsText separator = true := by
  rcases h with rfl | rfl <;> rfl

/-- A tag is read as it was. -/
theorem writesPair_tag {key value : Bytes} (hkey : ∀ b ∈ key, endsKey b = false ∧ b ≠ 92)
    (hvalue : 10 ∉ value) :
    WritesPair (key ++ 61 :: appendEscapedTag value) (key, value) :=
  Lib.writesPair_of_tokens (Lib.lineToken_plain_stop (by decide) hkey (by decide))
    fun separator rest hseparator => lineToken_appendEscapedTag hvalue
      (fun b hb => endsText_of_endsKey hb) (endsText_separator hseparator) rest

/-- A field is read as it was. -/
theorem writesPair_field {id : Bytes} (hid : 10 ∉ id) (x : CFloat) :
    WritesPair (appendEscapedTag id ++ ascii "=" ++ RenderArith.format7g x)
      (id, RenderArith.format7g x) := by
  rw [List.append_assoc]
  exact Lib.writesPair_of_tokens
    (lineToken_appendEscapedTag hid (fun b hb => hb) (by decide))
    fun separator rest hseparator => Lib.lineToken_plain_stop (by decide) (plain_format7g x)
      (endsText_separator hseparator) rest

theorem writesPair_fields (h : ∀ field ∈ pushedValues api row, 10 ∉ field.1) :
    List.Forall₂ WritesPair (influxFields api row) (pushedValues api row) := by
  rw [influxFields, pushedValues, List.forall₂_map_left_iff, List.forall₂_map_right_iff,
    List.forall₂_same]
  intro i hi
  exact writesPair_field (h _ (List.mem_map_of_mem hi)) _

/-- The tags of a point, as they are written and as they are meant. -/
def deviceTags (device : DeviceIdentity) : List (Bytes × Bytes) :=
  [(ascii "device", orUnknown device.serial), (ascii "model", orUnknown device.model)]

/-- The payload without the newline at its end. -/
def pointText (measurement : Bytes) (api : Api CFloat Float) (row : Row CFloat api.registry.count) :
    Bytes :=
  appendEscapedMeasurement measurement ++ 44 :: ([44].intercalate
      ((deviceTags api.device).map fun tag => tag.1 ++ 61 :: appendEscapedTag tag.2) ++
    32 :: ([44].intercalate (influxFields api row) ++ 32 :: decimalInt row.timestamp.toInt))

theorem influxFields_eq_nil : influxFields api row = [] ↔ pushedValues api row = [] := by
  rw [influxFields, pushedValues, List.map_eq_nil_iff, List.map_eq_nil_iff]

theorem buildPayload_pointText (hlatest : storeLatest api.store = some row)
    (hne : pushedValues api row ≠ []) (measurement : Bytes) :
    buildPayload measurement api = some (pointText measurement api row ++ [10]) := by
  rw [buildPayload, hlatest]
  dsimp only
  rw [if_neg fun hnil => hne (influxFields_eq_nil.mp hnil), pointText, deviceTags, List.map_cons,
    List.map_singleton, List.intercalate_cons_cons, List.intercalate_singleton]
  have hdevice : ascii ",device=" = 44 :: (ascii "device" ++ [61]) := rfl
  have hmodel : ascii ",model=" = 44 :: (ascii "model" ++ [61]) := rfl
  rw [hdevice, hmodel]
  simp only [List.append_assoc, List.cons_append, List.nil_append]
  rfl

-- ════════════════════════════════════════════════════════════════════════
-- Newlines
-- ════════════════════════════════════════════════════════════════════════

/-- The writer leaves a newline as it is. -/
theorem newline_appendEscapedTag (value : Bytes) : 10 ∈ appendEscapedTag value ↔ 10 ∈ value := by
  rw [appendEscapedTag_eq]
  exact Lib.mem_markText_newline (by decide)

theorem newline_orUnknown (value : Bytes) : 10 ∈ orUnknown value ↔ 10 ∈ value := by
  unfold orUnknown
  split
  · next hnil =>
    subst hnil
    exact iff_of_false (by decide) List.not_mem_nil
  · exact Iff.rfl

theorem newline_influxFields : 10 ∈ [44].intercalate (influxFields api row) ↔
    ∃ field ∈ pushedValues api row, 10 ∈ field.1 := by
  have hbytes : ∀ i, 10 ∈ appendEscapedTag (api.registry.id i) ++ ascii "=" ++
      (RenderArith.format7g (row.values i) : Bytes) ↔ 10 ∈ api.registry.id i := by
    intro i
    have hvalue : 10 ∉ (RenderArith.format7g (row.values i) : Bytes) := fun h => by
      have hends := (plain_format7g (row.values i) 10 h).1
      cases hends
    have hequals : (10 : UInt8) ∉ ascii "=" := by decide
    rw [List.mem_append, List.mem_append, newline_appendEscapedTag]
    tauto
  constructor
  · intro hmem
    rcases Lib.mem_intercalate hmem with hcomma | ⟨text, htext, hnewline⟩
    · exact absurd hcomma (by decide)
    · rw [influxFields] at htext
      obtain ⟨i, hi, rfl⟩ := List.mem_map.mp htext
      exact ⟨_, List.mem_map_of_mem hi, (hbytes i).mp hnewline⟩
  · rintro ⟨field, hfield, hnewline⟩
    rw [pushedValues] at hfield
    obtain ⟨i, hi, rfl⟩ := List.mem_map.mp hfield
    exact Lib.mem_intercalate_of_mem (List.mem_map_of_mem hi) ((hbytes i).mpr hnewline)

/-- The strings that the payload is made of, on one line each. -/
structure OnOneLine (measurement : Bytes) (device : DeviceIdentity)
    (fields : List (Bytes × Bytes)) : Prop where
  measurement : 10 ∉ measurement
  serial : 10 ∉ device.serial
  model : 10 ∉ device.model
  ids : ∀ field ∈ fields, 10 ∉ field.1

/-- The payload is on one line exactly when all its strings are. -/
theorem newline_pointText (measurement : Bytes) : 10 ∉ pointText measurement api row ↔
    OnOneLine measurement api.device (pushedValues api row) := by
  have htimestamp : 10 ∉ decimalInt row.timestamp.toInt := fun h => by
    have hnumber := Lib.isNumberByte_of_isJsonNumber (Lib.isJsonNumber_decimalInt _) 10 h
    cases hnumber
  have hmeasurement : 10 ∈ appendEscapedMeasurement measurement ↔ 10 ∈ measurement := by
    rw [appendEscapedMeasurement_eq]
    exact Lib.mem_markText_newline (by decide)
  have hcomma : (10 : UInt8) ≠ 44 := by decide
  have hspace : (10 : UInt8) ≠ 32 := by decide
  have hequals : (10 : UInt8) ≠ 61 := by decide
  have hdevice : (10 : UInt8) ∉ ascii "device" := by decide
  have hmodel : (10 : UInt8) ∉ ascii "model" := by decide
  rw [pointText, deviceTags, List.map_cons, List.map_singleton, List.intercalate_cons_cons,
    List.intercalate_singleton]
  simp only [List.mem_append, List.mem_cons, List.not_mem_nil, hmeasurement,
    newline_appendEscapedTag, newline_orUnknown, newline_influxFields, htimestamp, hcomma, hspace,
    hequals, hdevice, hmodel, false_or, or_false, not_or]
  constructor
  · rintro ⟨hm, ⟨hserial, hmodel⟩, hids⟩
    exact ⟨hm, hserial, hmodel, fun field hfield hnewline => hids ⟨field, hfield, hnewline⟩⟩
  · intro h
    refine ⟨h.measurement, ⟨h.serial, h.model⟩, ?_⟩
    rintro ⟨field, hfield, hnewline⟩
    exact h.ids field hfield hnewline

-- ════════════════════════════════════════════════════════════════════════
-- Reading the payload
-- ════════════════════════════════════════════════════════════════════════

/-- The payload is one line, and it is read back as one point: the measurement, the device and the
model, the exported values and the timestamp. -/
def ReadsBack (measurement : Bytes) (api : Api CFloat Float)
    (row : Row CFloat api.registry.count) : Prop :=
  ∃ line, buildPayload measurement api = some (line ++ [10]) ∧ 10 ∉ line ∧
    readPoints (line ++ [10]).length (line ++ [10]) =
      some [⟨measurement, deviceTags api.device, pushedValues api row,
        decimalInt row.timestamp.toInt⟩]

theorem readPoints_pointText {measurement : Bytes} (hne : pushedValues api row ≠ [])
    (h : OnOneLine measurement api.device (pushedValues api row)) {fuel : ℕ} (hfuel : 0 < fuel) :
    readPoints fuel (pointText measurement api row ++ [10]) =
      some [⟨measurement, deviceTags api.device, pushedValues api row,
        decimalInt row.timestamp.toInt⟩] := by
  have htags : List.Forall₂ WritesPair
      ((deviceTags api.device).map fun tag => tag.1 ++ 61 :: appendEscapedTag tag.2)
      (deviceTags api.device) := by
    have hdevice : ∀ b ∈ ascii "device", endsKey b = false ∧ b ≠ 92 := by decide
    have hmodel : ∀ b ∈ ascii "model", endsKey b = false ∧ b ≠ 92 := by decide
    refine .cons (writesPair_tag hdevice ?_) (.cons (writesPair_tag hmodel ?_) .nil)
    · exact fun hnewline => h.serial ((newline_orUnknown _).mp hnewline)
    · exact fun hnewline => h.model ((newline_orUnknown _).mp hnewline)
  have htimestamp : ∀ b ∈ decimalInt row.timestamp.toInt, b ≠ 10 ∧ b ≠ 92 := by
    intro b hb
    have hnumber := Lib.isNumberByte_of_isJsonNumber (Lib.isJsonNumber_decimalInt _) b hb
    constructor
    · rintro rfl
      cases hnumber
    · rintro rfl
      cases hnumber
  have hread := Lib.readPoints_point
    (fun separator rest hseparator => lineToken_appendEscapedMeasurement h.measurement
      (endsText_separator hseparator) rest)
    htags (List.cons_ne_nil _ _) (writesPair_fields h.ids) hne htimestamp hfuel
  rw [← hread, pointText]
  simp only [List.append_assoc, List.cons_append]

/-- A sample with an exported metric is read back exactly when the measurement, the serial number,
the model and the exported ids have no newline. -/
theorem readsBack_iff (measurement : Bytes) (hlatest : storeLatest api.store = some row)
    (hne : pushedValues api row ≠ []) :
    ReadsBack measurement api row ↔ OnOneLine measurement api.device (pushedValues api row) := by
  have hpayload := buildPayload_pointText hlatest hne measurement
  constructor
  · rintro ⟨line, hline, hone, -⟩
    rw [hpayload] at hline
    have hsame := List.append_cancel_right (Option.some.inj hline)
    rwa [← hsame, newline_pointText] at hone
  · intro h
    exact ⟨_, hpayload, (newline_pointText _).mpr h, readPoints_pointText hne h (by simp)⟩

/-- A device with one metric, which reads 1.5. -/
def usageRegistry : MetricRegistry := .registerAll [ascii "cpu.usage"]

def usageApi : Api CFloat Float where
  registry := usageRegistry
  store := { storeNew usageRegistry 1 0 with
    latest := ⟨100, fun _ => ⟨0x3fc00000⟩⟩
    hasLatest := true }
  selection := ⟨fun _ => []⟩
  device := ⟨⟨ascii "M1", ascii "ACCC8E", ascii "11", length_mutedSerial_lt⟩, [], [], [], [], []⟩
  appVersion := ascii "0.1.2"
  persistPath := none
  mqttStatus := ascii "disabled"
  influxStatus := ascii "disabled"
  started := 0

/-- A measurement with a comma, a space and a backslash at its end is read back. -/
theorem readsBack_usage : ReadsBack (ascii "my, metrics\\") usageApi usageApi.store.latest :=
  (readsBack_iff _ rfl (by decide)).mpr ⟨by decide, by decide, by decide, by decide⟩

/-- Parameters with a line break in the measurement. -/
def brokenValues : ParameterValues := fun name =>
  if name = ascii "InfluxMeasurement" then some (ascii "a\nb") else none

/-- The settings keep it, and the payload is two lines. -/
theorem not_readsBack_broken : ¬ ReadsBack (influxSettings brokenValues).measurement usageApi
    usageApi.store.latest := by
  have hmeasurement : (influxSettings brokenValues).measurement = ascii "a\nb" := by decide
  rw [hmeasurement]
  rintro ⟨line, hline, hone, -⟩
  rw [buildPayload_pointText rfl (by decide)] at hline
  have hsame := List.append_cancel_right (Option.some.inj hline)
  rw [← hsame, newline_pointText] at hone
  exact absurd hone.measurement (by decide)

end AxisMetrics
