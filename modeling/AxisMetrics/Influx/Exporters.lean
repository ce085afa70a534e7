import AxisMetrics.Collect.Registry
import AxisMetrics.Influx.Defs
import AxisMetrics.Lib.LineProtocol
import AxisMetrics.Numbers

/-!
# The two push exporters

The MQTT state and the InfluxDB line are written by two encoders. On a registry that discovery left,
both are well formed and say the same (`pushExporters_agree`).
-/

namespace AxisMetrics

open Lib (Bytes ascii Json JsonPart lineField linePoint jsonDocument)

variable {api : Api CFloat Float}

/-- The metrics that a push sends, each with its printed value. -/
def pushedValues (api : Api CFloat Float) (row : Row CFloat api.registry.count) :
    List (Bytes × Bytes) :=
  ((List.finRange api.registry.count).filter fun i => !SampleArith.isnan (row.values i) &&
      selectionEnabled api.selection .transmit (api.registry.id i)).map fun i =>
    (api.registry.id i, RenderArith.format7g (row.values i))

theorem mem_pushedValues {row : Row CFloat api.registry.count} {id text : Bytes} :
    (id, text) ∈ pushedValues api row ↔ ∃ i, api.registry.id i = id ∧
      selectionEnabled api.selection .transmit id = true ∧
      SampleArith.isnan (row.values i) = false ∧ RenderArith.format7g (row.values i) = text := by
  simp only [pushedValues, List.mem_map, List.mem_filter, List.mem_finRange, true_and,
    Bool.and_eq_true, Bool.not_eq_true', Prod.mk.injEq]
  constructor
  · rintro ⟨i, ⟨hnan, hshown⟩, rfl, rfl⟩
    exact ⟨i, rfl, hshown, hnan, rfl⟩
  · rintro ⟨i, rfl, hshown, hnan, rfl⟩
    exact ⟨i, ⟨hnan, hshown⟩, rfl, rfl⟩

theorem nodup_pushedValues (hdistinct : api.registry.Distinct)
    (row : Row CFloat api.registry.count) : ((pushedValues api row).map Prod.fst).Nodup := by
  rw [pushedValues, List.map_map]
  exact ((List.nodup_finRange _).filter _).map hdistinct

section CleanId

variable {id : Bytes} (h : CleanId id)

include h

/-- A clean id is plain in JSON. -/
theorem CleanId.plainText : Lib.PlainText id := Lib.plainText_of_isAlnum h.2

/-- The writer of JSON strings leaves a clean id as it is. -/
theorem CleanId.appendEscaped : appendEscaped id = id := by
  have hbyte : ∀ b ∈ id, jsonEscapeByte b = [b] := by
    have hall : ∀ n < 256, IsIdByte (UInt8.ofNat n) →
        jsonEscapeByte (UInt8.ofNat n) = [UInt8.ofNat n] := by decide +kernel
    intro b hb
    have hsame := hall b.toNat b.toNat_lt
    rw [UInt8.ofNat_toNat] at hsame
    exact hsame (h.2 b hb)
  rw [AxisMetrics.appendEscaped, jsonAppendEscaped, List.flatMap_congr hbyte,
    List.flatMap_singleton']

/-- So does the writer of field keys. -/
theorem CleanId.appendEscapedTag : appendEscapedTag id = id := by
  have hbyte : ∀ b ∈ id, (if b = 44 ∨ b = 61 ∨ b = 32 ∨ b = 92 then [92, b] else [b]) = [b] := by
    intro b hb
    refine if_neg ?_
    rintro (rfl | rfl | rfl | rfl) <;> exact absurd (h.2 _ hb) (by decide)
  rw [AxisMetrics.appendEscapedTag, List.flatMap_congr hbyte, List.flatMap_singleton']

end CleanId

section Exporters

variable (hclean : ∀ i, CleanId (api.registry.id i)) {row : Row CFloat api.registry.count}
  (hfinite : ∀ i, RenderArith.isinf (row.values i) = false)

include hclean hfinite

theorem isJsonNumber_pushed : ∀ field ∈ pushedValues api row,
    CleanId field.1 ∧ Lib.isJsonNumber field.2 = true := by
  rintro ⟨id, text⟩ hfield
  obtain ⟨i, rfl, -, hnan, rfl⟩ := mem_pushedValues.mp hfield
  exact ⟨hclean i, isJsonNumber_format7g hnan (hfinite i)⟩

/-- The object of the pushed values. -/
def pushedObject (fields : List (Bytes × Bytes)) : JsonPart :=
  .object (fields.map fun field => (field.1, .number field.2))

theorem valuesObject_eq : valuesObject (selectionEnabled api.selection .transmit) row =
    (pushedObject (pushedValues api row)).text := by
  have hentries : ∀ i ∈ (List.finRange api.registry.count).filter (fun i =>
      !SampleArith.isnan (row.values i) &&
        selectionEnabled api.selection .transmit (api.registry.id i)),
      valueEntry (api.registry.id i) (row.values i) =
        JsonPart.fieldText (api.registry.id i, .number (RenderArith.format7g (row.values i))) := by
    intro i hi
    obtain ⟨-, hshown⟩ := List.mem_filter.mp hi
    have hnan := (Bool.and_eq_true_iff.mp hshown).1
    rw [Bool.not_eq_true'] at hnan
    rw [valueEntry, (hclean i).appendEscaped, appendNumber, hnan, hfinite i]
    simp only [JsonPart.fieldText, JsonPart.number, List.append_assoc]
    rfl
  rw [valuesObject, List.map_congr_left hentries, pushedObject, JsonPart.object, pushedValues]
  simp only [List.map_map]
  rfl

theorem jsonDocument_valuesObject :
    jsonDocument (valuesObject (selectionEnabled api.selection .transmit) row) =
      some (.object ((pushedValues api row).map fun field => (field.1, .number field.2))) := by
  have hsound : (pushedObject (pushedValues api row)).Sound := by
    refine JsonPart.sound_object fun field hfield => ?_
    obtain ⟨pushed, hpushed, rfl⟩ := List.mem_map.mp hfield
    obtain ⟨hid, hnumber⟩ := isJsonNumber_pushed hclean hfinite pushed hpushed
    exact ⟨hid.plainText, JsonPart.sound_number hnumber⟩
  have hgood : (pushedObject (pushedValues api row)).good = true := by
    refine List.all_eq_true.mpr fun field hfield => ?_
    obtain ⟨pushed, -, rfl⟩ := List.mem_map.mp hfield
    rfl
  have hvalue : (pushedObject (pushedValues api row)).value =
      .object ((pushedValues api row).map fun field => (field.1, .number field.2)) :=
    congrArg Json.object List.map_map
  rw [valuesObject_eq hclean hfinite, hsound.jsonDocument, JsonPart.read, if_pos hgood, hvalue]

omit hfinite in
/-- The fields of the line. -/
theorem influxFields_eq : influxFields api row = (pushedValues api row).map lineField := by
  rw [influxFields, pushedValues, List.map_map]
  refine List.map_congr_left fun i _ => ?_
  rw [(hclean i).appendEscapedTag, List.append_assoc]
  rfl

end Exporters

/-- The series of the line. -/
def lineSeries (measurement : Bytes) (device : DeviceIdentity) : Bytes :=
  measurement ++ ascii ",device=" ++ orUnknown device.serial ++ ascii ",model=" ++
    orUnknown device.model

/-- The writer of measurements marks every space. -/
theorem lineToken_measurement (measurement rest : Bytes) :
    Lib.lineToken (fun b => b = 32) (appendEscapedMeasurement measurement ++ rest) =
      (measurement ++ (Lib.lineToken (fun b => b = 32) rest).1,
        (Lib.lineToken (fun b => b = 32) rest).2) := by
  have hread := Lib.lineToken_mark (fun b => b = 32)
    (fun b => b = 44 ∨ b = 32 ∨ b = 92) measurement rfl (fun b _ => ?_) rest
  · simpa only [appendEscapedMeasurement, decide_eq_true_eq] using hread
  · by_cases hmarked : b = 44 ∨ b = 32 ∨ b = 92
    · exact .inl (decide_eq_true hmarked)
    · obtain ⟨-, hspace, hbackslash⟩ := by simpa only [not_or] using hmarked
      exact .inr ⟨decide_eq_false hspace, hbackslash⟩

/-- So does the writer of tags. -/
theorem lineToken_tag (value rest : Bytes) :
    Lib.lineToken (fun b => b = 32) (appendEscapedTag value ++ rest) =
      (value ++ (Lib.lineToken (fun b => b = 32) rest).1,
        (Lib.lineToken (fun b => b = 32) rest).2) := by
  have hread := Lib.lineToken_mark (fun b => b = 32)
    (fun b => b = 44 ∨ b = 61 ∨ b = 32 ∨ b = 92) value rfl (fun b _ => ?_) rest
  · simpa only [appendEscapedTag, decide_eq_true_eq] using hread
  · by_cases hmarked : b = 44 ∨ b = 61 ∨ b = 32 ∨ b = 92
    · exact .inl (decide_eq_true hmarked)
    · obtain ⟨-, -, hspace, hbackslash⟩ := by simpa only [not_or] using hmarked
      exact .inr ⟨decide_eq_false hspace, hbackslash⟩

theorem lineToken_series (measurement : Bytes) (device : DeviceIdentity) (rest : Bytes) :
    Lib.lineToken (fun b => b = 32) (appendEscapedMeasurement measurement ++
        (ascii ",device=" ++ (appendEscapedTag (orUnknown device.serial) ++
          (ascii ",model=" ++ (appendEscapedTag (orUnknown device.model) ++ 32 :: rest))))) =
      (lineSeries measurement device, 32 :: rest) := by
  rw [lineToken_measurement, Lib.lineToken_plain rfl (by decide), lineToken_tag,
    Lib.lineToken_plain rfl (by decide), lineToken_tag, Lib.lineToken_stop rfl, lineSeries]
  simp only [List.append_nil, List.append_assoc]

section Payload

variable (hclean : ∀ i, CleanId (api.registry.id i)) {row : Row CFloat api.registry.count}
  (hfinite : ∀ i, RenderArith.isinf (row.values i) = false)
  (hlatest : storeLatest api.store = some row)

include hclean hlatest

theorem buildPayload_eq (measurement : Bytes) : buildPayload measurement api =
    if pushedValues api row = [] then none
    else some ((appendEscapedMeasurement measurement ++
        (ascii ",device=" ++ (appendEscapedTag (orUnknown api.device.serial) ++
          (ascii ",model=" ++ appendEscapedTag (orUnknown api.device.model))))) ++
      32 :: ([44].intercalate ((pushedValues api row).map lineField) ++
        32 :: (Lib.decimalInt row.timestamp.toInt ++ [10]))) := by
  rw [buildPayload, hlatest]
  dsimp only
  rw [influxFields_eq hclean]
  by_cases hnil : pushedValues api row = []
  · rw [if_pos hnil, if_pos (List.map_eq_nil_iff.mpr hnil)]
  · rw [if_neg hnil, if_neg fun h => hnil (List.map_eq_nil_iff.mp h)]
    simp only [List.append_assoc]
    rfl

include hfinite

theorem linePoint_buildPayload (measurement : Bytes) (hne : pushedValues api row ≠ []) :
    (buildPayload measurement api).bind linePoint = some
      ⟨lineSeries measurement api.device, pushedValues api row,
        Lib.decimalInt row.timestamp.toInt⟩ := by
  rw [buildPayload_eq hclean hlatest, if_neg hne, Option.bind_some]
  refine Lib.linePoint_line (fun rest => ?_) hne (fun field hfield => ?_)
    (Lib.isJsonNumber_decimalInt _)
  · simp only [List.append_assoc]
    exact lineToken_series measurement api.device rest
  · obtain ⟨hid, hnumber⟩ := isJsonNumber_pushed hclean hfinite field hfield
    refine ⟨hid.1, fun b hb => ?_, hnumber⟩
    refine ⟨?_, ?_, ?_, ?_⟩ <;> rintro rfl <;> exact absurd (hid.2 _ hb) (by decide)

/-- A newline within the line is one of the measurement or the device. -/
theorem newline_buildPayload {measurement line : Bytes}
    (hline : buildPayload measurement api = some line)
    (hseries : 10 ∉ lineSeries measurement api.device) : 10 ∉ line.dropLast := by
  have hmarked : ∀ {marked : UInt8 → Prop} [DecidablePred marked] {text : Bytes}, 10 ∉ text →
      10 ∉ text.flatMap fun b => if marked b then [92, b] else [b] := by
    intro marked _ text htext hmem
    obtain ⟨b, hb, hwritten⟩ := List.mem_flatMap.mp hmem
    split at hwritten
    · simp only [List.mem_cons, List.not_mem_nil, or_false] at hwritten
      exact hwritten.elim (by decide) fun h => htext (h ▸ hb)
    · exact htext (List.mem_singleton.mp hwritten ▸ hb)
  have hnumber : ∀ {text : Bytes}, Lib.isJsonNumber text = true → 10 ∉ text := fun h hmem =>
    absurd (Lib.isNumberByte_of_isJsonNumber h 10 hmem) (by decide)
  have hfields : 10 ∉ [44].intercalate ((pushedValues api row).map lineField) := by
    intro hmem
    rcases Lib.mem_intercalate hmem with hcomma | ⟨text, htext, hnewline⟩
    · exact absurd hcomma (by decide)
    · obtain ⟨field, hfield, rfl⟩ := List.mem_map.mp htext
      obtain ⟨hid, hvalue⟩ := isJsonNumber_pushed hclean hfinite field hfield
      rcases List.mem_append.mp hnewline with hkey | hrest
      · exact absurd (hid.2 10 hkey) (by decide)
      · exact hnumber hvalue ((List.mem_cons.mp hrest).resolve_left (by decide))
  simp only [lineSeries, List.mem_append, not_or] at hseries
  obtain ⟨⟨⟨⟨hmeasurement, -⟩, hserial⟩, -⟩, hmodel⟩ := hseries
  rw [buildPayload_eq hclean hlatest] at hline
  split at hline
  · cases hline
  · obtain rfl := Option.some.inj hline
    rw [← List.append_assoc, ← List.cons_append, ← List.append_assoc, ← List.cons_append,
      ← List.append_assoc, List.dropLast_concat]
    simp only [List.mem_append, List.mem_cons, not_or]
    exact ⟨⟨⟨⟨hmarked hmeasurement, by decide⟩, hmarked hserial, by decide, hmarked hmodel⟩, by decide,
      hfields⟩, by decide, hnumber (Lib.isJsonNumber_decimalInt _)⟩

end Payload

/-- The metrics that a push has to send, each with the text of its value. -/
def IsPushed (api : Api CFloat Float) (id text : Bytes) : Prop :=
  ∃ row, storeLatest api.store = some row ∧ ∃ i, api.registry.id i = id ∧
    selectionEnabled api.selection .transmit id = true ∧
    SampleArith.isnan (row.values i) = false ∧ RenderArith.format7g (row.values i) = text

/-- On a registry that discovery left, with a latest sample that is nowhere infinite, the object of
`api_current_values_json` and the fields of the line of `build_payload` are the same list: the
metrics that are sent and have a reading, each once and with its value. If there are none, the object
is empty and there is no line. -/
theorem pushExporters_agree (m : Machine) (api : Api CFloat Float)
    (hregistry : api.registry = m.registry)
    (hfinite : ∀ row, storeLatest api.store = some row →
      ∀ i, RenderArith.isinf (row.values i) = false) (measurement : Bytes) :
    ∃ fields : List (Bytes × Bytes), (fields.map Prod.fst).Nodup ∧
      (∀ id text, (id, text) ∈ fields ↔ IsPushed api id text) ∧
      jsonDocument (apiCurrentValuesJson api) =
        some (.object (fields.map fun field => (field.1, .number field.2))) ∧
      (fields ≠ [] → ∃ line timestamp, buildPayload measurement api = some line ∧
        linePoint line = some ⟨lineSeries measurement api.device, fields, timestamp⟩ ∧
        (10 ∉ lineSeries measurement api.device → 10 ∉ line.dropLast)) ∧
      (fields = [] → apiCurrentValuesJson api = ascii "\x7b\x7d" ∧
        buildPayload measurement api = none) := by
  have hclean : ∀ i, CleanId (api.registry.id i) := fun i =>
    Machine.cleanId (m := m) (hregistry ▸ List.get_mem _ _)
  have hdistinct : api.registry.Distinct := hregistry ▸ m.distinct_registry
  cases hlatest : storeLatest api.store with
  | none =>
    have hjson : apiCurrentValuesJson api = ascii "\x7b\x7d" := by
      rw [apiCurrentValuesJson, hlatest]
    refine ⟨[], List.nodup_nil, fun id text => ?_, ?_, fun h => absurd rfl h, fun _ => ⟨hjson, ?_⟩⟩
    · refine ⟨fun h => absurd h List.not_mem_nil, ?_⟩
      rintro ⟨row, hrow, -⟩
      cases hlatest.symm.trans hrow
    · rw [hjson]
      rfl
    · rw [buildPayload, hlatest]
  | some row =>
    have hrow := hfinite row hlatest
    have hjson : apiCurrentValuesJson api =
        valuesObject (selectionEnabled api.selection .transmit) row := by
      rw [apiCurrentValuesJson, hlatest]
    refine ⟨pushedValues api row, nodup_pushedValues hdistinct row, fun id text => ?_, ?_,
      fun hne => ?_, fun hnil => ⟨?_, ?_⟩⟩
    · rw [mem_pushedValues]
      constructor
      · exact fun h => ⟨row, hlatest, h⟩
      · rintro ⟨row', hrow', h⟩
        cases hlatest.symm.trans hrow'
        exact h
    · rw [hjson, jsonDocument_valuesObject hclean hrow]
    · obtain ⟨line, hline, hpoint⟩ := Option.bind_eq_some_iff.mp
        (linePoint_buildPayload hclean hrow hlatest measurement hne)
      exact ⟨line, _, hline, hpoint, newline_buildPayload hclean hrow hlatest hline⟩
    · rw [hjson, valuesObject_eq hclean hrow, hnil]
      rfl
    · rw [buildPayload_eq hclean hlatest, if_pos hnil]

/-- A device that lets the collector read nothing: all it has is the fixed metrics. -/
def mutedMachine : Machine := ⟨fun _ => none, fun _ => false, fun _ => false, fun _ => none,
  fun _ => none, fun _ => none⟩

theorem length_mutedSerial_lt : (ascii "ACCC8E").length < 32 := by decide

/-- Its first metric reads 1.5, and the others are not available. -/
def mutedApi : Api CFloat Float where
  registry := mutedMachine.registry
  store := { storeNew mutedMachine.registry 1 0 with
    latest := ⟨100, fun i => if (i : ℕ) = 0 then ⟨0x3fc00000⟩ else CFloat.nan⟩
    hasLatest := true }
  selection := ⟨fun _ => []⟩
  device := ⟨⟨ascii "M1", ascii "ACCC8E", ascii "11", length_mutedSerial_lt⟩, [], [], [], [], []⟩
  appVersion := ascii "0.1.2"
  persistPath := none
  mqttStatus := ascii "disabled"
  influxStatus := ascii "disabled"
  started := 0

/-- What its first metrics read, of which the third stays on the device. -/
def cpuReading (i : ℕ) : CFloat :=
  if i = 0 then ⟨0x3fc00000⟩ else if i = 1 then ⟨0x3e800000⟩ else if i = 2 then ⟨0x42800000⟩
  else CFloat.nan

def readingsApi : Api CFloat Float where
  registry := mutedMachine.registry
  store := { storeNew mutedMachine.registry 1 0 with
    latest := ⟨100, fun i => cpuReading i⟩
    hasLatest := true }
  selection := ⟨fun
    | .transmit => [ascii "cpu.system"]
    | .display => []⟩
  device := mutedApi.device
  appVersion := ascii "0.1.2"
  persistPath := none
  mqttStatus := ascii "disabled"
  influxStatus := ascii "disabled"
  started := 0

theorem latest_readingsApi : ∃ row, storeLatest readingsApi.store = some row ∧
    ∀ i, row.values i = cpuReading i :=
  ⟨readingsApi.store.latest, rfl, fun _ => rfl⟩

theorem count_readingsApi : 1 < readingsApi.registry.count := by decide +kernel

/-- The first two metrics of the device. -/
theorem id_readingsApi :
    readingsApi.registry.id ⟨0, Nat.zero_lt_of_lt count_readingsApi⟩ = ascii "cpu.usage" ∧
      readingsApi.registry.id ⟨1, count_readingsApi⟩ = ascii "cpu.user" := by
  decide +kernel

/-- Of three readings two are pushed, in the document and in the line. -/
theorem pushExporters_agree_readings : ∃ fields : List (Bytes × Bytes),
    (ascii "cpu.usage", ascii "1.5") ∈ fields ∧ (ascii "cpu.user", ascii "0.25") ∈ fields ∧
    (∀ field ∈ fields, field.1 ≠ ascii "cpu.system") ∧
    jsonDocument (apiCurrentValuesJson readingsApi) =
      some (.object (fields.map fun field => (field.1, .number field.2))) ∧
    ∃ line timestamp, buildPayload (ascii "axis_metrics") readingsApi = some line ∧
      linePoint line = some
        ⟨lineSeries (ascii "axis_metrics") readingsApi.device, fields, timestamp⟩ ∧
      10 ∉ line.dropLast := by
  obtain ⟨row, hlatest, hvalues⟩ := latest_readingsApi
  have hfinite : ∀ row, storeLatest readingsApi.store = some row →
      ∀ i, RenderArith.isinf (row.values i) = false := by
    intro row' hrow i
    obtain rfl := Option.some.inj (hlatest.symm.trans hrow)
    rw [hvalues, cpuReading]
    split_ifs <;> decide
  have hregistry : readingsApi.registry = mutedMachine.registry := by rw [readingsApi]
  obtain ⟨fields, -, hfields, hjson, hline, -⟩ :=
    pushExporters_agree mutedMachine readingsApi hregistry hfinite (ascii "axis_metrics")
  have hpushed : ∀ {id text : Bytes} (i : Fin readingsApi.registry.count),
      readingsApi.registry.id i = id → selectionEnabled readingsApi.selection .transmit id = true →
      SampleArith.isnan (cpuReading i) = false → RenderArith.format7g (cpuReading i) = text →
      (id, text) ∈ fields := fun i hid hsent hread htext =>
    (hfields _ _).mpr ⟨row, hlatest, i, hid, hsent, by rw [hvalues, hread], by rw [hvalues, htext]⟩
  have husage : (ascii "cpu.usage", ascii "1.5") ∈ fields :=
    hpushed _ id_readingsApi.1 (by decide) (by decide) (by decide +kernel)
  have huser : (ascii "cpu.user", ascii "0.25") ∈ fields :=
    hpushed _ id_readingsApi.2 (by decide) (by decide) (by decide +kernel)
  obtain ⟨line, timestamp, hpayload, hpoint, hnewline⟩ := hline (List.ne_nil_of_mem husage)
  refine ⟨fields, husage, huser, fun field hfield hsystem => ?_, hjson, line, timestamp,
    hpayload, hpoint, hnewline (by decide +kernel)⟩
  obtain ⟨-, -, i, -, hsent, -⟩ := (hfields field.1 field.2).mp hfield
  rw [hsystem] at hsent
  exact absurd hsent (by decide)

end AxisMetrics
