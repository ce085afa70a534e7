import AxisMetrics.Api.MetaDocument
import AxisMetrics.Influx.Exporters

/-!
# What the metric endpoints answer

The documents of the newest sample and of a series, part by part. Where the ids of the metrics are
clean, both are documents of JSON whatever the readings are, and a reader gets back the values that
were written, with null for a gap.
-/

namespace AxisMetrics

open Lib (Bytes ascii decimal decimalInt Json JsonPart jsonDocument)

open Lib.JsonPart (object array number fieldText)

variable {registry : MetricRegistry}

/-- The ids of what discovery finds are clean. -/
theorem cleanId_of_discovered {m : Machine} (h : registry = m.registry) (i : Fin registry.count) :
    CleanId (registry.id i) := by
  subst h
  exact Machine.cleanId (List.getElem_mem _)

/-- What a reader gets of a reading. -/
def readingValue (value : CFloat) : Json :=
  if SampleArith.isnan value || RenderArith.isinf value then .null
  else .number (RenderArith.format7g value)

/-- A reading as `append_number` writes it. -/
def readingPart (value : CFloat) : JsonPart :=
  if SampleArith.isnan value || RenderArith.isinf value then .null
  else .number (RenderArith.format7g value)

theorem appendNumber_eq (value : CFloat) : appendNumber value = (readingPart value).text := by
  rw [appendNumber, readingPart]
  split <;> rfl

theorem value_readingPart (value : CFloat) : (readingPart value).value = readingValue value := by
  rw [readingPart, readingValue]
  split <;> rfl

theorem sound_readingPart (value : CFloat) : (readingPart value).Sound := by
  rw [readingPart]
  split
  · exact JsonPart.sound_null
  · next hplain =>
    obtain ⟨hnan, hinf⟩ := Bool.or_eq_false_iff.mp (Bool.eq_false_iff.mpr hplain)
    exact JsonPart.sound_number (isJsonNumber_format7g hnan hinf)

theorem good_readingPart (value : CFloat) : (readingPart value).good = true := by
  rw [readingPart]
  split <;> rfl

/-- The members of `valuesObject`. -/
def valueFields (shown : Bytes → Bool) (row : Row CFloat registry.count) :
    List (Bytes × JsonPart) :=
  ((List.finRange registry.count).filter fun i =>
    !SampleArith.isnan (row.values i) && shown (registry.id i)).map fun i =>
      (registry.id i, readingPart (row.values i))

/-- The parts of `apiCurrentJson`, once there is a sample. -/
def currentFields (row : Row CFloat registry.count) : List (Bytes × JsonPart) :=
  [(ascii "timestamp", .number (decimalInt row.timestamp.toInt)),
    (ascii "values", .object (valueFields (fun _ => true) row))]

/-- A metric in `seriesText`. -/
def seriesPart (series : Bytes × List CFloat) : Bytes × JsonPart :=
  (series.1, .array (series.2.map readingPart))

/-- The parts of `seriesText`. -/
def seriesFields (doc : SeriesDoc CFloat) : List (Bytes × JsonPart) :=
  [(ascii "window", .number (decimal doc.window)),
    (ascii "tier", .number (decimal doc.tier)),
    (ascii "interval", .number (decimal doc.interval)),
    (ascii "series", .object (doc.series.map seriesPart)),
    (ascii "timestamps", .array (doc.timestamps.map fun t => .number (decimalInt t.toInt)))]

section Text

theorem valueEntry_eq {id : Bytes} (h : CleanId id) (value : CFloat) :
    valueEntry id value = fieldText (id, readingPart value) := by
  rw [valueEntry, h.appendEscaped, appendNumber_eq]
  simp only [fieldText, List.append_assoc]
  rfl

theorem text_valueFields (hclean : ∀ i, CleanId (registry.id i)) (shown : Bytes → Bool)
    (row : Row CFloat registry.count) :
    valuesObject shown row = (object (valueFields shown row)).text := by
  rw [valuesObject, List.map_congr_left fun i _ => valueEntry_eq (hclean i) (row.values i), object,
    valueFields]
  simp only [List.map_map]
  rfl

theorem text_currentFields (hclean : ∀ i, CleanId (registry.id i))
    (row : Row CFloat registry.count) :
    ascii "\x7b\"timestamp\":" ++ decimalInt row.timestamp.toInt ++
      ascii ",\"values\":" ++ valuesObject (fun _ => true) row ++ ascii "\x7d" =
        (object (currentFields row)).text := by
  rw [text_valueFields hclean]
  simp [object, currentFields, fieldText, number, ascii]

theorem seriesEntry_eq {series : Bytes × List CFloat} (h : CleanId series.1) :
    seriesEntry series = fieldText (seriesPart series) := by
  rw [seriesEntry, h.appendEscaped, List.map_congr_left fun value _ => appendNumber_eq value]
  simp only [fieldText, seriesPart, array, List.map_map, List.append_assoc]
  rfl

theorem text_seriesFields {doc : SeriesDoc CFloat}
    (hclean : ∀ series ∈ doc.series, CleanId series.1) :
    seriesText doc = (object (seriesFields doc)).text := by
  rw [seriesText, List.map_congr_left fun series hseries => seriesEntry_eq (hclean series hseries)]
  simp [object, seriesFields, fieldText, number, array, ascii, Function.comp_def]

end Text

section Line

/-- A text without control characters. -/
def NoControls (text : Bytes) : Prop := ∀ b ∈ text, ¬ b < 32

theorem NoControls.append {text text' : Bytes} (h : NoControls text) (h' : NoControls text') :
    NoControls (text ++ text') := fun b hb => (List.mem_append.mp hb).elim (h b) (h' b)

/-- It has no line end. -/
theorem NoControls.oneLine {text : Bytes} (h : NoControls text) : 10 ∉ text ∧ 13 ∉ text :=
  ⟨fun hb => h 10 hb (by decide), fun hb => h 13 hb (by decide)⟩

theorem noControls_number {text : Bytes} (h : Lib.isJsonNumber text = true) : NoControls text := by
  have hall : ∀ n < 256, Lib.isNumberByte (UInt8.ofNat n) = true → ¬ UInt8.ofNat n < 32 := by
    decide +kernel
  intro b hb
  have hbyte := hall b.toNat b.toNat_lt
  rw [UInt8.ofNat_toNat] at hbyte
  exact hbyte (Lib.isNumberByte_of_isJsonNumber h b hb)

theorem noControls_appendNumber (value : CFloat) : NoControls (appendNumber value) := by
  rw [appendNumber]
  split
  · intro b hb
    revert b
    decide
  · next hplain =>
    obtain ⟨hnan, hinf⟩ := Bool.or_eq_false_iff.mp (Bool.eq_false_iff.mpr hplain)
    exact noControls_number (isJsonNumber_format7g hnan hinf)

theorem noControls_valueEntry (id : Bytes) (value : CFloat) : NoControls (valueEntry id value) := by
  have hid : NoControls (appendEscaped id) := (Lib.clean_flatMap jsonPiece_jsonEscapeByte id).1
  have hopen : NoControls (ascii "\"") := by unfold NoControls; decide
  have hclose : NoControls (ascii "\":") := by unfold NoControls; decide
  exact ((hopen.append hid).append hclose).append (noControls_appendNumber value)

/-- The document of a sample is one line, whatever the metrics are called. -/
theorem noControls_current (row : Row CFloat registry.count) :
    NoControls (ascii "\x7b\"timestamp\":" ++ decimalInt row.timestamp.toInt ++
      ascii ",\"values\":" ++ valuesObject (fun _ => true) row ++ ascii "\x7d") := by
  have hopen : NoControls (ascii "\x7b\"timestamp\":") := by unfold NoControls; decide
  have hmiddle : NoControls (ascii ",\"values\":") := by unfold NoControls; decide
  have hbrace : NoControls (ascii "\x7b") := by unfold NoControls; decide
  have hclose : NoControls (ascii "\x7d") := by unfold NoControls; decide
  have htime := noControls_number (Lib.isJsonNumber_decimalInt row.timestamp.toInt)
  have hvalues : NoControls (valuesObject (fun _ => true) row) := by
    refine (hbrace.append fun b hb => ?_).append hclose
    obtain hcomma | ⟨text, htext, hb⟩ := Lib.mem_intercalate hb
    · rw [List.mem_singleton.mp hcomma]
      decide
    · obtain ⟨i, -, rfl⟩ := List.mem_map.mp htext
      exact noControls_valueEntry _ _ b hb
  exact (((hopen.append htime).append hmiddle).append hvalues).append hclose

end Line

section Read

theorem sound_valueFields (hclean : ∀ i, CleanId (registry.id i)) (shown : Bytes → Bool)
    (row : Row CFloat registry.count) : (object (valueFields shown row)).Sound := by
  refine JsonPart.sound_object fun field hfield => ?_
  obtain ⟨i, -, rfl⟩ := List.mem_map.mp hfield
  exact ⟨(hclean i).plainText, sound_readingPart _⟩

theorem good_valueFields (shown : Bytes → Bool) (row : Row CFloat registry.count) :
    (object (valueFields shown row)).good = true := by
  refine good_object fun field hfield => ?_
  obtain ⟨i, -, rfl⟩ := List.mem_map.mp hfield
  exact good_readingPart _

/-- What a reader gets of a sample: its time, and the values of the metrics that have one. -/
def sampleValue (row : Row CFloat registry.count) : Json :=
  .object [(ascii "timestamp", .number (decimalInt row.timestamp.toInt)),
    (ascii "values", .object (((List.finRange registry.count).filter fun i =>
      !SampleArith.isnan (row.values i)).map fun i => (registry.id i, readingValue (row.values i))))]

theorem value_currentFields (row : Row CFloat registry.count) :
    (object (currentFields row)).value = sampleValue row := by
  simp [object, currentFields, valueFields, sampleValue, number, value_readingPart,
    Function.comp_def]

theorem jsonDocument_current (hclean : ∀ i, CleanId (registry.id i))
    (row : Row CFloat registry.count) :
    jsonDocument (ascii "\x7b\"timestamp\":" ++ decimalInt row.timestamp.toInt ++
      ascii ",\"values\":" ++ valuesObject (fun _ => true) row ++ ascii "\x7d") =
        some (sampleValue row) := by
  have hsound : (object (currentFields row)).Sound := by
    refine JsonPart.sound_object ?_
    simp only [currentFields, List.forall_mem_cons, List.not_mem_nil, false_implies, implies_true,
      and_true]
    exact ⟨⟨by decide, JsonPart.sound_number (Lib.isJsonNumber_decimalInt _)⟩, by decide,
      sound_valueFields hclean _ row⟩
  have hgood : (object (currentFields row)).good = true := by
    refine good_object fun field hfield => ?_
    simp only [currentFields, List.mem_cons, List.not_mem_nil, or_false] at hfield
    obtain rfl | rfl := hfield
    · rfl
    · exact good_valueFields _ row
  rw [text_currentFields hclean, hsound.jsonDocument, JsonPart.read, if_pos hgood,
    value_currentFields]

/-- What a reader gets of a series response. -/
def seriesValue (doc : SeriesDoc CFloat) : Json :=
  .object [(ascii "window", .number (decimal doc.window)),
    (ascii "tier", .number (decimal doc.tier)),
    (ascii "interval", .number (decimal doc.interval)),
    (ascii "series", .object (doc.series.map fun series =>
      (series.1, .array (series.2.map readingValue)))),
    (ascii "timestamps", .array (doc.timestamps.map fun t => .number (decimalInt t.toInt)))]

theorem value_seriesFields (doc : SeriesDoc CFloat) :
    (object (seriesFields doc)).value = seriesValue doc := by
  simp [object, array, seriesFields, seriesPart, seriesValue, number, value_readingPart,
    Function.comp_def]

theorem jsonDocument_seriesText {doc : SeriesDoc CFloat}
    (hclean : ∀ series ∈ doc.series, CleanId series.1) :
    jsonDocument (seriesText doc) = some (seriesValue doc) := by
  have hseries : (object (doc.series.map seriesPart)).Sound ∧
      (object (doc.series.map seriesPart)).good = true := by
    refine ⟨JsonPart.sound_object fun field hfield => ?_, good_object fun field hfield => ?_⟩
    · obtain ⟨series, hmem, rfl⟩ := List.mem_map.mp hfield
      refine ⟨(hclean series hmem).plainText, JsonPart.sound_array fun part hpart => ?_⟩
      obtain ⟨value, -, rfl⟩ := List.mem_map.mp hpart
      exact sound_readingPart value
    · obtain ⟨series, -, rfl⟩ := List.mem_map.mp hfield
      refine good_array fun part hpart => ?_
      obtain ⟨value, -, rfl⟩ := List.mem_map.mp hpart
      exact good_readingPart value
  have htimes : (array (doc.timestamps.map fun t => number (decimalInt t.toInt))).Sound ∧
      (array (doc.timestamps.map fun t => number (decimalInt t.toInt))).good = true := by
    refine ⟨JsonPart.sound_array fun part hpart => ?_, good_array fun part hpart => ?_⟩
    · obtain ⟨t, -, rfl⟩ := List.mem_map.mp hpart
      exact JsonPart.sound_number (Lib.isJsonNumber_decimalInt _)
    · obtain ⟨t, -, rfl⟩ := List.mem_map.mp hpart
      rfl
  have hnumber : ∀ n, (number (decimal n)).Sound := fun n =>
    JsonPart.sound_number (Lib.isJsonNumber_decimal n)
  have hsound : (object (seriesFields doc)).Sound := by
    refine JsonPart.sound_object ?_
    simp only [seriesFields, List.forall_mem_cons, List.not_mem_nil, false_implies, implies_true,
      and_true]
    exact ⟨⟨by decide, hnumber _⟩, ⟨by decide, hnumber _⟩, ⟨by decide, hnumber _⟩,
      ⟨by decide, hseries.1⟩, by decide, htimes.1⟩
  have hgood : (object (seriesFields doc)).good = true := by
    refine good_object fun field hfield => ?_
    simp only [seriesFields, List.mem_cons, List.not_mem_nil, or_false] at hfield
    obtain rfl | rfl | rfl | rfl | rfl := hfield
    · rfl
    · rfl
    · rfl
    · exact hseries.2
    · exact htimes.2
  rw [text_seriesFields hclean, hsound.jsonDocument, JsonPart.read, if_pos hgood,
    value_seriesFields]

end Read

end AxisMetrics
