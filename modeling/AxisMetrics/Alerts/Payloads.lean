import AxisMetrics.Alerts.Document
import AxisMetrics.Collect.Registry
import AxisMetrics.Lib.JsonNumber
import AxisMetrics.Mqtt.Defs
import AxisMetrics.Numbers

/-!
# What is written of rules and labels

Three writers build JSON: `alerts_json` marks quotes and backslashes, the alert and discovery
payloads mark nothing, and none of them minds control characters, cut characters or numbers that are
not finite. `ruleDocuments_iff` says for which rules and labels the readers get back what was stored.
-/

namespace AxisMetrics

open Lib (Bytes ascii decimal decimalInt intercalate_concat Json JsonPart jsonDocument PlainText
  QuotableText)

/-- The parts of `ruleJson`. -/
def ruleFields (rule : AlertRule CDouble) : List (Bytes × JsonPart) :=
  [(ascii "id", .marked rule.id),
    (ascii "name", .marked rule.name),
    (ascii "metric", .marked rule.metric),
    (ascii "op", .raw (opName rule.op)),
    (ascii "threshold", .printed 6 rule.threshold.datum),
    (ascii "duration", .number (decimal rule.durationS)),
    (ascii "enabled", .bool rule.enabled),
    (ascii "builtin", .bool rule.builtin),
    (ascii "firing", .bool rule.firing),
    (ascii "value", .printed 6 rule.lastValue.datum),
    (ascii "since", .number (decimalInt rule.firedAt))]

/-- The parts of `alertsJson`. -/
def alertsFields (alerts : Alerts CDouble) : List (Bytes × JsonPart) :=
  [(ascii "rules", .array (alerts.rules.map fun rule => .object (ruleFields rule))),
    (ascii "firing", .number (decimal (alerts.rules.countP AlertRule.firing)))]

/-- The strings of an alert payload. -/
def alertTexts (ruleId name metric : Bytes) : List (Bytes × Bytes) :=
  [(ascii "rule", ruleId), (ascii "name", name), (ascii "metric", metric)]

/-- The parts of `alertPayload` behind its strings. -/
def alertFields (value : CDouble) (firing : Bool) : List (Bytes × JsonPart) :=
  [(ascii "value", .printed 6 value.datum),
    (ascii "state", .raw (if firing then ascii "firing" else ascii "cleared"))]

/-- The parts of `discoveryPayload` behind the name. -/
def discoveryFields (device : DeviceInfo) (stateTopic availabilityTopic : Bytes) (d : MetricDef) :
    List (Bytes × JsonPart) :=
  [(ascii "unique_id", .raw (ascii "axis_" ++ objectId device d)),
    (ascii "state_topic", .raw stateTopic),
    (ascii "availability_topic", .raw availabilityTopic),
    (ascii "value_template",
      .raw (ascii "\x7b\x7b value_json[\x27" ++ d.id ++ ascii "\x27] \x7d\x7d"))] ++
  (if d.unit = [] then [] else [(ascii "unit_of_measurement", .raw (haUnitFor d.unit))]) ++
  ((deviceClassFor d.unit).toList.map fun deviceClass => (ascii "device_class", .raw deviceClass)) ++
  ((haSuggestedUnit d).toList.flatMap fun suggested =>
    [(ascii "suggested_unit_of_measurement", .raw suggested),
      (ascii "suggested_display_precision", .number (ascii "1"))]) ++
  [(ascii "state_class", .raw (ascii "measurement"))] ++
  [(ascii "device", .object
      [(ascii "identifiers", .array [.raw (ascii "axis_" ++ device.serial)]),
        (ascii "name", .raw (if device.model = [] then ascii "Axis device" else device.model)),
        (ascii "manufacturer", .raw (ascii "Axis")),
        (ascii "model", .raw device.model),
        (ascii "sw_version", .raw device.firmware)])]

theorem alertsAppendEscaped_eq (s : Bytes) : alertsAppendEscaped s =
    s.flatMap fun b => if Lib.isMarked b then [92, b] else [b] := by
  simp only [alertsAppendEscaped, Lib.isMarked, decide_eq_true_eq]

section Texts

open Lib.JsonPart (object array raw raws marked printed number fieldText)

theorem ruleJson_eq (rule : AlertRule CDouble) :
    ruleJson CFloat rule = (object (ruleFields rule)).text := by
  unfold ruleJson
  simp [alertsAppendEscaped_eq, formatG_eq, object, ruleFields, fieldText, marked, raw, printed,
    number, JsonPart.bool, trueFalse, ascii]

theorem alertsJson_eq (alerts : Alerts CDouble) :
    alertsJson CFloat alerts = (object (alertsFields alerts)).text := by
  have hrules : alerts.rules.map (ruleJson CFloat) =
      (alerts.rules.map fun rule => object (ruleFields rule)).map JsonPart.text := by
    rw [List.map_map]
    exact List.map_congr_left fun rule _ => ruleJson_eq rule
  rw [alertsJson, hrules, alertsFields]
  simp [object, fieldText, array, number, ascii]

theorem alertPayload_eq (ruleId name metric : Bytes) (value : CDouble) (firing : Bool) :
    alertPayload (RenderArith.formatG CFloat) ruleId name metric value firing =
      (object (raws (alertTexts ruleId name metric) ++ alertFields value firing)).text := by
  simp [alertPayload, formatG_eq, object, alertTexts, alertFields, fieldText, raws, raw, printed,
    ascii]

theorem classText (deviceClass : Option Bytes) :
    ((deviceClass.toList.map fun deviceClass =>
      (ascii "device_class", raw deviceClass)).map fieldText).flatMap (fun text => text ++ [44]) =
      deviceClass.elim [] fun deviceClass =>
        ascii "\"device_class\":\"" ++ deviceClass ++ ascii "\"," := by
  cases deviceClass
  · rfl
  · simp [fieldText, raw, ascii]

theorem suggestedText (suggested : Option Bytes) :
    ((suggested.toList.flatMap fun suggested =>
      [(ascii "suggested_unit_of_measurement", raw suggested),
        (ascii "suggested_display_precision", number (ascii "1"))]).map fieldText).flatMap
        (fun text => text ++ [44]) =
      suggested.elim [] fun suggested =>
        ascii "\"suggested_unit_of_measurement\":\"" ++ suggested ++
          ascii "\"," ++ ascii "\"suggested_display_precision\":1," := by
  cases suggested
  · rfl
  · simp [fieldText, raw, number, ascii]

theorem discoveryPayload_eq (device : DeviceInfo) (stateTopic availabilityTopic : Bytes)
    (d : MetricDef) : discoveryPayload device stateTopic availabilityTopic d =
      (object (raws [(ascii "name", d.label)] ++
        discoveryFields device stateTopic availabilityTopic d)).text := by
  -- what each group of members contributes, with the commas behind them
  have hunit : ((if d.unit = [] then []
      else [(ascii "unit_of_measurement", raw (haUnitFor d.unit))]).map fieldText).flatMap
        (fun text => text ++ [44]) = if d.unit = [] then []
      else ascii "\"unit_of_measurement\":\"" ++ haUnitFor d.unit ++ ascii "\"," := by
    split_ifs
    · rfl
    · simp [fieldText, raw, ascii]
  have hclass := classText (deviceClassFor d.unit)
  have hsuggested := suggestedText (haSuggestedUnit d)
  have hdevice : ascii "\"device\":\x7b\"identifiers\":[\"axis_" ++ (device.serial ++
      (ascii "\"],\"name\":\"" ++ ((if device.model = [] then ascii "Axis device" else device.model) ++
      (ascii "\"," ++ (ascii "\"manufacturer\":\"Axis\",\"model\":\"" ++ (device.model ++
      (ascii "\",\"sw_version\":\"" ++ (device.firmware ++ ascii "\"\x7d\x7d")))))))) =
      fieldText (ascii "device", object
        [(ascii "identifiers", array [raw (ascii "axis_" ++ device.serial)]),
          (ascii "name", raw (if device.model = [] then ascii "Axis device" else device.model)),
          (ascii "manufacturer", raw (ascii "Axis")),
          (ascii "model", raw device.model),
          (ascii "sw_version", raw device.firmware)]) ++ [125] := by
    simp [fieldText, object, array, raw, ascii]
  change _ = 123 :: [44].intercalate _ ++ [125]
  unfold discoveryPayload discoveryFields
  rw [← List.append_assoc (raws _), List.map_append, List.map_singleton, intercalate_concat]
  simp only [List.map_append, List.flatMap_append, hunit, hclass, hsuggested, List.append_assoc,
    hdevice]
  simp [fieldText, raws, raw, ascii]
  cases deviceClassFor d.unit <;> cases haSuggestedUnit d <;> rfl

end Texts

/-- The strings of the rule can be marked, and its numbers are finite. -/
def RuleWritable (rule : AlertRule CDouble) : Prop :=
  (QuotableText rule.id ∧ QuotableText rule.name ∧ QuotableText rule.metric) ∧
    rule.threshold.datum.isFinite = true ∧ rule.lastValue.datum.isFinite = true

instance (rule : AlertRule CDouble) : Decidable (RuleWritable rule) :=
  inferInstanceAs (Decidable ((_ ∧ _ ∧ _) ∧ _ ∧ _))

/-- The strings of the rule are plain, and its last value is finite. -/
def AlertWritable (rule : AlertRule CDouble) : Prop :=
  (PlainText rule.id ∧ PlainText rule.name ∧ PlainText rule.metric) ∧
    rule.lastValue.datum.isFinite = true

/-- What the discovery payload has besides the label is plain. -/
structure PlainDevice (device : DeviceInfo) (stateTopic availabilityTopic : Bytes) (d : MetricDef) :
    Prop where
  serial : PlainText device.serial
  model : PlainText device.model
  firmware : PlainText device.firmware
  stateTopic : PlainText stateTopic
  availabilityTopic : PlainText availabilityTopic
  id : PlainText d.id
  unit : PlainText d.unit

section Sound

open Lib.JsonPart (object array raw raws marked printed number Sound)

theorem sound_ruleFields (rule : AlertRule CDouble) : (object (ruleFields rule)).Sound := by
  refine JsonPart.sound_object ?_
  have hop : PlainText (opName rule.op) := by cases rule.op <;> decide
  simp only [ruleFields, List.forall_mem_cons, List.not_mem_nil, false_implies, implies_true,
    and_true]
  exact ⟨⟨by decide, JsonPart.sound_marked _⟩, ⟨by decide, JsonPart.sound_marked _⟩,
    ⟨by decide, JsonPart.sound_marked _⟩, ⟨by decide, JsonPart.sound_raw hop⟩,
    ⟨by decide, JsonPart.sound_printed _ _⟩,
    ⟨by decide, JsonPart.sound_number (Lib.isJsonNumber_decimal _)⟩,
    ⟨by decide, JsonPart.sound_bool _⟩, ⟨by decide, JsonPart.sound_bool _⟩,
    ⟨by decide, JsonPart.sound_bool _⟩, ⟨by decide, JsonPart.sound_printed _ _⟩,
    ⟨by decide, JsonPart.sound_number (Lib.isJsonNumber_decimalInt _)⟩⟩

theorem good_ruleFields (rule : AlertRule CDouble) :
    (object (ruleFields rule)).good = true ↔ RuleWritable rule := by
  simp only [object, ruleFields, marked, raw, printed, number, JsonPart.bool, List.all_cons,
    List.all_nil, Bool.true_and, Bool.and_true, Bool.and_eq_true, decide_eq_true_eq, RuleWritable]
  constructor
  · rintro ⟨hid, hname, hmetric, hthreshold, hvalue⟩
    exact ⟨⟨hid, hname, hmetric⟩, hthreshold, hvalue⟩
  · rintro ⟨⟨hid, hname, hmetric⟩, hthreshold, hvalue⟩
    exact ⟨hid, hname, hmetric, hthreshold, hvalue⟩

theorem sound_alertsFields (alerts : Alerts CDouble) : (object (alertsFields alerts)).Sound := by
  refine JsonPart.sound_object ?_
  simp only [alertsFields, List.forall_mem_cons, List.not_mem_nil, false_implies, implies_true,
    and_true]
  refine ⟨⟨by decide, JsonPart.sound_array fun part hpart => ?_⟩, by decide,
    JsonPart.sound_number (Lib.isJsonNumber_decimal _)⟩
  obtain ⟨rule, -, rfl⟩ := List.mem_map.mp hpart
  exact sound_ruleFields rule

theorem good_alertsFields (alerts : Alerts CDouble) :
    (object (alertsFields alerts)).good = true ↔ ∀ rule ∈ alerts.rules, RuleWritable rule := by
  simp only [object, alertsFields, array, number, List.all_cons, List.all_nil, Bool.and_true,
    List.all_map, List.all_eq_true]
  exact forall₂_congr fun rule _ => good_ruleFields rule

theorem sound_alertFields {ruleId name metric : Bytes}
    (h : PlainText ruleId ∧ PlainText name ∧ PlainText metric) (value : CDouble) (firing : Bool) :
    (object (raws (alertTexts ruleId name metric) ++ alertFields value firing)).Sound := by
  refine JsonPart.sound_object ?_
  have hstate : PlainText (if firing then ascii "firing" else ascii "cleared") := by
    cases firing <;> decide
  simp only [raws, alertTexts, alertFields, List.map_cons, List.map_nil, List.cons_append,
    List.nil_append, List.forall_mem_cons, List.not_mem_nil, false_implies, implies_true, and_true]
  exact ⟨⟨by decide, JsonPart.sound_raw h.1⟩, ⟨by decide, JsonPart.sound_raw h.2.1⟩,
    ⟨by decide, JsonPart.sound_raw h.2.2⟩, ⟨by decide, JsonPart.sound_printed _ _⟩,
    ⟨by decide, JsonPart.sound_raw hstate⟩⟩

theorem good_alertFields (ruleId name metric : Bytes) (value : CDouble) (firing : Bool) :
    (object (raws (alertTexts ruleId name metric) ++ alertFields value firing)).good = true ↔
      value.datum.isFinite = true := by
  simp [object, raws, raw, alertTexts, alertFields, printed]

theorem plainText_objectId (device : DeviceInfo) (d : MetricDef) :
    PlainText (objectId device d) := by
  refine Lib.plainText_of_isAlnum fun b hb => ?_
  obtain ⟨c, -, rfl⟩ := List.mem_map.mp hb
  split
  · next halnum => exact .inl halnum
  · exact .inr (.inl rfl)

theorem plainText_haUnitFor {unit : Bytes} (h : PlainText unit) : PlainText (haUnitFor unit) := by
  unfold haUnitFor
  split_ifs
  iterate 6 decide
  exact h

theorem plainText_deviceClassFor {unit deviceClass : Bytes}
    (h : deviceClassFor unit = some deviceClass) : PlainText deviceClass := by
  unfold deviceClassFor at h
  split_ifs at h <;> cases h <;> decide

theorem plainText_haSuggestedUnit {d : MetricDef} {suggested : Bytes}
    (h : haSuggestedUnit d = some suggested) : PlainText suggested := by
  unfold haSuggestedUnit at h
  split_ifs at h <;> cases h <;> decide

theorem sound_discoveryFields {device : DeviceInfo} {stateTopic availabilityTopic : Bytes}
    {d : MetricDef} (h : PlainDevice device stateTopic availabilityTopic d)
    (hlabel : PlainText d.label) : (object (raws [(ascii "name", d.label)] ++
      discoveryFields device stateTopic availabilityTopic d)).Sound := by
  have hprefixed : ∀ {text : Bytes}, PlainText text → PlainText (ascii "axis_" ++ text) :=
    fun htext => .append (by decide) htext
  have hmodel : PlainText (if device.model = [] then ascii "Axis device" else device.model) := by
    split
    · decide
    · exact h.model
  have htemplate : PlainText (ascii "\x7b\x7b value_json[\x27" ++ d.id ++ ascii "\x27] \x7d\x7d") :=
    .append (.append (by decide) h.id) (by decide)
  have hdevice : (object
      [(ascii "identifiers", array [raw (ascii "axis_" ++ device.serial)]),
        (ascii "name", raw (if device.model = [] then ascii "Axis device" else device.model)),
        (ascii "manufacturer", raw (ascii "Axis")),
        (ascii "model", raw device.model),
        (ascii "sw_version", raw device.firmware)]).Sound := by
    refine JsonPart.sound_object ?_
    simp only [List.forall_mem_cons, List.not_mem_nil, false_implies, implies_true, and_true]
    refine ⟨⟨by decide, JsonPart.sound_array fun part hpart => ?_⟩,
      ⟨by decide, JsonPart.sound_raw hmodel⟩, ⟨by decide, JsonPart.sound_raw (by decide)⟩,
      ⟨by decide, JsonPart.sound_raw h.model⟩, ⟨by decide, JsonPart.sound_raw h.firmware⟩⟩
    rw [List.mem_singleton.mp hpart]
    exact JsonPart.sound_raw (hprefixed h.serial)
  refine JsonPart.sound_object ?_
  simp only [raws, discoveryFields, List.map_cons, List.map_nil, List.forall_mem_append,
    List.forall_mem_cons, List.not_mem_nil, false_implies, implies_true, and_true]
  refine ⟨⟨by decide, JsonPart.sound_raw hlabel⟩, ⟨⟨⟨⟨⟨⟨by decide, JsonPart.sound_raw
    (hprefixed (plainText_objectId device d))⟩, ⟨by decide, JsonPart.sound_raw h.stateTopic⟩,
    ⟨by decide, JsonPart.sound_raw h.availabilityTopic⟩, by decide, JsonPart.sound_raw htemplate⟩,
    ?unit⟩, ?deviceClass⟩, ?suggested⟩, by decide, JsonPart.sound_raw (by decide)⟩,
    by decide, hdevice⟩
  case unit =>
    split_ifs
    · exact fun field hfield => absurd hfield List.not_mem_nil
    · intro field hfield
      rw [List.mem_singleton.mp hfield]
      exact ⟨show PlainText (ascii "unit_of_measurement") by decide,
        JsonPart.sound_raw (plainText_haUnitFor h.unit)⟩
  case deviceClass =>
    intro field hfield
    obtain ⟨deviceClass, hclass, rfl⟩ := List.mem_map.mp hfield
    exact ⟨show PlainText (ascii "device_class") by decide,
      JsonPart.sound_raw (plainText_deviceClassFor (Option.mem_toList.mp hclass))⟩
  case suggested =>
    intro field hfield
    obtain ⟨suggested, hsuggested, hmem⟩ := List.mem_flatMap.mp hfield
    rcases List.mem_cons.mp hmem with rfl | hmem
    · exact ⟨show PlainText (ascii "suggested_unit_of_measurement") by decide +kernel,
        JsonPart.sound_raw (plainText_haSuggestedUnit (Option.mem_toList.mp hsuggested))⟩
    · rw [List.mem_singleton.mp hmem]
      exact ⟨by decide +kernel, JsonPart.sound_number (by decide)⟩

theorem good_discoveryFields (device : DeviceInfo) (stateTopic availabilityTopic : Bytes)
    (d : MetricDef) : (object (raws [(ascii "name", d.label)] ++
      discoveryFields device stateTopic availabilityTopic d)).good = true := by
  by_cases hunit : d.unit = []
  · simp [object, array, raws, raw, number, discoveryFields, hunit]
  · simp [object, array, raws, raw, number, discoveryFields, hunit]

end Sound

/-- The document parses, and gives back the id, name and metric of every rule. -/
def RulesReadBack (document : Bytes) (rules : List (AlertRule CDouble)) : Prop :=
  ∃ items more, jsonDocument document = some (.object ((ascii "rules", .array items) :: more)) ∧
    List.Forall₂ (fun item rule => item.StartsWith
      [(ascii "id", rule.id), (ascii "name", rule.name), (ascii "metric", rule.metric)]) items rules

/-- The payload parses, and gives back these strings. -/
def TextsReadBack (payload : Bytes) (texts : List (Bytes × Bytes)) : Prop :=
  ∃ value, jsonDocument payload = some value ∧ value.StartsWith texts

theorem rulesReadBack_iff (alerts : Alerts CDouble) :
    RulesReadBack (alertsJson CFloat alerts) alerts.rules ↔
      ∀ rule ∈ alerts.rules, RuleWritable rule := by
  rw [RulesReadBack, alertsJson_eq, (sound_alertsFields alerts).jsonDocument, JsonPart.read,
    ← good_alertsFields alerts]
  constructor
  · rintro ⟨items, more, hdocument, -⟩
    split at hdocument
    · assumption
    · cases hdocument
  · intro hgood
    refine ⟨_, _, if_pos hgood, ?_⟩
    rw [List.map_map, List.forall₂_map_left_iff, List.forall₂_same]
    exact fun rule _ => ⟨_, rfl⟩

theorem alertReadsBack_iff (rule : AlertRule CDouble) (firing : Bool) :
    TextsReadBack (alertPayload (RenderArith.formatG CFloat) rule.id rule.name rule.metric
        rule.lastValue firing) (alertTexts rule.id rule.name rule.metric) ↔ AlertWritable rule := by
  rw [TextsReadBack, alertPayload_eq]
  constructor
  · rintro ⟨value, hdocument, hstarts⟩
    have hkeys : ∀ text ∈ alertTexts rule.id rule.name rule.metric, PlainText text.1 := by
      simp only [alertTexts, List.forall_mem_cons, List.not_mem_nil, false_implies, implies_true,
        and_true]
      decide
    have hplain := JsonPart.plain_of_startsWith hkeys (List.cons_ne_nil _ _) hdocument hstarts
    simp only [alertTexts, List.forall_mem_cons] at hplain
    have hstrings : PlainText rule.id ∧ PlainText rule.name ∧ PlainText rule.metric :=
      ⟨hplain.1, hplain.2.1, hplain.2.2.1⟩
    rw [(sound_alertFields hstrings rule.lastValue firing).jsonDocument, JsonPart.read] at hdocument
    split at hdocument
    · next hgood => exact ⟨hstrings, (good_alertFields _ _ _ _ _).mp hgood⟩
    · cases hdocument
  · rintro ⟨hstrings, hvalue⟩
    rw [(sound_alertFields hstrings rule.lastValue firing).jsonDocument, JsonPart.read,
      if_pos ((good_alertFields _ _ _ _ _).mpr hvalue)]
    exact ⟨_, rfl, _, rfl⟩

theorem plain_of_labelReadsBack {device : DeviceInfo} {stateTopic availabilityTopic : Bytes}
    {d : MetricDef} (h : TextsReadBack (discoveryPayload device stateTopic availabilityTopic d)
      [(ascii "name", d.label)]) : PlainText d.label := by
  obtain ⟨value, hdocument, hstarts⟩ := h
  rw [discoveryPayload_eq] at hdocument
  have hkeys : ∀ text ∈ [(ascii "name", d.label)], PlainText text.1 := fun text htext => by
    rw [List.mem_singleton.mp htext]
    exact show PlainText (ascii "name") by decide
  exact JsonPart.plain_of_startsWith hkeys (List.cons_ne_nil _ _) hdocument hstarts _
    List.mem_cons_self

theorem labelReadsBack_iff {device : DeviceInfo} {stateTopic availabilityTopic : Bytes}
    {d : MetricDef} (h : PlainDevice device stateTopic availabilityTopic d) :
    TextsReadBack (discoveryPayload device stateTopic availabilityTopic d)
      [(ascii "name", d.label)] ↔ PlainText d.label := by
  refine ⟨plain_of_labelReadsBack, fun hlabel => ?_⟩
  rw [TextsReadBack, discoveryPayload_eq, (sound_discoveryFields h hlabel).jsonDocument,
    JsonPart.read, if_pos (good_discoveryFields _ _ _ _)]
  exact ⟨_, rfl, _, rfl⟩

/-- The document of the rules gives them back just if every rule can be marked and printed, the
payload of an alert just if the strings of its rule are plain and its value is finite, and a discovery
payload, of a device whose own strings are plain, just if the label is. -/
theorem ruleDocuments_iff (alerts : Alerts CDouble) (rule : AlertRule CDouble) (firing : Bool)
    (device : DeviceInfo) (stateTopic availabilityTopic : Bytes) (d : MetricDef) :
    (RulesReadBack (alertsJson CFloat alerts) alerts.rules ↔
      ∀ rule ∈ alerts.rules, RuleWritable rule) ∧
    (TextsReadBack (alertPayload (RenderArith.formatG CFloat) rule.id rule.name rule.metric
        rule.lastValue firing) (alertTexts rule.id rule.name rule.metric) ↔ AlertWritable rule) ∧
    (PlainDevice device stateTopic availabilityTopic d →
      (TextsReadBack (discoveryPayload device stateTopic availabilityTopic d)
        [(ascii "name", d.label)] ↔ PlainText d.label)) :=
  ⟨rulesReadBack_iff alerts, alertReadsBack_iff rule firing, fun h => labelReadsBack_iff h⟩

/-- A camera whose strings are plain. -/
def plainCamera : DeviceInfo := ⟨ascii "M1", ascii "ACCC8E", ascii "11.0", by decide⟩

/-- A metric with a plain label. -/
def memoryMetric : MetricDef :=
  ⟨ascii "mem.usage", ascii "Memory usage", ascii "%", ascii "memory", by decide, by decide⟩

theorem ruleDocuments_iff_memory : TextsReadBack
    (discoveryPayload plainCamera (ascii "axis/state") (ascii "axis/status") memoryMetric)
    [(ascii "name", memoryMetric.label)] :=
  ((ruleDocuments_iff ⟨[], false, false, by decide, List.nodup_nil⟩
    (clearedRule CFloat (ascii "a")) true plainCamera (ascii "axis/state") (ascii "axis/status")
    memoryMetric).2.2 ⟨by decide, by decide, by decide, by decide, by decide, by decide, by decide⟩).mpr
    (by decide)

/-- The rules after one request. -/
def rulesAfter (body : Bytes) : Alerts CDouble :=
  ((alertsApply CFloat (fun _ _ => 0) ⟨[], false, false, by decide, List.nodup_nil⟩ body).map
    Prod.fst).getD ⟨[], false, false, by decide, List.nodup_nil⟩

/-- A card that is mounted on a path with a space. -/
def spacedCard : Machine where
  file path := if path = ascii "/proc/mounts" then
    some (ascii "/dev/sda1 /mnt/SD\\040card ext4 rw 0 0\n") else none
  isDir _ := false
  fileExists _ := false
  dirNames _ := none
  statvfs _ := none
  vapixGet _ := none

/-- A line feed in a name, quotes in a name, and the escape of `/proc/mounts` in a label. -/
theorem not_ruleDocuments_readBack :
    ¬ RulesReadBack (alertsJson CFloat (rulesAfter (ascii "action=save&id=a&name=two%0Alines")))
        (rulesAfter (ascii "action=save&id=a&name=two%0Alines")).rules ∧
    (∃ rule ∈ (rulesAfter (ascii "action=save&id=a&name=the%20%22big%22%20one")).rules,
      ¬ TextsReadBack (alertPayload (RenderArith.formatG CFloat) rule.id rule.name rule.metric
        rule.lastValue true) (alertTexts rule.id rule.name rule.metric)) ∧
    ∃ d ∈ spacedCard.registry.defs, ¬ TextsReadBack
      (discoveryPayload plainCamera (ascii "axis/state") (ascii "axis/status") d)
      [(ascii "name", d.label)] := by
  refine ⟨?_, ?_, ?_⟩
  · rw [rulesReadBack_iff]
    decide +kernel
  · have hodd : ∃ rule ∈ (rulesAfter (ascii "action=save&id=a&name=the%20%22big%22%20one")).rules,
        ¬ PlainText rule.name := by decide +kernel
    obtain ⟨rule, hrule, hname⟩ := hodd
    exact ⟨rule, hrule, fun h => hname ((alertReadsBack_iff rule true).mp h).1.2.1⟩
  · have hodd : ∃ d ∈ spacedCard.registry.defs, ¬ PlainText d.label := by decide +kernel
    obtain ⟨d, hd, hlabel⟩ := hodd
    exact ⟨d, hd, fun h => hlabel (plain_of_labelReadsBack h)⟩

end AxisMetrics
