import AxisMetrics.Api.Documents
import AxisMetrics.Lib.JsonNumber
import AxisMetrics.Settings.RoundTrip

/-!
# The meta document

`api_meta_json` part by part: what the app, the device, the store and the metrics are. Whatever the
strings are, it is a document of JSON, and a reader gets them back where they are UTF-8
(`jsonDocument_apiMetaJson`).
-/

namespace AxisMetrics

open Lib (Bytes ascii decimal isUtf8 jsonDocument JsonPart PlainText)

variable {V D : Type}

/-- Strings as `append_kv` writes them. -/
def quotedFields (texts : List (Bytes × Bytes)) : List (Bytes × JsonPart) :=
  texts.map fun text => (text.1, .escaped jsonEscapeByte text.2)

def deviceTexts (device : DeviceIdentity) : List (Bytes × Bytes) :=
  [(ascii "model", device.model), (ascii "product", device.product), (ascii "type", device.type),
    (ascii "serial", device.serial), (ascii "soc", device.soc),
    (ascii "architecture", device.arch), (ascii "firmware", device.firmware),
    (ascii "hostname", device.hostname)]

def metricTexts (d : MetricDef) : List (Bytes × Bytes) :=
  [(ascii "id", d.id), (ascii "label", d.label), (ascii "unit", d.unit), (ascii "group", d.group)]

/-- The parts of `metricJson`. -/
def metricFields (selection : Selection) (d : MetricDef) : List (Bytes × JsonPart) :=
  quotedFields (metricTexts d) ++
    [(ascii "display", .bool (selectionEnabled selection .display d.id)),
      (ascii "transmit", .bool (selectionEnabled selection .transmit d.id))]

/-- The parts of `tierJson`. -/
def tierFields (api : Api V D) (i : Fin STORE_TIERS) : List (Bytes × JsonPart) :=
  [(ascii "interval", .number (decimal (api.store.tiers i).intervalS)),
    (ascii "capacity", .number (decimal (api.store.tiers i).ring.capacity)),
    (ascii "span", .number (decimal (storeTierSpanS api.store i))),
    (ascii "points", .number (decimal (api.store.tiers i).ring.count)),
    (ascii "persisted", .bool (api.persistPath.isSome && i == 2))]

def appTexts (api : Api V D) : List (Bytes × Bytes) :=
  [(ascii "name", ascii "Metrics"), (ascii "version", api.appVersion)]

/-- The lengths that the page offers. -/
def metaWindows : List ℕ := [300, 900, 1800, 3600, 21600, 86400, 604800, 2592000]

/-- The parts of `apiMetaJson`. -/
def metaFields (api : Api V D) : List (Bytes × JsonPart) :=
  [(ascii "app", .object (quotedFields (appTexts api))),
    (ascii "device", .object (quotedFields (deviceTexts api.device))),
    (ascii "store", .object
      [(ascii "persisted", .bool api.persistPath.isSome),
        (ascii "persistPath", .escaped jsonEscapeByte (api.persistPath.getD [])),
        (ascii "tiers", .array ((List.finRange STORE_TIERS).map fun i => .object (tierFields api i))),
        (ascii "bytes", .number (decimal (storeBytes api.store)))]),
    (ascii "windows", .array (metaWindows.map fun window => .number (decimal window))),
    (ascii "metrics",
      .array (api.registry.defs.map fun d => .object (metricFields api.selection d)))]

section Texts

open Lib.JsonPart (object array number fieldText escaped)

theorem appendKv_eq {key : Bytes} (hkey : appendEscaped key = key) (value : Bytes) (comma : Bool) :
    appendKv key value comma =
      (if comma then [44] else []) ++ fieldText (key, escaped jsonEscapeByte value) := by
  have hquote : ascii "\"" = [34] := rfl
  have hcomma : ascii "," = [44] := rfl
  have hbetween : ascii "\":\"" = [34, 58, 34] := rfl
  rw [appendKv, hkey, hquote, hcomma, hbetween, fieldText, escaped]
  simp [appendEscaped, jsonAppendEscaped]

theorem metricJson_eq (selection : Selection) (d : MetricDef) :
    metricJson selection d = (object (metricFields selection d)).text := by
  rw [metricJson]
  simp (disch := decide) only [appendKv_eq]
  simp [object, metricFields, quotedFields, metricTexts, fieldText, JsonPart.bool, trueFalse, ascii]

theorem tierJson_eq (api : Api V D) (i : Fin STORE_TIERS) :
    tierJson api i = (object (tierFields api i)).text := by
  rw [tierJson]
  simp [object, tierFields, fieldText, JsonPart.bool, number, trueFalse, ascii]

/-- An object of strings, as it is written. -/
theorem text_quotedFields {first : Bytes × Bytes} {others : List (Bytes × Bytes)}
    (hkeys : ∀ text ∈ first :: others, appendEscaped text.1 = text.1) :
    (object (quotedFields (first :: others))).text =
      123 :: (appendKv first.1 first.2 false ++
        others.flatMap (fun text => appendKv text.1 text.2 true) ++ [125]) := by
  obtain ⟨hfirst, hothers⟩ := List.forall_mem_cons.mp hkeys
  have hrest : ∀ field : Bytes, [44].intercalate (field :: (quotedFields others).map fieldText) =
      field ++ others.flatMap (fun text => appendKv text.1 text.2 true) := by
    clear hkeys
    induction others with
    | nil => exact fun field => by simp [quotedFields]
    | cons next others ih =>
      obtain ⟨hnext, hothers⟩ := List.forall_mem_cons.mp hothers
      intro field
      rw [quotedFields, List.map_cons, List.map_cons, List.intercalate_cons_cons, ← quotedFields,
        ih hothers, List.flatMap_cons, appendKv_eq hnext, if_pos rfl, List.append_assoc,
        List.append_assoc]
  rw [appendKv_eq hfirst]
  exact congrArg (123 :: · ++ [125]) (hrest _)

theorem text_appTexts (api : Api V D) : (object (quotedFields (appTexts api))).text =
    123 :: (appendKv (ascii "name") (ascii "Metrics") false ++
      (appendKv (ascii "version") api.appVersion true ++ [125])) := by
  have hkeys : ∀ text ∈ appTexts api, appendEscaped text.1 = text.1 := by
    simp only [appTexts, List.forall_mem_cons, List.not_mem_nil, false_implies, implies_true]
    decide
  have htext := text_quotedFields hkeys
  simpa only [appTexts, List.flatMap_cons, List.flatMap_nil, List.append_assoc, List.append_nil,
    List.nil_append] using htext

theorem text_deviceTexts (device : DeviceIdentity) :
    (object (quotedFields (deviceTexts device))).text =
      123 :: (appendKv (ascii "model") device.model false ++
        (appendKv (ascii "product") device.product true ++
        (appendKv (ascii "type") device.type true ++
        (appendKv (ascii "serial") device.serial true ++
        (appendKv (ascii "soc") device.soc true ++
        (appendKv (ascii "architecture") device.arch true ++
        (appendKv (ascii "firmware") device.firmware true ++
        (appendKv (ascii "hostname") device.hostname true ++ [125])))))))) := by
  have hkeys : ∀ text ∈ deviceTexts device, appendEscaped text.1 = text.1 := by
    simp only [deviceTexts, List.forall_mem_cons, List.not_mem_nil, false_implies, implies_true]
    decide
  have htext := text_quotedFields hkeys
  simpa only [deviceTexts, List.flatMap_cons, List.flatMap_nil, List.append_assoc, List.append_nil,
    List.nil_append] using htext

/-- The object of the store. -/
theorem text_storeFields (api : Api V D) (tiers : List JsonPart) :
    (object [(ascii "persisted", .bool api.persistPath.isSome),
        (ascii "persistPath", .escaped jsonEscapeByte (api.persistPath.getD [])),
        (ascii "tiers", .array tiers),
        (ascii "bytes", .number (decimal (storeBytes api.store)))]).text =
      ascii "\x7b\"persisted\":" ++ trueFalse api.persistPath.isSome ++ ascii "," ++
        appendKv (ascii "persistPath") (api.persistPath.getD []) false ++ ascii ",\"tiers\":[" ++
        [44].intercalate (tiers.map JsonPart.text) ++ ascii "],\"bytes\":" ++
        decimal (storeBytes api.store) ++ [125] := by
  rw [appendKv_eq (by decide)]
  simp [object, fieldText, JsonPart.bool, array, number, trueFalse, ascii]

/-- The five members of the document. -/
theorem text_metaObject (a b c d e : JsonPart) :
    (object [(ascii "app", a), (ascii "device", b), (ascii "store", c), (ascii "windows", d),
      (ascii "metrics", e)]).text =
      ascii "\x7b\"app\":" ++ a.text ++ ascii ",\"device\":" ++ b.text ++
        ascii ",\"store\":" ++ c.text ++ ascii ",\"windows\":" ++ d.text ++
        ascii ",\"metrics\":" ++ e.text ++ [125] := by
  simp [object, fieldText, ascii]

theorem apiMetaJson_eq (api : Api V D) : apiMetaJson api = (object (metaFields api)).text := by
  have htiers : (List.finRange STORE_TIERS).map (tierJson api) =
      ((List.finRange STORE_TIERS).map fun i => object (tierFields api i)).map JsonPart.text := by
    rw [List.map_map]
    exact List.map_congr_left fun i _ => tierJson_eq api i
  have hmetrics : api.registry.defs.map (metricJson api.selection) =
      (api.registry.defs.map fun d => object (metricFields api.selection d)).map JsonPart.text := by
    rw [List.map_map]
    exact List.map_congr_left fun d _ => metricJson_eq _ d
  have harray : (array (api.registry.defs.map fun d => object (metricFields api.selection d))).text =
      91 :: [44].intercalate (api.registry.defs.map (metricJson api.selection)) ++ [93] := by
    rw [hmetrics]
    rfl
  have hwindows : (array (metaWindows.map fun window => number (decimal window))).text =
      ascii "[300,900,1800,3600,21600,86400,604800,2592000]" := by decide
  -- the literals of the source, cut where the parts are
  have h₁ : ascii "\x7b\"app\":\x7b" = ascii "\x7b\"app\":" ++ [123] := rfl
  have h₂ : ascii "\x7d,\"device\":\x7b" = 125 :: (ascii ",\"device\":" ++ [123]) := rfl
  have h₃ : ascii "\x7d,\"store\":\x7b\"persisted\":" =
      125 :: (ascii ",\"store\":" ++ ascii "\x7b\"persisted\":") := rfl
  have h₄ : ascii "\x7d,\"windows\":[300,900,1800,3600,21600,86400,604800,2592000],\"metrics\":[" =
      125 :: (ascii ",\"windows\":" ++ (ascii "[300,900,1800,3600,21600,86400,604800,2592000]" ++
        (ascii ",\"metrics\":" ++ [91]))) := by decide
  have h₅ : ascii "]\x7d" = [93, 125] := rfl
  have hcomma : ascii "," = [44] := rfl
  have htext : (object (metaFields api)).text = _ := text_metaObject _ _ _ _ _
  rw [htext, harray, hwindows, text_storeFields, text_appTexts, text_deviceTexts]
  unfold apiMetaJson
  simp only [htiers, h₁, h₂, h₃, h₄, h₅, hcomma, List.append_assoc, List.cons_append,
    List.nil_append]

end Texts

section Sound

open Lib.JsonPart (object array number)

/-- Keys of letters and underscores. -/
theorem sound_quotedFields {texts : List (Bytes × Bytes)} (hkeys : ∀ text ∈ texts, PlainText text.1) :
    ∀ field ∈ quotedFields texts, PlainText field.1 ∧ field.2.Sound := by
  intro field hfield
  obtain ⟨text, htext, rfl⟩ := List.mem_map.mp hfield
  exact ⟨hkeys text htext, JsonPart.sound_escaped jsonPiece_jsonEscapeByte text.2⟩

theorem plain_metricTexts (d : MetricDef) : ∀ text ∈ metricTexts d, PlainText text.1 := by
  simp only [metricTexts, List.forall_mem_cons, List.not_mem_nil, false_implies, implies_true]
  decide

theorem sound_metricFields (selection : Selection) (d : MetricDef) :
    (object (metricFields selection d)).Sound := by
  have hdisplay : PlainText (ascii "display") := by decide
  have htransmit : PlainText (ascii "transmit") := by decide
  refine JsonPart.sound_object fun field hfield => ?_
  rcases List.mem_append.mp hfield with htext | hflag
  · exact sound_quotedFields (plain_metricTexts d) field htext
  · rcases List.mem_pair.mp hflag with rfl | rfl
    · exact ⟨hdisplay, JsonPart.sound_bool _⟩
    · exact ⟨htransmit, JsonPart.sound_bool _⟩

theorem sound_tierFields (api : Api V D) (i : Fin STORE_TIERS) :
    (object (tierFields api i)).Sound := by
  refine JsonPart.sound_object ?_
  have hnumber : ∀ n, (number (decimal n)).Sound := fun n =>
    JsonPart.sound_number (Lib.isJsonNumber_decimal n)
  simp only [tierFields, List.forall_mem_cons, List.not_mem_nil, false_implies, implies_true,
    and_true]
  exact ⟨⟨by decide, hnumber _⟩, ⟨by decide, hnumber _⟩, ⟨by decide, hnumber _⟩,
    ⟨by decide, hnumber _⟩, by decide, JsonPart.sound_bool _⟩

theorem sound_metaFields (api : Api V D) : (object (metaFields api)).Sound := by
  have happ : ∀ text ∈ appTexts api, PlainText text.1 := by
    simp only [appTexts, List.forall_mem_cons, List.not_mem_nil, false_implies, implies_true]
    decide
  have hdevice : ∀ text ∈ deviceTexts api.device, PlainText text.1 := by
    simp only [deviceTexts, List.forall_mem_cons, List.not_mem_nil, false_implies, implies_true]
    decide
  have hnumber : ∀ n, (number (decimal n)).Sound := fun n =>
    JsonPart.sound_number (Lib.isJsonNumber_decimal n)
  have htiers : (array ((List.finRange STORE_TIERS).map fun i => object (tierFields api i))).Sound := by
    refine JsonPart.sound_array fun part hpart => ?_
    obtain ⟨i, -, rfl⟩ := List.mem_map.mp hpart
    exact sound_tierFields api i
  have hwindows : (array (metaWindows.map fun window => number (decimal window))).Sound := by
    refine JsonPart.sound_array fun part hpart => ?_
    obtain ⟨window, -, rfl⟩ := List.mem_map.mp hpart
    exact hnumber window
  have hmetrics : (array (api.registry.defs.map fun d =>
      object (metricFields api.selection d))).Sound := by
    refine JsonPart.sound_array fun part hpart => ?_
    obtain ⟨d, -, rfl⟩ := List.mem_map.mp hpart
    exact sound_metricFields api.selection d
  have hstore : (object [(ascii "persisted", .bool api.persistPath.isSome),
      (ascii "persistPath", .escaped jsonEscapeByte (api.persistPath.getD [])),
      (ascii "tiers", array ((List.finRange STORE_TIERS).map fun i => object (tierFields api i))),
      (ascii "bytes", number (decimal (storeBytes api.store)))]).Sound := by
    refine JsonPart.sound_object ?_
    simp only [List.forall_mem_cons, List.not_mem_nil, false_implies, implies_true, and_true]
    exact ⟨⟨by decide, JsonPart.sound_bool _⟩,
      ⟨by decide, JsonPart.sound_escaped jsonPiece_jsonEscapeByte _⟩, ⟨by decide, htiers⟩,
      by decide, hnumber _⟩
  refine JsonPart.sound_object ?_
  simp only [metaFields, List.forall_mem_cons, List.not_mem_nil, false_implies, implies_true,
    and_true]
  exact ⟨⟨by decide, JsonPart.sound_object (sound_quotedFields happ)⟩,
    ⟨by decide, JsonPart.sound_object (sound_quotedFields hdevice)⟩, ⟨by decide, hstore⟩,
    ⟨by decide, hwindows⟩, by decide, hmetrics⟩

end Sound

/-- The strings of the document are UTF-8. -/
structure MetaReadable (api : Api V D) : Prop where
  version : isUtf8 api.appVersion = true
  device : ∀ text ∈ deviceTexts api.device, isUtf8 text.2 = true
  persistPath : isUtf8 (api.persistPath.getD []) = true
  metrics : ∀ d ∈ api.registry.defs, ∀ text ∈ metricTexts d, isUtf8 text.2 = true

section Good

open Lib.JsonPart (object array number)

theorem good_quotedFields {texts : List (Bytes × Bytes)} (h : ∀ text ∈ texts, isUtf8 text.2 = true) :
    ∀ field ∈ quotedFields texts, field.2.good = true := by
  intro field hfield
  obtain ⟨text, htext, rfl⟩ := List.mem_map.mp hfield
  exact h text htext

theorem good_object {fields : List (Bytes × JsonPart)} (h : ∀ field ∈ fields, field.2.good = true) :
    (object fields).good = true := List.all_eq_true.mpr h

theorem good_array {parts : List JsonPart} (h : ∀ part ∈ parts, part.good = true) :
    (array parts).good = true := List.all_eq_true.mpr h

theorem good_metaFields {api : Api V D} (h : MetaReadable api) :
    (object (metaFields api)).good = true := by
  have happ : ∀ text ∈ appTexts api, isUtf8 text.2 = true := by
    simp only [appTexts, List.forall_mem_cons, List.not_mem_nil, false_implies, implies_true,
      and_true]
    exact ⟨by decide, h.version⟩
  have htiers : (array ((List.finRange STORE_TIERS).map fun i =>
      object (tierFields api i))).good = true := by
    refine good_array fun part hpart => ?_
    obtain ⟨i, -, rfl⟩ := List.mem_map.mp hpart
    rfl
  have hwindows : (array (metaWindows.map fun window => number (decimal window))).good = true := rfl
  have hmetrics : (array (api.registry.defs.map fun d =>
      object (metricFields api.selection d))).good = true := by
    refine good_array fun part hpart => ?_
    obtain ⟨d, hd, rfl⟩ := List.mem_map.mp hpart
    refine good_object fun field hfield => ?_
    rcases List.mem_append.mp hfield with htext | hflag
    · exact good_quotedFields (h.metrics d hd) field htext
    · rcases List.mem_pair.mp hflag with rfl | rfl <;> rfl
  refine good_object ?_
  simp only [metaFields, List.forall_mem_cons, List.not_mem_nil, false_implies, implies_true,
    and_true]
  refine ⟨good_object (good_quotedFields happ), good_object (good_quotedFields h.device),
    good_object ?_, hwindows, hmetrics⟩
  simp only [List.forall_mem_cons, List.not_mem_nil, false_implies, implies_true, and_true]
  exact ⟨rfl, h.persistPath, htiers, rfl⟩

end Good

/-- The document is read back where its strings are UTF-8. -/
theorem jsonDocument_apiMetaJson {api : Api V D} (h : MetaReadable api) :
    jsonDocument (apiMetaJson api) = some (JsonPart.object (metaFields api)).value := by
  rw [apiMetaJson_eq, (sound_metaFields api).jsonDocument, JsonPart.read,
    if_pos (good_metaFields h)]

end AxisMetrics
