import AxisMetrics.Api.Series
import AxisMetrics.Lib.Decimal
import AxisMetrics.Mqtt.Defs
import AxisMetrics.Selection
import AxisMetrics.Settings.Defs
import Mathlib.Data.List.Sort

/-!
# The documents of the API

JSON and Prometheus rendering for the metric endpoints, of everything the metrics, the rules and
the processes have to show. `RenderArith` lists what the rendering does with numbers.
-/

namespace AxisMetrics

open Lib (Bytes ascii strsplit strlcpy snprintf decimal decimalInt)

/-- What rendering does with a `float` of type `V` and a `double` of type `T`. -/
class RenderArith (V : Type) (T : outParam Type) where
  isinf : V → Bool
  /-- The conversion `%.7g`. -/
  format7g : V → Bytes
  /-- The conversion `%g`. -/
  formatG : T → Bytes
  /-- The conversion `%.2f`. -/
  format2f : T → Bytes
  /-- `a > b`. -/
  greater : T → T → Bool

/-- Whole-number readings, with `none` for NaN. -/
instance : SampleArith (Option ℤ) ℤ where
  zero := some 0
  nan := none
  isnan := Option.isNone
  isnan_nan := rfl
  accZero := 0
  accAdd sum value := sum + value.getD 0
  mean sum n := some (sum / n)

/-- They are rendered as such. -/
instance : RenderArith (Option ℤ) ℤ where
  isinf _ := false
  format7g value := decimalInt (value.getD 0)
  formatG := decimalInt
  format2f value := decimalInt value ++ ascii ".00"
  greater a b := b < a

/-- `DeviceInfo`. -/
structure DeviceIdentity extends DeviceInfo where
  product : Bytes
  type : Bytes
  soc : Bytes
  arch : Bytes
  hostname : Bytes

/-- `Api`; a `persistPath` of `none` means that history is memory-only. -/
structure Api (V D : Type) where
  registry : MetricRegistry
  store : Store V D registry
  selection : Selection
  device : DeviceIdentity
  appVersion : Bytes
  persistPath : Option Bytes
  mqttStatus : Bytes
  influxStatus : Bytes
  started : ℤ

variable {V D T : Type}

/-- What MQTT publishing reads of the `Api`. -/
def Api.mqttApi (api : Api V D) : MqttApi :=
  ⟨api.registry, selectionEnabled api.selection .transmit, api.device.toDeviceInfo⟩

/-- `store_latest`. -/
def storeLatest {registry : MetricRegistry} (store : Store V D registry) :
    Option (Row V registry.count) :=
  if store.hasLatest then some store.latest else none

/-- `store_bytes`. -/
def storeBytes {registry : MetricRegistry} (store : Store V D registry) : ℕ :=
  ((List.finRange STORE_TIERS).map fun i =>
    (store.tiers i).ring.capacity * perSample registry.count).sum

/-- `append_escaped` of `api.c`, which is the function of `main.c`. -/
def appendEscaped (value : Bytes) : Bytes := jsonAppendEscaped value

/-- `append_kv`. -/
def appendKv (key value : Bytes) (comma : Bool) : Bytes :=
  (if comma then ascii "," else []) ++ ascii "\"" ++ appendEscaped key ++ ascii "\":\"" ++
  appendEscaped value ++ ascii "\""

/-- `"true"` or `"false"`. -/
def trueFalse (b : Bool) : Bytes := if b then ascii "true" else ascii "false"

section Numbers

variable [SampleArith V D] [RenderArith V T]

/-- `append_number`. JSON has no NaN, so unavailable readings become null. -/
def appendNumber (value : V) : Bytes :=
  if SampleArith.isnan value || RenderArith.isinf value then ascii "null"
  else RenderArith.format7g value

/-- One value by its id. -/
def valueEntry (id : Bytes) (value : V) : Bytes :=
  ascii "\"" ++ appendEscaped id ++ ascii "\":" ++ appendNumber value

/-- The values of a row that are not NaN and whose metric is shown, by id. -/
def valuesObject {registry : MetricRegistry} (shown : Bytes → Bool)
    (row : Row V registry.count) : Bytes :=
  ascii "\x7b" ++ (ascii ",").intercalate (((List.finRange registry.count).filter fun i =>
      !SampleArith.isnan (row.values i) && shown (registry.id i)).map fun i =>
        valueEntry (registry.id i) (row.values i)) ++ ascii "\x7d"

omit [SampleArith V D] [RenderArith V T] in
/-- A tier in `api_meta_json`. -/
def tierJson (api : Api V D) (i : Fin STORE_TIERS) : Bytes :=
  ascii "\x7b\"interval\":" ++ decimal (api.store.tiers i).intervalS ++
  ascii ",\"capacity\":" ++ decimal (api.store.tiers i).ring.capacity ++
  ascii ",\"span\":" ++ decimal (storeTierSpanS api.store i) ++
  ascii ",\"points\":" ++ decimal (api.store.tiers i).ring.count ++
  ascii ",\"persisted\":" ++ trueFalse (api.persistPath.isSome && i == 2) ++ ascii "\x7d"

/-- A metric in `api_meta_json`. -/
def metricJson (selection : Selection) (d : MetricDef) : Bytes :=
  ascii "\x7b" ++ appendKv (ascii "id") d.id false ++ appendKv (ascii "label") d.label true ++
  appendKv (ascii "unit") d.unit true ++ appendKv (ascii "group") d.group true ++
  ascii ",\"display\":" ++ trueFalse (selectionEnabled selection .display d.id) ++
  ascii ",\"transmit\":" ++ trueFalse (selectionEnabled selection .transmit d.id) ++ ascii "\x7d"

/-- `api_meta_json`. -/
def apiMetaJson (api : Api V D) : Bytes :=
  ascii "\x7b\"app\":\x7b" ++ appendKv (ascii "name") (ascii "Metrics") false ++
  appendKv (ascii "version") api.appVersion true ++
  ascii "\x7d,\"device\":\x7b" ++ appendKv (ascii "model") api.device.model false ++
  appendKv (ascii "product") api.device.product true ++
  appendKv (ascii "type") api.device.type true ++
  appendKv (ascii "serial") api.device.serial true ++
  appendKv (ascii "soc") api.device.soc true ++
  appendKv (ascii "architecture") api.device.arch true ++
  appendKv (ascii "firmware") api.device.firmware true ++
  appendKv (ascii "hostname") api.device.hostname true ++
  ascii "\x7d,\"store\":\x7b\"persisted\":" ++ trueFalse api.persistPath.isSome ++ ascii "," ++
  appendKv (ascii "persistPath") (api.persistPath.getD []) false ++
  ascii ",\"tiers\":[" ++
  (ascii ",").intercalate ((List.finRange STORE_TIERS).map (tierJson api)) ++
  ascii "],\"bytes\":" ++ decimal (storeBytes api.store) ++
  ascii "\x7d,\"windows\":[300,900,1800,3600,21600,86400,604800,2592000],\"metrics\":[" ++
  (ascii ",").intercalate (api.registry.defs.map (metricJson api.selection)) ++ ascii "]\x7d"

/-- `api_current_json`. -/
def apiCurrentJson (api : Api V D) : Bytes :=
  match storeLatest api.store with
  | none => ascii "\x7b\"timestamp\":0,\"values\":\x7b\x7d\x7d"
  | some row => ascii "\x7b\"timestamp\":" ++ decimalInt row.timestamp.toInt ++
      ascii ",\"values\":" ++ valuesObject (fun _ => true) row ++ ascii "\x7d"

/-- `api_current_values_json`. -/
def apiCurrentValuesJson (api : Api V D) : Bytes :=
  match storeLatest api.store with
  | none => ascii "\x7b\x7d"
  | some row => valuesObject (selectionEnabled api.selection .transmit) row

/-- One metric of a series response. -/
def seriesEntry (series : Bytes × List V) : Bytes :=
  ascii "\"" ++ appendEscaped series.1 ++ ascii "\":[" ++
  (ascii ",").intercalate (series.2.map appendNumber) ++ ascii "]"

/-- The text of a series response. -/
def seriesText (doc : SeriesDoc V) : Bytes :=
  ascii "\x7b\"window\":" ++ decimal doc.window ++ ascii ",\"tier\":" ++ decimal doc.tier ++
  ascii ",\"interval\":" ++ decimal doc.interval ++ ascii ",\"series\":\x7b" ++
  (ascii ",").intercalate (doc.series.map seriesEntry) ++ ascii "\x7d,\"timestamps\":[" ++
  (ascii ",").intercalate (doc.timestamps.map fun t => decimalInt t.toInt) ++ ascii "]\x7d"

omit [SampleArith V D] [RenderArith V T] in
/-- `api_health_json` at a clock reading. -/
def apiHealthJson (api : Api V D) (now : ℤ) : Bytes :=
  ascii "\x7b\"ok\":true,\"metrics\":" ++ decimal api.registry.count ++
  ascii ",\"uptime\":" ++ decimalInt (now - api.started) ++
  ascii ",\"samples\":" ++ decimal (api.store.tiers 0).ring.count ++
  ascii ",\"bytes\":" ++ decimal (storeBytes api.store) ++
  ascii ",\"persisted\":" ++ trueFalse api.persistPath.isSome ++
  ascii ",\"mqtt\":\"" ++ (if api.mqttStatus = [] then ascii "disabled" else api.mqttStatus) ++
  ascii "\",\"influx\":\"" ++
  (if api.influxStatus = [] then ascii "disabled" else api.influxStatus) ++ ascii "\"\x7d"

end Numbers

end AxisMetrics
