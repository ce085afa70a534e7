import AxisMetrics.Api.Documents

/-!
# Prometheus

`api_prometheus_text`: per-device ids like `net.eth0.rx_bps` become one metric name with a label,
so they aggregate in PromQL, and several ids may share a name.
-/

namespace AxisMetrics

open Lib (Bytes ascii strsplit strlcpy snprintf)

variable {V D T : Type}

/-- `unit_suffix`. -/
def unitSuffix (unit : Bytes) : Bytes :=
  if unit = ascii "%" then ascii "_percent"
  else if unit = ascii "B" then ascii "_bytes"
  else if unit = ascii "B/s" then ascii "_bytes_per_second"
  else if unit = ascii "C" then ascii "_celsius"
  else if unit = ascii "MHz" then ascii "_megahertz"
  else if unit = ascii "Mb/s" then ascii "_megabits_per_second"
  else if unit = ascii "s" then ascii "_seconds"
  else if unit = ascii "/s" then ascii "_per_second"
  else []

/-- `label_key_for`. -/
def labelKeyFor (groupPrefix : Bytes) : Bytes :=
  if groupPrefix = ascii "net" then ascii "interface"
  else if groupPrefix = ascii "disk" then ascii "device"
  else if groupPrefix = ascii "fs" then ascii "filesystem"
  else if groupPrefix = ascii "cpu" then ascii "core"
  else ascii "instance"

/-- `prometheus_name`: the name of a metric, the key of its label and the label. -/
def prometheusName (d : MetricDef) : Bytes × Bytes × Bytes :=
  match strsplit 46 d.id with
  | [family, device, leaf] =>
    -- cpu.core0.usage must not collide with the aggregate cpu.usage
    if family = ascii "cpu" ∧ ascii "core" <+: device then
      (snprintf 160 (ascii "axis_cpu_core_" ++ leaf ++ unitSuffix d.unit),
        strlcpy 32 (labelKeyFor family), strlcpy 96 (device.drop 4))
    else
      (snprintf 160 (ascii "axis_" ++ family ++ ascii "_" ++ leaf ++ unitSuffix d.unit),
        strlcpy 32 (labelKeyFor family), strlcpy 96 device)
  | parts =>
    (snprintf 160 (ascii "axis_" ++ (ascii "_").intercalate parts ++ unitSuffix d.unit), [], [])

variable [SampleArith V D] [RenderArith V T]

/-- The lines of a metric; HELP and TYPE appear once per name. -/
def prometheusLines (declared : Bool) (d : MetricDef) (value : V) : Bytes :=
  let (name, labelKey, labelValue) := prometheusName d
  (if declared then []
    else ascii "# HELP " ++ name ++ ascii " " ++ d.label ++ ascii "\n# TYPE " ++ name ++
      ascii " gauge\n") ++
  (if labelValue = [] then name ++ ascii " " ++ RenderArith.format7g value ++ ascii "\n"
    else name ++ ascii "\x7b" ++ labelKey ++ ascii "=\"" ++ labelValue ++ ascii "\"\x7d " ++
      RenderArith.format7g value ++ ascii "\n")

/-- The loop of `api_prometheus_text` over the metrics still to come, with the names declared. -/
def prometheusLoop {registry : MetricRegistry} (row : Row V registry.count) :
    List (Fin registry.count) → List Bytes → Bytes
  | [], _ => []
  | i :: rest, declared =>
    if SampleArith.isnan (row.values i) then prometheusLoop row rest declared
    else
      let d := registry.defs.get i
      let name := (prometheusName d).1
      prometheusLines (name ∈ declared) d (row.values i) ++
        prometheusLoop row rest (name :: declared)

/-- `api_prometheus_text`. -/
def apiPrometheusText (api : Api V D) : Bytes :=
  match storeLatest api.store with
  | none => []
  | some row =>
    ascii "# HELP axis_device_info Device identity, always 1.\n# TYPE axis_device_info gauge\n" ++
    ascii "axis_device_info\x7bmodel=\"" ++ api.device.model ++ ascii "\",serial=\"" ++
    api.device.serial ++ ascii "\",firmware=\"" ++ api.device.firmware ++ ascii "\"\x7d 1\n" ++
    prometheusLoop row (List.finRange api.registry.count) []

end AxisMetrics
