import AxisMetrics.Http.Viewer
import AxisMetrics.Selection.Saved

/-!
# Starting the app

`main` up to its loop: the parameters are read, the metrics are found, the parts of the app are made
and the settings are applied to them. What is written here is the app as the loop finds it, with the
MQTT client and the Influx writer on the settings of the device.
-/

namespace AxisMetrics

open Lib (Bytes ascii strlcpy strstr scanWord cString KeyFile)

/-- What `ax_parameter_get` gives for a name: `none` when it fails, and a value that may be `NULL`. -/
abbrev ParameterSource := Bytes → Option (Option Bytes)

/-- `load_parameter`. -/
def loadParameter (axParameterGet : ParameterSource) (values : ParameterValues) (p : Parameter) :
    ParameterValues :=
  match axParameterGet p.name with
  | some value => Function.update values p.name (some (value.getD []))
  | none =>
    if values p.name = none then Function.update values p.name (some p.fallback) else values

/-- The loop of `main` over the parameters. -/
def loadParameters (axParameterGet : ParameterSource) : ParameterValues :=
  PARAMETERS.foldl (loadParameter axParameterGet) fun _ => none

/-- `read_param`. -/
def readParam (axParameterGet : ParameterSource) (name : Bytes) (len : ℕ) : Bytes :=
  match axParameterGet name with
  | some (some value) => strlcpy len (strstrip value)
  | _ => []

/-- The firmware of `/etc/os-release`, which `sscanf` reads with `%31s`. -/
def releaseFirmware (release : Bytes) : Bytes :=
  match strstr (ascii "VERSION_ID=") (cString release) with
  | none => []
  | some i => ((scanWord 31 ((cString release).drop (i + 11))).map Prod.fst).getD []

theorem length_readParam_lt (axParameterGet : ParameterSource) (name : Bytes) {len : ℕ}
    (h : 0 < len) : (readParam axParameterGet name len).length < len := by
  unfold readParam
  split
  · exact Lib.length_strlcpy_lt h _
  · exact h

/-- `api_read_device_info`, with `/etc/hostname` and `/etc/os-release` where they can be read. -/
def apiReadDeviceInfo (axParameterGet : ParameterSource) (hostname release : Option Bytes) :
    DeviceIdentity where
  model := readParam axParameterGet (ascii "root.Brand.ProdShortName") 64
  product := readParam axParameterGet (ascii "root.Brand.ProdFullName") 96
  type := readParam axParameterGet (ascii "root.Brand.ProdType") 48
  serial := readParam axParameterGet (ascii "root.Properties.System.SerialNumber") 32
  soc := readParam axParameterGet (ascii "root.Properties.System.Soc") 48
  arch := readParam axParameterGet (ascii "root.Properties.System.Architecture") 16
  firmware :=
    let firmware := readParam axParameterGet (ascii "root.Properties.Firmware.Version") 32
    if firmware = [] then (release.map releaseFirmware).getD [] else firmware
  hostname := (hostname.map fun text => strlcpy 64 (strstrip (cString text))).getD []
  serial_lt := length_readParam_lt axParameterGet _ (Nat.succ_pos 31)

/-- `influx_new`. -/
def influxNew : Influx :=
  ⟨⟨false, .v2, [], [], [], [], [], [], [], 0⟩, [], false, 0, ascii "disabled"⟩

/-- What `main` finds. -/
structure Startup (V T : Type) where
  axParameterGet : ParameterSource
  hostname : Option Bytes
  release : Option Bytes
  /-- What `collector_new` registers. -/
  registry : MetricRegistry
  memory : ℕ
  /-- The wall clock. -/
  now : ℤ
  appVersion : Bytes
  selectionFile : KeyFile Empty
  /-- The number of cores. -/
  cores : ℕ
  /-- What `alerts_new` finds. -/
  events : Bool
  declare : Bytes → Bytes → ℕ
  rulesFile : List (SavedRule T)
  created : Bool
  /-- What `try_open_persistence` restores, and from where. -/
  persistPath : Option Bytes
  history : List (Fin STORE_TIERS × Row V registry.count)
  /-- The first sample, which seeds the counters. -/
  seed : Tick V T

variable {V D T : Type} [SampleArith V D] [AlertArith V T]

/-- The `Api` of `main`, over a store that the history is restored into. -/
def Startup.api (start : Startup V T) : Api V D where
  registry := start.registry
  store := start.history.foldl (fun store entry => storeRestore store entry.1 entry.2)
    (storeNew start.registry
      (clamp (parameterNumber (loadParameters start.axParameterGet) (ascii "SampleInterval")) 1 10)
      start.memory)
  selection := selectionLoad start.selectionFile
  device := apiReadDeviceInfo start.axParameterGet start.hostname start.release
  appVersion := start.appVersion
  persistPath := start.persistPath
  mqttStatus := []
  influxStatus := []
  started := start.now

/-- The app of `main` once its settings are applied, and the messages of applying them. -/
def Startup.app (start : Startup V T) : App V D T × List MqttMessage :=
  let parameters := loadParameters start.axParameterGet
  let (mqtt, messages) := applyMqttSettings mqttNew (start.api (D := D)) parameters start.created
  ({ parameters := parameters
     sampler := restartSampler ⟨0, false⟩ parameters
     api := start.api
     alerts := rebuildAlerts V start.declare start.registry start.events start.rulesFile
     procs := ⟨[], start.cores⟩
     mqtt := mqtt
     influx := applyInfluxSettings influxNew parameters
     sseClients := [] }, messages)

variable [RenderArith V T]

/-- The app as the main loop finds it. -/
def Startup.loop (start : Startup V T) : App V D T :=
  (onSampleTick (start.app (D := D)).1 start.seed).1

end AxisMetrics
