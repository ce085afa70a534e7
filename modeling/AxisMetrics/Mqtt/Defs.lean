import AxisMetrics.Alerts.Defs
import AxisMetrics.Lib.Retained

/-!
# MQTT publishing

The callbacks of the client and the functions that publish return the messages they hand to
the client, in order. The client delivers them while it is connected.
-/

namespace AxisMetrics

open Lib (Bytes ascii snprintf isAlnum)

/-- A message as the code publishes it. -/
abbrev MqttMessage := Lib.Message Bytes Bytes

/-- The fields of `DeviceInfo` that discovery reads. -/
structure DeviceInfo where
  model : Bytes
  serial : Bytes
  firmware : Bytes
  serial_lt : serial.length < 32

/-- What publishing reads of `Api`: the registry, the metrics enabled for `SELECT_TRANSMIT` and
the device. -/
structure MqttApi where
  registry : MetricRegistry
  selectionEnabled : Bytes → Bool
  device : DeviceInfo

/-- The fields of `MqttConfig` that publishing reads. -/
structure MqttConfig where
  enabled : Bool
  topicPrefix : Bytes
  intervalS : ℕ
  /-- Publish Home Assistant MQTT discovery configs. -/
  discovery : Bool
  /-- Every metric rather than a curated subset. -/
  discoveryAll : Bool
  topicPrefix_lt : topicPrefix.length < 128

/-- The prefix of a device without one of its own. -/
theorem length_axis_lt : (ascii "axis").length < 128 := by decide

/-- `Mqtt`; `client` says whether there is a client handle. -/
structure Mqtt where
  config : MqttConfig
  client : Bool
  connected : Bool
  discoverySent : Bool
  lastPublish : ℤ

/-- `topic`. -/
def Mqtt.topic (mqtt : Mqtt) (size : ℕ) (leaf : Bytes) : Bytes :=
  snprintf size (mqtt.config.topicPrefix ++ ascii "/" ++ leaf)

/-- `publish`. -/
def Mqtt.publish (mqtt : Mqtt) (topicName payload : Bytes) (qos : ℕ) (retained : Bool) :
    List MqttMessage :=
  if mqtt.client then [⟨topicName, payload, qos, retained⟩] else []

/-- `interface_is_vlan`. -/
def interfaceIsVlan (id : Bytes) : Bool :=
  let start := id.drop 4
  46 ∈ start && 95 ∈ start.takeWhile (· ≠ 46)

/-- `is_essential`. -/
def isEssential (id : Bytes) (namedSensors : Bool) : Bool :=
  if id ∈ [ascii "cpu.usage", ascii "mem.usage", ascii "mem.used", ascii "load.1",
      ascii "sys.uptime", ascii "flash.life_used", ascii "flash.pre_eol", ascii "poe.total",
      ascii "poe.budget"] then true
  else if ascii "sensor." <+: id then true
  else if ascii "temp." <+: id then !namedSensors
  else if ascii "fs." <+: id ∧ ascii ".usage" <:+ id then !decide (ascii "fs.mnt_" <+: id)
  else if ascii "net." <+: id ∧ (ascii ".rx_bps" <:+ id ∨ ascii ".tx_bps" <:+ id) then
    !interfaceIsVlan id
  else false

/-- `has_named_sensors`. -/
def hasNamedSensors (registry : MetricRegistry) : Bool :=
  registry.defs.any fun d => ascii "sensor." <+: d.id

/-- `device_class_for`. -/
def deviceClassFor (unit : Bytes) : Option Bytes :=
  if unit = ascii "C" then some (ascii "temperature")
  else if unit = ascii "B" then some (ascii "data_size")
  else if unit = ascii "B/s" then some (ascii "data_rate")
  else if unit = ascii "s" then some (ascii "duration")
  else if unit = ascii "MHz" then some (ascii "frequency")
  else none

/-- `ha_unit_for`; a degree sign is two bytes of UTF-8. -/
def haUnitFor (unit : Bytes) : Bytes :=
  if unit = ascii "C" then [0xC2, 0xB0] ++ ascii "C"
  else if unit = ascii "B" then ascii "B"
  else if unit = ascii "B/s" then ascii "B/s"
  else if unit = ascii "s" then ascii "s"
  else if unit = ascii "MHz" then ascii "MHz"
  else if unit = ascii "Mb/s" then ascii "Mbit/s"
  else unit

/-- `ha_suggested_unit`. -/
def haSuggestedUnit (d : MetricDef) : Option Bytes :=
  if d.unit = ascii "B" then if ascii "fs." <+: d.id then some (ascii "GB") else some (ascii "MB")
  else if d.unit = ascii "B/s" then some (ascii "MB/s")
  else none

/-- The object id of a metric, with an underscore for all that is not alphanumeric. -/
def objectId (device : DeviceInfo) (d : MetricDef) : Bytes :=
  (snprintf 128 (device.serial ++ ascii "_" ++ d.id)).map fun c => if isAlnum c then c else 95

/-- The discovery topic of an object id. -/
def configTopic (objectId : Bytes) : Bytes :=
  snprintf 256 (ascii "homeassistant/sensor/" ++ objectId ++ ascii "/config")

/-- The discovery payload of a metric. -/
def discoveryPayload (device : DeviceInfo) (stateTopic availabilityTopic : Bytes)
    (d : MetricDef) : Bytes :=
  ascii "\x7b" ++
  ascii "\"name\":\"" ++ d.label ++ ascii "\"," ++
  ascii "\"unique_id\":\"axis_" ++ objectId device d ++ ascii "\"," ++
  ascii "\"state_topic\":\"" ++ stateTopic ++ ascii "\"," ++
  ascii "\"availability_topic\":\"" ++ availabilityTopic ++ ascii "\"," ++
  ascii "\"value_template\":\"\x7b\x7b value_json[\x27" ++ d.id ++ ascii "\x27] \x7d\x7d\"," ++
  (if d.unit = [] then []
    else ascii "\"unit_of_measurement\":\"" ++ haUnitFor d.unit ++ ascii "\",") ++
  (match deviceClassFor d.unit with
    | none => []
    | some deviceClass => ascii "\"device_class\":\"" ++ deviceClass ++ ascii "\",") ++
  (match haSuggestedUnit d with
    | none => []
    | some suggested => ascii "\"suggested_unit_of_measurement\":\"" ++ suggested ++ ascii "\"," ++
      ascii "\"suggested_display_precision\":1,") ++
  ascii "\"state_class\":\"measurement\"," ++
  ascii "\"device\":\x7b\"identifiers\":[\"axis_" ++ device.serial ++ ascii "\"],\"name\":\"" ++
  (if device.model = [] then ascii "Axis device" else device.model) ++ ascii "\"," ++
  ascii "\"manufacturer\":\"Axis\",\"model\":\"" ++ device.model ++ ascii "\",\"sw_version\":\"" ++
  device.firmware ++ ascii "\"\x7d\x7d"

/-- The turn of a metric in `publish_discovery`. An empty retained payload removes a config. -/
def discoveryOf (mqtt : Mqtt) (api : MqttApi) (withdrawStale : Bool) (d : MetricDef) :
    List MqttMessage :=
  let configTopic := configTopic (objectId api.device d)
  if api.selectionEnabled d.id ∧
      (mqtt.config.discoveryAll ∨ isEssential d.id (hasNamedSensors api.registry)) then
    mqtt.publish configTopic (discoveryPayload api.device (mqtt.topic 256 (ascii "state"))
      (mqtt.topic 256 (ascii "status")) d) 0 true
  else if withdrawStale then mqtt.publish configTopic [] 0 true
  else []

/-- `publish_discovery`. -/
def publishDiscovery (mqtt : Mqtt) (api : MqttApi) (withdrawStale : Bool) :
    Mqtt × List MqttMessage :=
  ({ mqtt with discoverySent := true },
    api.registry.defs.flatMap (discoveryOf mqtt api withdrawStale))

/-- `on_connected`. -/
def onConnected (mqtt : Mqtt) (api : MqttApi) : Mqtt × List MqttMessage :=
  let mqtt := { mqtt with connected := true }
  let online := mqtt.publish (mqtt.topic 256 (ascii "status")) (ascii "online") 1 true
  let (mqtt, configs) :=
    if mqtt.config.discovery then publishDiscovery mqtt api (!mqtt.discoverySent) else (mqtt, [])
  -- publish state immediately rather than after a full interval
  ({ mqtt with lastPublish := 0 }, online ++ configs)

/-- `on_connection_lost`. -/
def onConnectionLost (mqtt : Mqtt) : Mqtt := { mqtt with connected := false }

/-- The last will that `connect_now` leaves with the broker. -/
def Mqtt.will (mqtt : Mqtt) : MqttMessage :=
  ⟨mqtt.topic 256 (ascii "status"), ascii "offline", 1, true⟩

/-- `mqtt_tick` at a monotonic clock in seconds, with the values as JSON. -/
def mqttTick (mqtt : Mqtt) (now : ℤ) (json : Bytes) : Mqtt × List MqttMessage :=
  if mqtt.connected = false ∨ mqtt.config.enabled = false then (mqtt, [])
  else if mqtt.lastPublish ≠ 0 ∧ now - mqtt.lastPublish < mqtt.config.intervalS then (mqtt, [])
  else
    let mqtt := { mqtt with lastPublish := now }
    (mqtt, mqtt.publish (mqtt.topic 256 (ascii "state")) json 0 true)

/-- The topic of a rule. -/
def Mqtt.alertTopic (mqtt : Mqtt) (ruleId : Bytes) : Bytes :=
  mqtt.topic 256 (snprintf 128 (ascii "alert/" ++ ruleId))

section Alert

variable {T : Type} (formatG : T → Bytes)

/-- The payload of `mqtt_publish_alert`; `formatG` is the conversion `%g`. -/
def alertPayload (ruleId name metric : Bytes) (value : T) (firing : Bool) : Bytes :=
  ascii "\x7b\"rule\":\"" ++ ruleId ++ ascii "\",\"name\":\"" ++ name ++
  ascii "\",\"metric\":\"" ++ metric ++ ascii "\",\"value\":" ++ formatG value ++
  ascii ",\"state\":\"" ++ (if firing then ascii "firing" else ascii "cleared") ++ ascii "\"\x7d"

/-- `mqtt_publish_alert`. -/
def mqttPublishAlert (mqtt : Mqtt) (ruleId name metric : Bytes) (value : T) (firing : Bool) :
    List MqttMessage :=
  if mqtt.connected then
    mqtt.publish (mqtt.alertTopic ruleId) (alertPayload formatG ruleId name metric value firing) 1
      true
  else []

/-- `on_alert_changed`, the `AlertNotify` callback. -/
def onAlertChanged (mqtt : Mqtt) (rule : AlertRule T) (firing : Bool) : List MqttMessage :=
  mqttPublishAlert formatG mqtt rule.id rule.name rule.metric rule.lastValue firing

end Alert

end AxisMetrics
