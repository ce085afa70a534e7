import AxisMetrics.Influx.Defs
import AxisMetrics.Mqtt.Client

/-!
# Applying settings

The sampler, the MQTT client and the Influx writer take their configuration from the parameters.
-/

namespace AxisMetrics

open Lib (Bytes ascii strlcpy snprintf strtoull guint)

variable {V D : Type}

/-- `CLAMP`. -/
def clamp (n low high : ℕ) : ℕ := if n > high then high else if n < low then low else n

/-- A parameter as a number, stored in a `guint`. -/
def parameterNumber (values : ParameterValues) (name : Bytes) : ℕ :=
  guint (strtoull (parameterValue values name))

/-- `parameter_is_yes`. -/
def parameterIsYes (values : ParameterValues) (name : Bytes) : Bool :=
  parameterValue values name = ascii "yes"

/-- `sample_interval_s` and whether there is a `sample_timer`. -/
structure Sampler where
  sampleIntervalS : ℕ
  sampleTimer : Bool
  deriving DecidableEq

/-- `restart_sampler`. -/
def restartSampler (sampler : Sampler) (values : ParameterValues) : Sampler :=
  let interval := clamp (parameterNumber values (ascii "SampleInterval")) 1 10
  if interval = sampler.sampleIntervalS ∧ sampler.sampleTimer = true then sampler
  else ⟨interval, true⟩

/-- The prefix of the topics. The default has the shape of the device's own MQTT client. -/
def mqttTopicPrefix (values : ParameterValues) (device : DeviceInfo) : Bytes :=
  let topicPrefix := parameterValue values (ascii "MqttTopicPrefix")
  if topicPrefix ≠ [] then strlcpy 128 topicPrefix
  else snprintf 128 (ascii "axis/" ++
    (if device.serial = [] then ascii "device" else device.serial) ++ ascii "/metrics")

theorem length_mqttTopicPrefix_lt (values : ParameterValues) (device : DeviceInfo) :
    (mqttTopicPrefix values device).length < 128 := by
  unfold mqttTopicPrefix
  dsimp only
  split
  · exact Lib.length_strlcpy_lt (by decide) _
  · exact Nat.lt_of_le_of_lt (List.length_take_le _ _) (by decide)

/-- The `MqttConfig` of `apply_mqtt_settings`, but for the endpoint. -/
def mqttSettings (values : ParameterValues) (device : DeviceInfo) : MqttConfig where
  enabled := parameterIsYes values (ascii "MqttEnabled")
  topicPrefix := mqttTopicPrefix values device
  intervalS := clamp (parameterNumber values (ascii "MqttInterval")) 1 3600
  discovery := parameterIsYes values (ascii "MqttDiscovery")
  discoveryAll := parameterIsYes values (ascii "MqttDiscoveryAll")
  topicPrefix_lt := length_mqttTopicPrefix_lt values device

/-- The fields of it that only connecting reads. -/
def mqttEndpoint (values : ParameterValues) : Endpoint :=
  let tls := parameterIsYes values (ascii "MqttTls")
  let port := parameterNumber values (ascii "MqttPort")
  { host := strlcpy 128 (parameterValue values (ascii "MqttHost"))
    port := if port = 0 ∨ port > 65535 then (if tls then 8883 else 1883) else port
    tls := tls
    username := strlcpy 64 (parameterValue values (ascii "MqttUsername"))
    password := strlcpy 128 (parameterValue values (ascii "MqttPassword")) }

/-- `apply_mqtt_settings`, with the messages that `mqtt_apply` publishes. -/
def applyMqttSettings (client : MqttClient) (api : Api V D) (values : ParameterValues)
    (created : Bool) : MqttClient × List MqttMessage :=
  mqttApply client api.mqttApi (mqttSettings values api.device.toDeviceInfo) (mqttEndpoint values)
    created

/-- The `InfluxConfig` of `apply_influx_settings`. -/
def influxSettings (values : ParameterValues) : InfluxConfig :=
  let measurement := parameterValue values (ascii "InfluxMeasurement")
  { enabled := parameterIsYes values (ascii "InfluxEnabled")
    version := if parameterValue values (ascii "InfluxVersion") = ascii "v1" then .v1 else .v2
    url := strlcpy 256 (parameterValue values (ascii "InfluxUrl"))
    database := strlcpy 96 (parameterValue values (ascii "InfluxDatabase"))
    org := strlcpy 96 (parameterValue values (ascii "InfluxOrg"))
    token := strlcpy 256 (parameterValue values (ascii "InfluxToken"))
    username := strlcpy 64 (parameterValue values (ascii "InfluxUsername"))
    password := strlcpy 128 (parameterValue values (ascii "InfluxPassword"))
    measurement := strlcpy 64 (if measurement ≠ [] then measurement else ascii "axis_metrics")
    intervalS := clamp (parameterNumber values (ascii "InfluxInterval")) 1 3600 }

/-- `apply_influx_settings`. -/
def applyInfluxSettings (influx : Influx) (values : ParameterValues) : Influx :=
  influxApply influx (influxSettings values)

end AxisMetrics
