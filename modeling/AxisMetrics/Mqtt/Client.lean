import AxisMetrics.Lib.Decimal
import AxisMetrics.Lib.Runs
import AxisMetrics.Mqtt.Topics

/-!
# The life of the MQTT client

Connecting, disconnecting and the change of settings, and the brokers with what they retain. A
publish reaches the broker of the connection while the client is connected; a broker publishes
the last will of a client it has lost.
-/

namespace AxisMetrics

open Lib (Bytes ascii snprintf decimal Retained)

/-- The fields of `MqttConfig` that only connecting reads. -/
structure Endpoint where
  host : Bytes
  port : ℕ
  tls : Bool
  username : Bytes
  password : Bytes
  deriving DecidableEq

/-- What `connect_now` passes to the client library. -/
structure ConnectOptions where
  address : Bytes
  clientId : Bytes
  username : Option Bytes
  password : Option Bytes
  /-- Whether the broker's certificate is checked. -/
  verify : Bool
  will : MqttMessage

/-- `Mqtt` with the rest of its configuration and the options of its last `connect_now`. -/
structure MqttClient where
  mqtt : Mqtt
  endpoint : Endpoint
  options : ConnectOptions

/-- `mqtt_new`. -/
def mqttNew : MqttClient where
  mqtt := ⟨⟨false, [], 0, false, false, by decide⟩, false, false, false, 0⟩
  endpoint := ⟨[], 0, false, [], []⟩
  options := ⟨[], [], none, none, false, ⟨[], [], 0, false⟩⟩

/-- The status topic. -/
def Mqtt.statusTopic (mqtt : Mqtt) : Bytes := mqtt.topic 256 (ascii "status")

/-- `disconnect`. A clean stop has to retract "online" itself. -/
def disconnect (client : MqttClient) : MqttClient × List MqttMessage :=
  if client.mqtt.client = false then (client, [])
  else
    ({ client with
        mqtt := { client.mqtt with client := false, connected := false, discoverySent := false } },
      if client.mqtt.connected then
        client.mqtt.publish client.mqtt.statusTopic (ascii "offline") 1 true
      else [])

/-- `connection_differs`. -/
def connectionDiffers (a b : MqttConfig) (endpoint endpoint' : Endpoint) : Bool :=
  a.enabled ≠ b.enabled || endpoint ≠ endpoint' || a.topicPrefix ≠ b.topicPrefix

/-- The options of `connect_now`. MQTT forbids a password without a username. -/
def connectOptions (mqtt : Mqtt) (endpoint : Endpoint) (device : DeviceInfo) : ConnectOptions where
  address := snprintf 224 ((if endpoint.tls then ascii "ssl" else ascii "tcp") ++ ascii "://" ++
    endpoint.host ++ ascii ":" ++ decimal endpoint.port)
  clientId := snprintf 64 (ascii "axis-metrics-" ++
    if device.serial = [] then ascii "unknown" else device.serial)
  username := if endpoint.username = [] then none else some endpoint.username
  password := if endpoint.username = [] ∨ endpoint.password = [] then none
    else some endpoint.password
  verify := endpoint.tls
  will := mqtt.will

/-- `connect_now`; `created` says whether the library could create a client. -/
def connectNow (client : MqttClient) (device : DeviceInfo) (created : Bool) : MqttClient :=
  { client with
    mqtt := { client.mqtt with client := created }
    options := connectOptions client.mqtt client.endpoint device }

/-- `mqtt_apply`. -/
def mqttApply (client : MqttClient) (api : MqttApi) (config : MqttConfig) (endpoint : Endpoint)
    (created : Bool) : MqttClient × List MqttMessage :=
  let reconnect := connectionDiffers client.mqtt.config config client.endpoint endpoint ||
    !client.mqtt.client
  -- discovery is otherwise only published on connect
  let rediscover := !reconnect && client.mqtt.connected && config.discovery &&
    (config.discovery ≠ client.mqtt.config.discovery ||
      config.discoveryAll ≠ client.mqtt.config.discoveryAll)
  let client := { client with mqtt := { client.mqtt with config := config }, endpoint := endpoint }
  if config.enabled = false ∨ endpoint.host = [] then disconnect client
  else if reconnect then
    let (client, messages) := disconnect client
    (connectNow client api.device created, messages)
  else if rediscover then
    let (mqtt, messages) := publishDiscovery client.mqtt api true
    ({ client with mqtt := mqtt }, messages)
  else (client, [])

/-- `mqtt_state`. -/
def mqttState (mqtt : Mqtt) : Bytes :=
  if mqtt.config.enabled = false then ascii "disabled"
  else if mqtt.client = false then ascii "error"
  else if mqtt.connected then ascii "connected" else ascii "connecting"

/-- The client of a process, what the process has to publish, and what each broker retains. -/
structure ClientWorld (B : Type) where
  api : MqttApi
  client : MqttClient
  brokers : B → Retained Bytes Bytes
  /-- Where this process has retained "online". -/
  online : List (B × Bytes)
  /-- Between `mqtt_new` and `mqtt_free`. -/
  alive : Bool

inductive ClientEvent where
  | apply (config : MqttConfig) (endpoint : Endpoint) (created : Bool)
  | connected
  | connectionLost
  /-- `mqtt_free`. -/
  | free
  /-- `selection_set_disabled`, with the metrics enabled for `SELECT_TRANSMIT` now. -/
  | select (selectionEnabled : Bytes → Bool)
  /-- `rebuild_for_new_storage`, with the metrics found now. -/
  | rebuild (registry : MetricRegistry)
  /-- A new process of the same device, after the old one ended or died. -/
  | restart (registry : MetricRegistry) (selectionEnabled : Bytes → Bool)

section Step

variable {B : Type} [DecidableEq B] (brokerAt : Bytes → B)

/-- The broker of the client's connection. -/
def ClientWorld.broker (world : ClientWorld B) : B := brokerAt world.client.options.address

/-- A broker receives messages. -/
def sendTo (brokers : B → Retained Bytes Bytes) (broker : B) (messages : List MqttMessage) :
    B → Retained Bytes Bytes :=
  fun b => if b = broker then (brokers b).receiveAll messages else brokers b

/-- The client publishes messages: they reach the broker while it is connected. -/
def ClientWorld.publish (world : ClientWorld B) (connected : Bool) (messages : List MqttMessage) :
    ClientWorld B :=
  if connected then
    { world with
      brokers := sendTo world.brokers (world.broker brokerAt) messages
      online := world.online ++ (messages.filter fun message =>
        message.retained && message.payload == ascii "online").map
          fun message => (world.broker brokerAt, message.topic) }
  else world

/-- The broker publishes the last will of the client. -/
def ClientWorld.lose (world : ClientWorld B) : ClientWorld B :=
  { world with
    brokers := sendTo world.brokers (world.broker brokerAt) [world.client.options.will] }

/-- One event; `none` where it cannot happen. `brokerAt` is the broker behind an address. -/
def clientStep (world : ClientWorld B) : ClientEvent → Option (ClientWorld B)
  | .apply config endpoint created =>
    if world.alive then
      let (client, messages) := mqttApply world.client world.api config endpoint created
      some { world.publish brokerAt world.client.mqtt.connected messages with client := client }
    else none
  | .connected =>
    if world.client.mqtt.client then
      let (mqtt, messages) := onConnected world.client.mqtt world.api
      some { world.publish brokerAt mqtt.connected messages with
        client := { world.client with mqtt := mqtt } }
    else none
  | .connectionLost =>
    if world.client.mqtt.connected then
      some { world.lose brokerAt with
        client := { world.client with mqtt := onConnectionLost world.client.mqtt } }
    else none
  | .free =>
    if world.alive then
      let (client, messages) := disconnect world.client
      some { world.publish brokerAt world.client.mqtt.connected messages with
        client := client
        alive := false }
    else none
  | .select selectionEnabled =>
    some { world with api := { world.api with selectionEnabled := selectionEnabled } }
  | .rebuild registry => some { world with api := { world.api with registry := registry } }
  | .restart registry selectionEnabled =>
    some { (if world.client.mqtt.connected then world.lose brokerAt else world) with
      api := { world.api with registry := registry, selectionEnabled := selectionEnabled }
      client := mqttNew
      online := []
      alive := true }

omit [DecidableEq B] in
/-- A device before its first process; the brokers may retain anything. -/
def clientStart (device : DeviceInfo) (brokers : B → Retained Bytes Bytes) : ClientWorld B where
  api := ⟨⟨[]⟩, fun _ => true, device⟩
  client := mqttNew
  brokers := brokers
  online := []
  alive := false

end Step

end AxisMetrics
