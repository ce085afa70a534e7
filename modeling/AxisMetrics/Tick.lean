import AxisMetrics.Alerts.Announce
import AxisMetrics.Http.Handler
import AxisMetrics.Mqtt.Mirror

/-!
# The events of the app

What the main loop calls besides requests: the sample tick, the callbacks of the MQTT client and the
parameter store, the timer that opens the history, and the rebuild for new storage. What the Influx
worker reports comes between them. Each gives the app and what it publishes.
-/

namespace AxisMetrics

open Lib (Bytes ascii strlcpy)

/-- What a step hands to the MQTT client, and the Influx payload it builds. -/
structure Published where
  messages : List MqttMessage
  payload : Option Bytes
  deriving DecidableEq

/-- What a sample tick finds outside of the app. -/
structure Tick (V T : Type) where
  /-- The clock at `store_push`, and the clocks that the functions after it read. -/
  now : Int64
  alertsNow : ℤ
  mqttNow : ℤ
  influxNow : ℤ
  /-- What `collector_sample` leaves in the sample buffer. -/
  values : ℕ → V
  /-- The results of the writes to the event streams. -/
  writes : ℕ → SocketWrite
  /-- The process table after `procs_tick`. -/
  procs : Procs T

inductive AppEvent (V T : Type) where
  | tick (tick : Tick V T)
  | request (env : RequestEnv) (request : Request) (readOnly : Bool)
  | connected
  | connectionLost
  /-- `on_parameter_changed`. -/
  | parameterChanged (created : Bool) (name : Bytes) (value : Option Bytes)
  /-- `rebuild_for_new_storage`: the metrics found now, the rules file, the memory of the device, and
  the history that is restored. -/
  | rebuild (registry : MetricRegistry) (events : Bool) (declare : Bytes → Bytes → ℕ)
      (file : List (SavedRule T)) (memory : ℕ) (persistPath : Option Bytes)
      (history : List (Fin STORE_TIERS × Row V registry.count))
  /-- `try_open_persistence` from its timer, with no new storage: the path that is open after it, and
  the rows of the files it could open, by tier. -/
  | persistRetry (persistPath : Option Bytes)
      (history : List (Fin STORE_TIERS × Int64 × (ℕ → V)))
  /-- `set_state` of the Influx worker. -/
  | influxState (outcome : WriteOutcome)

variable {V D T : Type}

/-- `find_parameter_suffix`: callbacks report a qualified name. -/
def findParameterSuffix (qualifiedName : Bytes) : Option Parameter :=
  findParameter ((qualifiedName.splitOn 46).getLastD [])

/-- `on_parameter_changed`. -/
def onParameterChanged (app : App V D T) (created : Bool) (name : Bytes) (value : Option Bytes) :
    App V D T × List MqttMessage :=
  match findParameterSuffix name with
  | none => (app, [])
  | some p =>
    if app.parameters p.name = value then (app, [])
    else
      let parameters := Function.update app.parameters p.name (some (value.getD []))
      let (mqtt, messages) := applyMqttSettings app.mqtt app.api parameters created
      ({ app with
          parameters := parameters
          sampler := restartSampler app.sampler parameters
          mqtt := mqtt
          influx := applyInfluxSettings app.influx parameters }, messages)

/-- It changes the parameters and what runs on them. -/
theorem onParameterChanged_eq (app : App V D T) (created : Bool) (name : Bytes)
    (value : Option Bytes) :
    ∃ parameters sampler mqtt influx, (onParameterChanged app created name value).1 =
      { app with parameters := parameters, sampler := sampler, mqtt := mqtt, influx := influx } := by
  rw [onParameterChanged]
  split
  · exact ⟨app.parameters, app.sampler, app.mqtt, app.influx, rfl⟩
  · split
    · exact ⟨app.parameters, app.sampler, app.mqtt, app.influx, rfl⟩
    · exact ⟨_, _, _, _, rfl⟩

section Tick

variable [SampleArith V D] [RenderArith V T] [AlertArith V T]

/-- `on_sample_tick`. -/
def onSampleTick (app : App V D T) (tick : Tick V T) : App V D T × Published :=
  let row : Row V app.api.registry.count := ⟨tick.now, fun i => tick.values i⟩
  let api := { app.api with store := (storePush app.api.store row).1 }
  let (alerts, sent) := alertsEvaluate app.alerts tick.alertsNow row.values
  let (mqtt, state) := mqttTick app.mqtt.mqtt tick.mqttNow (apiCurrentValuesJson api)
  let (influx, payload) := influxTick app.influx api tick.influxNow
  ({ app with
      api := { api with
        mqttStatus := strlcpy 16 (mqttState mqtt)
        influxStatus := strlcpy 16 (influxState influx) }
      alerts := alerts
      sseClients := sseBroadcast app.sseClients (apiCurrentJson api) tick.writes
      mqtt := { app.mqtt with mqtt := mqtt }
      influx := influx
      procs := tick.procs },
    ⟨mirrored (RenderArith.formatG V) app.mqtt.mqtt sent ++ state, payload⟩)

omit [RenderArith V T] in
/-- `rebuild_for_new_storage`. -/
def rebuildForNewStorage (app : App V D T) (registry : MetricRegistry) (events : Bool)
    (declare : Bytes → Bytes → ℕ) (file : List (SavedRule T)) (memory : ℕ)
    (persistPath : Option Bytes) (history : List (Fin STORE_TIERS × Row V registry.count)) :
    App V D T :=
  { app with
    api := {
      registry := registry
      store := history.foldl (fun store entry => storeRestore store entry.1 entry.2)
        (storeNew registry app.sampler.sampleIntervalS memory)
      selection := app.api.selection
      device := app.api.device
      appVersion := app.api.appVersion
      persistPath := persistPath
      mqttStatus := app.api.mqttStatus
      influxStatus := app.api.influxStatus
      started := app.api.started }
    alerts := rebuildAlerts V declare registry events file }

omit [SampleArith V D] [RenderArith V T] [AlertArith V T] in
/-- `try_open_persistence` after it found the storage unchanged. Saved rows go to empty tiers only,
and what is open stays as it is. -/
def retryPersistence (app : App V D T) (persistPath : Option Bytes)
    (history : List (Fin STORE_TIERS × Int64 × (ℕ → V))) : App V D T :=
  if app.api.persistPath.isSome then app
  else
    let adopted := history.filter fun entry => storeTierCount app.api.store entry.1 = 0
    { app with api := { app.api with
        store := adopted.foldl (fun store entry => storeRestore store entry.1
          ⟨entry.2.1, fun i => entry.2.2 i⟩) app.api.store
        persistPath := persistPath } }

omit [SampleArith V D] [RenderArith V T] [AlertArith V T] in
/-- It changes what is stored and where, and nothing else. -/
theorem retryPersistence_eq (app : App V D T) (persistPath : Option Bytes)
    (history : List (Fin STORE_TIERS × Int64 × (ℕ → V))) :
    ∃ store path, retryPersistence app persistPath history =
      { app with api := { app.api with store := store, persistPath := path } } := by
  rw [retryPersistence]
  split
  · exact ⟨app.api.store, app.api.persistPath, rfl⟩
  · exact ⟨_, _, rfl⟩

/-- One event; `none` where it cannot happen or the app crashes. -/
def appStep (app : App V D T) : AppEvent V T → Option (App V D T × Published)
  | .tick tick => some (onSampleTick app tick)
  | .request env request readOnly =>
    (handleRequest env app request readOnly).map fun handled =>
      (handled.app, ⟨handled.messages, none⟩)
  | .connected =>
    if app.mqtt.mqtt.client then
      let (mqtt, messages) := onConnected app.mqtt.mqtt app.api.mqttApi
      some ({ app with mqtt := { app.mqtt with mqtt := mqtt } }, ⟨messages, none⟩)
    else none
  | .connectionLost =>
    if app.mqtt.mqtt.connected then
      some ({ app with mqtt := { app.mqtt with mqtt := onConnectionLost app.mqtt.mqtt } }, ⟨[], none⟩)
    else none
  | .parameterChanged created name value =>
    let (app, messages) := onParameterChanged app created name value
    some (app, ⟨messages, none⟩)
  | .rebuild registry events declare file memory persistPath history =>
    some (rebuildForNewStorage app registry events declare file memory persistPath history,
      ⟨[], none⟩)
  | .persistRetry persistPath history =>
    some (retryPersistence app persistPath history, ⟨[], none⟩)
  | .influxState outcome =>
    some ({ app with influx := { app.influx with state := outcome.state } }, ⟨[], none⟩)

/-- There is a client to call back. -/
theorem appStep_connected {app next : App V D T} {published : Published}
    (h : appStep app .connected = some (next, published)) :
    app.mqtt.mqtt.client = true ∧
      next = { app with mqtt := { app.mqtt with
        mqtt := (onConnected app.mqtt.mqtt app.api.mqttApi).1 } } ∧
      published = ⟨(onConnected app.mqtt.mqtt app.api.mqttApi).2, none⟩ := by
  rw [appStep] at h
  split at h
  · next hclient =>
    obtain ⟨rfl, rfl⟩ := Prod.mk.inj (Option.some.inj h)
    exact ⟨hclient, rfl, rfl⟩
  · cases h

/-- There is a connection to lose. -/
theorem appStep_connectionLost {app next : App V D T} {published : Published}
    (h : appStep app .connectionLost = some (next, published)) :
    app.mqtt.mqtt.connected = true ∧
      next = { app with mqtt := { app.mqtt with mqtt := onConnectionLost app.mqtt.mqtt } } ∧
      published = ⟨[], none⟩ := by
  rw [appStep] at h
  split at h
  · next hconnected =>
    obtain ⟨rfl, rfl⟩ := Prod.mk.inj (Option.some.inj h)
    exact ⟨hconnected, rfl, rfl⟩
  · cases h

end Tick

end AxisMetrics
