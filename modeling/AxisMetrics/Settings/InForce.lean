import AxisMetrics.Startup

/-!
# The settings in force

The parameters can change in three ways: `main` reads them, a `POST` of the settings writes them, and
the parameter store calls back. After each of them the sampler, the MQTT client and the Influx writer
are on the parameters as they are (`inForce_run`): the client that there is, if any, was made for the
broker, the credentials and the status topic that the settings name.
-/

namespace AxisMetrics

open Lib (Bytes ascii Always Throughout nextState)

variable {V D T : Type}

/-- If there is a client, its configuration asks for one and it was made for that configuration. -/
structure MqttClient.Current (client : MqttClient) (device : DeviceInfo) : Prop where
  wanted : client.mqtt.client = true →
    client.mqtt.config.enabled = true ∧ client.endpoint.host ≠ []
  options : client.mqtt.client = true →
    client.options = connectOptions client.mqtt client.endpoint device
  connected : client.mqtt.connected = true → client.mqtt.client = true

/-- The parts of the app are on the parameters of the app. -/
structure InForce (app : App V D T) : Prop where
  sampler : app.sampler =
    ⟨clamp (parameterNumber app.parameters (ascii "SampleInterval")) 1 10, true⟩
  config : app.mqtt.mqtt.config = mqttSettings app.parameters app.api.device.toDeviceInfo
  endpoint : app.mqtt.endpoint = mqttEndpoint app.parameters
  client : app.mqtt.Current app.api.device.toDeviceInfo
  influx : app.influx.config = influxSettings app.parameters

/-! ## The client -/

variable {client : MqttClient} {device : DeviceInfo} {mqtt mqtt' : Mqtt} {endpoint : Endpoint}

/-- Connecting reads the topic prefix and nothing else of `Mqtt`. -/
theorem connectOptions_congr (h : mqtt.config.topicPrefix = mqtt'.config.topicPrefix) :
    connectOptions mqtt endpoint device = connectOptions mqtt' endpoint device := by
  unfold connectOptions
  congr 1
  rw [Mqtt.will, Mqtt.will, Mqtt.topic, Mqtt.topic, h]

theorem MqttClient.current_of_none (hclient : client.mqtt.client = false)
    (hconnected : client.mqtt.connected = false) : client.Current device where
  wanted h := absurd (hclient.symm.trans h) Bool.false_ne_true
  options h := absurd (hclient.symm.trans h) Bool.false_ne_true
  connected h := absurd (hconnected.symm.trans h) Bool.false_ne_true

theorem current_mqttNew : mqttNew.Current device := MqttClient.current_of_none rfl rfl

/-- What stays of a client that is current when only its connection and what it has sent change. -/
theorem MqttClient.Current.sent (h : client.Current device)
    (hconfig : mqtt.config = client.mqtt.config)
    (hclient : mqtt.client = client.mqtt.client)
    (hconnected : mqtt.connected = true → client.mqtt.client = true) :
    MqttClient.Current { client with mqtt := mqtt } device where
  wanted hmqtt := by
    rw [hconfig]
    exact h.wanted (hclient ▸ hmqtt)
  options hmqtt := (h.options (hclient ▸ hmqtt)).trans
    (connectOptions_congr (congrArg MqttConfig.topicPrefix hconfig.symm))
  connected hmqtt := hclient ▸ hconnected hmqtt

theorem disconnect_off (hconnected : client.mqtt.connected = true → client.mqtt.client = true) :
    (disconnect client).1.mqtt.client = false ∧ (disconnect client).1.mqtt.connected = false ∧
      (disconnect client).1.mqtt.config = client.mqtt.config ∧
      (disconnect client).1.endpoint = client.endpoint := by
  unfold disconnect
  split
  · next hoff =>
    refine ⟨hoff, ?_, rfl, rfl⟩
    rw [← Bool.not_eq_true]
    exact fun hon => Bool.false_ne_true (hoff.symm.trans (hconnected hon))
  · exact ⟨rfl, rfl, rfl, rfl⟩

/-- Two configurations between which the client need not be made again. -/
theorem eq_of_not_connectionDiffers {a b : MqttConfig} {endpoint endpoint' : Endpoint}
    (h : connectionDiffers a b endpoint endpoint' = false) :
    a.enabled = b.enabled ∧ endpoint = endpoint' ∧ a.topicPrefix = b.topicPrefix := by
  simpa [connectionDiffers, and_assoc] using h

/-- `mqtt_apply` leaves the client on the new configuration. -/
theorem mqttApply_current (h : client.Current device) (api : MqttApi) (hdevice : api.device = device)
    (config : MqttConfig) (endpoint : Endpoint) (created : Bool) :
    let after := (mqttApply client api config endpoint created).1
    after.mqtt.config = config ∧ after.endpoint = endpoint ∧ after.Current device := by
  intro after
  have hafter : after = (mqttApply client api config endpoint created).1 := rfl
  unfold mqttApply at hafter
  dsimp only at hafter
  let renamed : MqttClient :=
    { client with mqtt := { client.mqtt with config := config }, endpoint := endpoint }
  have hoff := disconnect_off (show renamed.mqtt.connected = true → renamed.mqtt.client = true from
    h.connected)
  obtain ⟨hclient, hconnected, hconfig, hendpoint⟩ := hoff
  split at hafter
  · -- switched off, or no broker to connect to
    rw [hafter]
    exact ⟨hconfig, hendpoint, MqttClient.current_of_none hclient hconnected⟩
  · next hwanted =>
    obtain ⟨henabled, hhost⟩ := not_or.mp hwanted
    have henabled : config.enabled = true := Bool.eq_true_of_not_eq_false henabled
    split at hafter
    · rw [hafter]
      refine ⟨hconfig, hendpoint, fun _ => ⟨?_, ?_⟩, fun _ => ?_, fun hon => ?_⟩
      · rw [connectNow]
        exact (congrArg MqttConfig.enabled hconfig).trans henabled
      · exact fun hnil => hhost ((congrArg Endpoint.host hendpoint).symm.trans hnil)
      · rw [connectNow, hdevice]
        exact connectOptions_congr rfl
      · exact absurd (hconnected.symm.trans hon) Bool.false_ne_true
    · next hsame =>
      -- the client stays, so what connecting reads is the same
      obtain ⟨hdiffers, hthere⟩ := Bool.or_eq_false_iff.mp (Bool.eq_false_of_not_eq_true hsame)
      obtain ⟨-, rfl, hprefix⟩ := eq_of_not_connectionDiffers hdiffers
      have hkept : MqttClient.Current
          { client with mqtt := { client.mqtt with config := config } } device := {
        wanted := fun _ => ⟨henabled, hhost⟩
        options := fun hon => (h.options hon).trans (connectOptions_congr hprefix)
        connected := h.connected }
      split at hafter
      · rw [hafter]
        exact ⟨rfl, rfl, hkept.sent rfl rfl h.connected⟩
      · rw [hafter]
        exact ⟨rfl, rfl, hkept⟩

/-! ## The parameters -/

variable {axParameterSet : Bytes → Bytes → Bool} {values : ParameterValues}

/-- A turn that has not changed anything by its end has not changed a value. -/
theorem applyPair_unchanged (state : ParameterValues × Bool) (pair : Bytes)
    (h : (applyPair axParameterSet state pair).2 = false) :
    applyPair axParameterSet state pair = state := by
  unfold applyPair at h ⊢
  split
  · next hpair =>
    rw [if_pos hpair] at h
    dsimp only at h ⊢
    split
    · rfl
    · next p hfind =>
      rw [hfind] at h
      dsimp only at h
      unfold setParameter at h ⊢
      split
      · rfl
      · next hnew =>
        rw [if_neg hnew] at h
        split
        · next hset =>
          rw [if_pos hset] at h
          cases h
        · rfl
  · rfl

/-- A body that reports no change has left the parameters alone. -/
theorem applySettingsBody_unchanged (body : Bytes)
    (h : (applySettingsBody axParameterSet values body).2 = false) :
    (applySettingsBody axParameterSet values body).1 = values := by
  have hfold : ∀ (pairs : List Bytes) (state : ParameterValues × Bool),
      (pairs.foldl (applyPair axParameterSet) state).2 = false →
      pairs.foldl (applyPair axParameterSet) state = state := by
    intro pairs
    induction pairs with
    | nil => exact fun _ _ => rfl
    | cons pair pairs ih =>
      intro state hend
      have hrest := ih _ hend
      rw [List.foldl_cons] at hend ⊢
      rw [hrest] at hend ⊢
      exact applyPair_unchanged state pair hend
  exact congrArg Prod.fst (hfold _ _ h)

/-! ## The app -/

theorem restartSampler_eq (sampler : Sampler) (values : ParameterValues) :
    restartSampler sampler values =
      ⟨clamp (parameterNumber values (ascii "SampleInterval")) 1 10, true⟩ := by
  unfold restartSampler
  dsimp only
  split
  · next h => rw [h.1, ← h.2]
  · rfl

/-- The settings are applied to the parts of an app whose client is current. -/
theorem inForce_apply (app : App V D T) (values : ParameterValues) (created : Bool)
    (h : app.mqtt.Current app.api.device.toDeviceInfo) :
    InForce { app with
      parameters := values
      sampler := restartSampler app.sampler values
      mqtt := (applyMqttSettings app.mqtt app.api values created).1
      influx := applyInfluxSettings app.influx values } := by
  obtain ⟨hconfig, hendpoint, hclient⟩ :=
    mqttApply_current h app.api.mqttApi rfl (mqttSettings values app.api.device.toDeviceInfo)
      (mqttEndpoint values) created
  exact ⟨restartSampler_eq _ _, hconfig, hendpoint, hclient, rfl⟩

/-- An app is on its parameters where one with the same parts is. -/
theorem InForce.congr {app app' : App V D T} (h : InForce app)
    (hparameters : app'.parameters = app.parameters) (hsampler : app'.sampler = app.sampler)
    (hmqtt : app'.mqtt = app.mqtt) (hinflux : app'.influx.config = app.influx.config)
    (hdevice : app'.api.device = app.api.device) : InForce app' where
  sampler := by rw [hsampler, hparameters, h.sampler]
  config := by rw [hmqtt, hparameters, hdevice, h.config]
  endpoint := by rw [hmqtt, hparameters, h.endpoint]
  client := by rw [hmqtt, hdevice]; exact h.client
  influx := by rw [hinflux, hparameters, h.influx]

theorem InForce.postSettings {app : App V D T} (h : InForce app) (env : RequestEnv) (body : Bytes) :
    InForce (app.postSettings env body).app := by
  unfold App.postSettings
  dsimp only
  split
  · exact inForce_apply app _ env.created h.client
  · next hchanged =>
    have hvalues := applySettingsBody_unchanged body (Bool.eq_false_of_not_eq_true hchanged)
    exact h.congr hvalues rfl rfl rfl rfl

theorem InForce.parameterChanged {app : App V D T} (h : InForce app) (created : Bool)
    (name : Bytes) (value : Option Bytes) :
    InForce (onParameterChanged app created name value).1 := by
  unfold onParameterChanged
  split
  · exact h
  · split
    · exact h
    · exact inForce_apply app _ created h.client

section Events

variable [SampleArith V D] [RenderArith V T] [AlertArith V T]

omit [SampleArith V D] in
theorem InForce.handles {app : App V D T} (h : InForce app) {env : RequestEnv} {body : Bytes}
    {readOnly : Bool} {handle : App V D T → Option (Handled V D T)}
    (hhandles : Handles env body readOnly handle) {handled : Handled V D T}
    (hhandled : handle app = some handled) : InForce handled.app := by
  cases hhandles with
  | document render =>
    rw [← Option.some.inj hhandled]
    exact h
  | stream =>
    rw [← Option.some.inj hhandled]
    exact h.congr rfl rfl rfl rfl rfl
  | settings =>
    rw [← Option.some.inj hhandled]
    exact h
  | postSettings =>
    rw [← Option.some.inj hhandled]
    exact h.postSettings env body
  | postRules =>
    obtain ⟨result, -, rfl⟩ := Option.map_eq_some_iff.mp hhandled
    exact h.congr rfl rfl rfl rfl rfl
  | postMetrics =>
    rw [← Option.some.inj hhandled]
    unfold App.postMetrics
    split
    · exact h.congr rfl rfl rfl rfl rfl
    · exact h

/-- A tick publishes and samples, and leaves the settings as they are. -/
theorem InForce.tick {app : App V D T} (h : InForce app) (tick : Tick V T) :
    InForce (onSampleTick app tick).1 := by
  have hmqtt : ∀ json : Bytes, let mqtt := (mqttTick app.mqtt.mqtt tick.mqttNow json).1
      mqtt.config = app.mqtt.mqtt.config ∧ mqtt.client = app.mqtt.mqtt.client ∧
        mqtt.connected = app.mqtt.mqtt.connected := by
    intro json
    unfold mqttTick
    split
    · exact ⟨rfl, rfl, rfl⟩
    · split <;> exact ⟨rfl, rfl, rfl⟩
  have hinflux : ∀ api : Api V D,
      (influxTick app.influx api tick.influxNow).1.config = app.influx.config := by
    intro api
    unfold influxTick
    split
    · rfl
    · split <;> rfl
  obtain ⟨hconfig, hclient, hconnected⟩ := hmqtt (apiCurrentValuesJson
    { app.api with store := (storePush app.api.store ⟨tick.now, fun i => tick.values i⟩).1 })
  exact ⟨h.sampler, hconfig.trans h.config, h.endpoint,
    h.client.sent hconfig hclient fun hon => h.client.connected (hconnected ▸ hon),
    (hinflux _).trans h.influx⟩

omit [SampleArith V D] [RenderArith V T] [AlertArith V T] in
/-- Discovery is sent on the settings that there are. -/
theorem InForce.connected {app : App V D T} (h : InForce app)
    (hclient : app.mqtt.mqtt.client = true) :
    InForce { app with
      mqtt := { app.mqtt with mqtt := (onConnected app.mqtt.mqtt app.api.mqttApi).1 } } := by
  have hfields : (onConnected app.mqtt.mqtt app.api.mqttApi).1.config = app.mqtt.mqtt.config ∧
      (onConnected app.mqtt.mqtt app.api.mqttApi).1.client = app.mqtt.mqtt.client := by
    unfold onConnected
    dsimp only
    split <;> exact ⟨rfl, rfl⟩
  obtain ⟨hconfig, hsame⟩ := hfields
  exact ⟨h.sampler, hconfig.trans h.config, h.endpoint,
    h.client.sent hconfig hsame fun _ => hclient, h.influx⟩

omit [SampleArith V D] [RenderArith V T] [AlertArith V T] in
theorem InForce.connectionLost {app : App V D T} (h : InForce app) :
    InForce { app with mqtt := { app.mqtt with mqtt := onConnectionLost app.mqtt.mqtt } } :=
  ⟨h.sampler, h.config, h.endpoint, h.client.sent rfl rfl fun hon =>
    absurd hon Bool.false_ne_true, h.influx⟩

/-- Each event leaves the parts of the app on its parameters. -/
theorem InForce.step {app app' : App V D T} (h : InForce app) {event : LoopEvent V T}
    {effects : List Effect} (hstep : loopStep app event = some (app', effects)) : InForce app' := by
  cases event with
  | main event =>
    cases event with
    | tick tick =>
      obtain rfl : (onSampleTick app tick).1 = app' := congrArg Prod.fst (Option.some.inj hstep)
      exact h.tick tick
    | request env request readOnly =>
      obtain ⟨handled, hhandled, hpair⟩ := Option.map_eq_some_iff.mp hstep
      obtain rfl : handled.app = app' := congrArg Prod.fst hpair
      exact h.handles (handles_handleRequest env request readOnly) hhandled
    | connected =>
      obtain ⟨⟨next, published⟩, hnext, hpair⟩ := Option.map_eq_some_iff.mp hstep
      obtain rfl : next = app' := congrArg Prod.fst hpair
      obtain ⟨hclient, rfl, -⟩ := appStep_connected hnext
      exact h.connected hclient
    | connectionLost =>
      obtain ⟨⟨next, published⟩, hnext, hpair⟩ := Option.map_eq_some_iff.mp hstep
      obtain rfl : next = app' := congrArg Prod.fst hpair
      obtain ⟨-, rfl, -⟩ := appStep_connectionLost hnext
      exact h.connectionLost
    | parameterChanged created name value =>
      obtain rfl : (onParameterChanged app created name value).1 = app' :=
        congrArg Prod.fst (Option.some.inj hstep)
      exact h.parameterChanged created name value
    | rebuild registry events declare file memory persistPath history =>
      obtain rfl : rebuildForNewStorage app registry events declare file memory persistPath history =
        app' := congrArg Prod.fst (Option.some.inj hstep)
      exact h.congr rfl rfl rfl rfl rfl
    | persistRetry persistPath history =>
      obtain rfl : retryPersistence app persistPath history = app' :=
        congrArg Prod.fst (Option.some.inj hstep)
      obtain ⟨store, path, heq⟩ := retryPersistence_eq app persistPath history
      rw [heq]
      exact h.congr rfl rfl rfl rfl rfl
    | influxState outcome =>
      obtain rfl : { app with influx := { app.influx with state := outcome.state } } = app' :=
        congrArg Prod.fst (Option.some.inj hstep)
      exact h.congr rfl rfl rfl rfl rfl
  | connection env segments readOnly =>
    obtain ⟨handled, hhandled, hpair⟩ := Option.map_eq_some_iff.mp hstep
    obtain rfl : handled.app = app' := congrArg Prod.fst hpair
    exact h.handles (onHttpRequest_cases env segments readOnly) hhandled

/-- `main` leaves its loop an app on its parameters. -/
theorem inForce_loop (start : Startup V T) : InForce (start.loop (D := D)) := by
  refine InForce.tick ?_ start.seed
  obtain ⟨hconfig, hendpoint, hclient⟩ :=
    mqttApply_current current_mqttNew (start.api (D := D)).mqttApi rfl
      (mqttSettings (loadParameters start.axParameterGet) (start.api (D := D)).device.toDeviceInfo)
      (mqttEndpoint (loadParameters start.axParameterGet)) start.created
  exact ⟨restartSampler_eq _ _, hconfig, hendpoint, hclient, rfl⟩

/-- In every run the parts of the app stay on its parameters. -/
theorem inForce_run (start : Startup V T) (events : List (LoopEvent V T)) :
    Always (nextState loopStep) (start.loop (D := D)) events InForce := by
  have hkeep : ∀ app event app', InForce app → True →
      nextState loopStep app event = some app' → InForce (D := D) (V := V) (T := T) app' := by
    intro app event app' h _ hstep
    obtain ⟨⟨next, effects⟩, hloop, hnext⟩ := Option.map_eq_some_iff.mp hstep
    obtain rfl : next = app' := hnext
    exact h.step hloop
  exact Lib.always_of_step (inForce_loop start) hkeep fun _ _ _ _ _ => trivial

end Events

end AxisMetrics
