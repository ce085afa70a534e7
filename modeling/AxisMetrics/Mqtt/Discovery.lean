import AxisMetrics.Mqtt.Availability

/-!
# Discovery configs

A config stays with the broker until someone withdraws it. `publish_discovery` can withdraw only
the configs of metrics that are registered now, and on a reconnect it withdraws none, so a metric
that was dropped leaves a dead entity. `discoverySettled_of_throughout` says when it does not.
-/

namespace AxisMetrics

open Lib (Bytes ascii Throughout runFrom Retained)

variable {B : Type} [DecidableEq B] {brokerAt : Bytes → B} {world world' : ClientWorld B}
variable {mqtt : Mqtt} {api : MqttApi} {withdrawStale : Bool} {retained : Retained Bytes Bytes}

/-- The topic of a metric's config. -/
def metricTopic (api : MqttApi) (d : MetricDef) : Bytes := configTopic (objectId api.device d)

/-- `wanted` in `publish_discovery`. -/
def IsWanted (mqtt : Mqtt) (api : MqttApi) (d : MetricDef) : Prop :=
  api.selectionEnabled d.id = true ∧
    (mqtt.config.discoveryAll = true ∨ isEssential d.id (hasNamedSensors api.registry) = true)

/-- The topic of a registered metric that is wanted. -/
def WantedTopic (mqtt : Mqtt) (api : MqttApi) (topic : Bytes) : Prop :=
  ∃ d ∈ api.registry.defs, IsWanted mqtt api d ∧ metricTopic api d = topic

/-- The broker of the connection retains configs of this device for exactly the metrics wanted
now. -/
def DiscoveryExact (brokerAt : Bytes → B) (world : ClientWorld B) : Prop :=
  ∀ d, world.brokers (world.broker brokerAt) (metricTopic world.api d) ≠ none ↔
    WantedTopic world.client.mqtt world.api (metricTopic world.api d)

/-- `on_connected` or `mqtt_apply`. -/
def ClientEvent.Settles : ClientEvent → Prop
  | .apply _ _ _ => True
  | .connected => True
  | _ => False

/-- Whenever `on_connected` or `mqtt_apply` has finished with the client connected and discovery
on, the configs are exact. -/
def DiscoverySettled (brokerAt : Bytes → B) (start : ClientWorld B) (run : List ClientEvent) :
    Prop :=
  ∀ done event world, done ++ [event] <+: run → event.Settles →
    runFrom (clientStep brokerAt) start (done ++ [event]) = some world →
    world.client.mqtt.connected = true → world.client.mqtt.config.discovery = true →
    DiscoveryExact brokerAt world

/-- `publish_discovery` leaves the configs exact: what it does not overwrite it withdraws, and it
withdraws nothing that it has just published. -/
structure Withdraws (retained : Retained Bytes Bytes) (mqtt : Mqtt) (api : MqttApi)
    (withdrawStale : Bool) : Prop where
  /-- A retained config is of a metric that is registered, or without `withdraw_stale` wanted. -/
  registered : ∀ d, retained (metricTopic api d) ≠ none →
    ∃ d' ∈ api.registry.defs, metricTopic api d' = metricTopic api d ∧
      (withdrawStale = true ∨ IsWanted mqtt api d')
  /-- No metric withdraws the config of an earlier one. -/
  later : withdrawStale = true → api.registry.defs.Pairwise fun d d' =>
    metricTopic api d' = metricTopic api d → IsWanted mqtt api d → IsWanted mqtt api d'

/-- `rediscover` in `mqtt_apply`, where it is reached. -/
def Rediscovers (client : MqttClient) (config : MqttConfig) (endpoint : Endpoint) : Prop :=
  connectionDiffers client.mqtt.config config client.endpoint endpoint = false ∧
    client.mqtt.connected = true ∧ config.discovery = true ∧
    (config.discovery ≠ client.mqtt.config.discovery ∨
      config.discoveryAll ≠ client.mqtt.config.discoveryAll)

/-- The event leaves no dead config: where it publishes discovery, that withdraws what has to go,
and where it does not, the same metrics stay wanted. -/
def KeepsDiscovery (brokerAt : Bytes → B) (world : ClientWorld B) : ClientEvent → Prop
  | .apply config endpoint _ => Rediscovers world.client config endpoint →
      Withdraws (world.brokers (world.broker brokerAt)) { world.client.mqtt with config := config }
        world.api true
  | .connected => world.client.mqtt.config.discovery = true →
      Withdraws (world.brokers (world.broker brokerAt)) world.client.mqtt world.api
        (!world.client.mqtt.discoverySent)
  | .select selectionEnabled =>
      world.client.mqtt.connected = true → world.client.mqtt.config.discovery = true →
        ∀ topic, WantedTopic world.client.mqtt { world.api with selectionEnabled := selectionEnabled }
          topic ↔ WantedTopic world.client.mqtt world.api topic
  | .rebuild registry =>
      world.client.mqtt.connected = true → world.client.mqtt.config.discovery = true →
        ∀ topic, WantedTopic world.client.mqtt { world.api with registry := registry } topic ↔
          WantedTopic world.client.mqtt world.api topic
  | _ => True

theorem discoveryPayload_ne_nil (device : DeviceInfo) (stateTopic availabilityTopic : Bytes)
    (d : MetricDef) : discoveryPayload device stateTopic availabilityTopic d ≠ [] := by
  intro h
  have hhead := discoveryPayload_head? device stateTopic availabilityTopic d
  rw [h] at hhead
  cases hhead

/-- What a config leaves under its topic. -/
theorem receiveAll_config (topic payload : Bytes) :
    retained.receiveAll [⟨topic, payload, 0, true⟩] topic =
      if payload = [] then none else some payload := by
  simp [Retained.receiveAll, Retained.receive]

/-- What the turn of a metric leaves under a topic. -/
theorem receiveAll_discoveryOf (hclient : mqtt.client = true) (d : MetricDef) (topic : Bytes) :
    retained.receiveAll (discoveryOf mqtt api withdrawStale d) topic ≠ none ↔
      (metricTopic api d = topic ∧ IsWanted mqtt api d) ∨
        (retained topic ≠ none ∧ ¬ (metricTopic api d = topic ∧ withdrawStale = true)) := by
  have hpublish : ∀ payload, mqtt.publish (metricTopic api d) payload 0 true =
      [⟨metricTopic api d, payload, 0, true⟩] := fun _ => if_pos hclient
  have hother : ∀ messages : List MqttMessage, (∀ message ∈ messages,
      message.topic = metricTopic api d) → metricTopic api d ≠ topic →
      retained.receiveAll messages topic = retained topic := fun messages h hne =>
    Lib.receiveAll_of_notMem fun message hmem htopic => hne ((h message hmem).symm.trans htopic.symm)
  rw [discoveryOf]
  split_ifs with hwanted hstale
  · rw [← metricTopic, hpublish]
    by_cases htopic : metricTopic api d = topic
    · subst htopic
      rw [receiveAll_config, if_neg (discoveryPayload_ne_nil _ _ _ _)]
      simp [IsWanted, hwanted]
    · rw [hother _ (by simp) htopic]
      simp [htopic]
  · rw [← metricTopic, hpublish]
    by_cases htopic : metricTopic api d = topic
    · subst htopic
      rw [receiveAll_config, if_pos rfl]
      simp [IsWanted, hwanted, hstale]
    · rw [hother _ (by simp) htopic]
      simp [htopic]
  · simp [Retained.receiveAll, IsWanted, hwanted, hstale]

/-- What the turns of a list of metrics leave under a topic. -/
theorem receiveAll_discovery (hclient : mqtt.client = true) (defs : List MetricDef)
    (hlater : withdrawStale = true → defs.Pairwise fun d d' =>
      metricTopic api d' = metricTopic api d → IsWanted mqtt api d → IsWanted mqtt api d')
    (topic : Bytes) :
    retained.receiveAll (defs.flatMap (discoveryOf mqtt api withdrawStale)) topic ≠ none ↔
      (∃ d ∈ defs, IsWanted mqtt api d ∧ metricTopic api d = topic) ∨
        (retained topic ≠ none ∧ ∀ d ∈ defs, ¬ (metricTopic api d = topic ∧ withdrawStale = true)) := by
  induction defs generalizing retained with
  | nil => simp [Retained.receiveAll]
  | cons d defs ih =>
    rw [List.flatMap_cons, Lib.receiveAll_append,
      ih fun hstale => (List.pairwise_cons.mp (hlater hstale)).2, receiveAll_discoveryOf hclient]
    simp only [List.exists_mem_cons_iff, List.forall_mem_cons]
    constructor
    · rintro (hrest | ⟨⟨htopic, hwanted⟩ | ⟨hretained, hkept⟩, hrest⟩)
      · exact Or.inl (Or.inr hrest)
      · exact Or.inl (Or.inl ⟨hwanted, htopic⟩)
      · exact Or.inr ⟨hretained, hkept, hrest⟩
    · rintro ((⟨hwanted, htopic⟩ | hrest) | ⟨hretained, hkept, hrest⟩)
      · -- a later metric of the topic publishes it again, or withdraws nothing
        by_cases hagain : ∃ d' ∈ defs, IsWanted mqtt api d' ∧ metricTopic api d' = topic
        · exact Or.inl hagain
        · refine Or.inr ⟨Or.inl ⟨htopic, hwanted⟩, fun d' hmem hboth => ?_⟩
          obtain ⟨htopic', hstale⟩ := hboth
          have hsame := (List.pairwise_cons.mp (hlater hstale)).1 d' hmem
          exact hagain ⟨d', hmem, hsame (htopic'.trans htopic.symm) hwanted, htopic'⟩
      · exact Or.inl hrest
      · exact Or.inr ⟨Or.inr ⟨hretained, hkept⟩, hrest⟩

/-- Where it can withdraw what has to go, `publish_discovery` leaves exactly the wanted configs. -/
theorem publishDiscovery_exact (hclient : mqtt.client = true)
    (h : Withdraws retained mqtt api withdrawStale) (d : MetricDef) :
    retained.receiveAll (publishDiscovery mqtt api withdrawStale).2 (metricTopic api d) ≠ none ↔
      WantedTopic mqtt api (metricTopic api d) := by
  rw [publishDiscovery, receiveAll_discovery hclient _ h.later, WantedTopic, or_iff_left_iff_imp]
  rintro ⟨hretained, hkept⟩
  obtain ⟨d', hmem, htopic, hstale | hwanted⟩ := h.registered d hretained
  · exact absurd ⟨htopic, hstale⟩ (hkept d' hmem)
  · exact ⟨d', hmem, hwanted, htopic⟩

/-- An `mqtt_apply` that ends connected publishes discovery, or changes no discovery setting. -/
theorem mqttApply_connected (client : MqttClient) (api : MqttApi) (config : MqttConfig)
    (endpoint : Endpoint) (created : Bool)
    (hlinked : client.mqtt.connected = true → client.mqtt.client = true)
    (hconnected : (mqttApply client api config endpoint created).1.mqtt.connected = true) :
    let mqtt := { client.mqtt with config := config }
    (Rediscovers client config endpoint ∧ mqttApply client api config endpoint created =
        ({ client with mqtt := (publishDiscovery mqtt api true).1, endpoint := endpoint },
          (publishDiscovery mqtt api true).2)) ∨
      (client.mqtt.connected = true ∧
        mqttApply client api config endpoint created =
          ({ client with mqtt := mqtt, endpoint := endpoint }, []) ∧
        (config.discovery = true → client.mqtt.config.discovery = true ∧
          config.discoveryAll = client.mqtt.config.discoveryAll)) := by
  intro mqtt
  obtain ⟨hclosed, -, -⟩ := disconnect_eq
    { client with mqtt := mqtt, endpoint := endpoint } hlinked
  simp only [mqttApply] at hconnected ⊢
  split_ifs at hconnected ⊢ with hoff hreconnect hrediscover
  · exact absurd hconnected (by simp [mqtt, hclosed])
  · exact absurd hconnected (by simp [connectNow, mqtt, hclosed])
  · simp only [Bool.or_eq_true, not_or, Bool.not_eq_true] at hreconnect
    simp only [Bool.and_eq_true, Bool.or_eq_true, decide_eq_true_eq] at hrediscover
    exact Or.inl ⟨⟨hreconnect.1, hconnected, hrediscover.1.2, hrediscover.2⟩, rfl⟩
  · refine Or.inr ⟨hconnected, rfl, fun hdiscovery => ?_⟩
    simp only [hreconnect, hdiscovery, Bool.not_false, Bool.true_and, Bool.and_true,
      Bool.and_eq_true, Bool.or_eq_true, decide_eq_true_eq, not_and, not_or, not_not] at hrediscover
    obtain ⟨hsame, hall⟩ := hrediscover hconnected
    exact ⟨hsame.symm, hall⟩

@[simp] theorem publish_api (world : ClientWorld B) (connected : Bool)
    (messages : List MqttMessage) :
    (world.publish brokerAt connected messages).api = world.api := by
  unfold ClientWorld.publish
  split <;> rfl

/-- Messages of a connected client reach its broker. -/
theorem publish_broker (world : ClientWorld B) {connected : Bool} (h : connected = true)
    (messages : List MqttMessage) :
    (world.publish brokerAt connected messages).brokers (world.broker brokerAt) =
      (world.brokers (world.broker brokerAt)).receiveAll messages := by
  simp [ClientWorld.publish, sendTo, h]

theorem wantedTopic_congr {mqtt' : Mqtt} (h : mqtt'.config.discoveryAll = mqtt.config.discoveryAll)
    (topic : Bytes) : WantedTopic mqtt' api topic ↔ WantedTopic mqtt api topic := by
  unfold WantedTopic IsWanted
  rw [h]

theorem Withdraws.congr {retained' : Retained Bytes Bytes}
    (h : Withdraws retained mqtt api withdrawStale)
    (hsame : ∀ d, retained' (metricTopic api d) = retained (metricTopic api d)) :
    Withdraws retained' mqtt api withdrawStale where
  registered d hretained := h.registered d (hsame d ▸ hretained)
  later := h.later

omit [DecidableEq B] in
/-- Where the wanted metrics and the broker's configs are as before, they stay exact. -/
theorem DiscoveryExact.congr (h : DiscoveryExact brokerAt world)
    (hdevice : world'.api.device = world.api.device)
    (hbroker : world'.brokers (world'.broker brokerAt) = world.brokers (world.broker brokerAt))
    (hwanted : ∀ topic, WantedTopic world'.client.mqtt world'.api topic ↔
      WantedTopic world.client.mqtt world.api topic) : DiscoveryExact brokerAt world' := by
  intro d
  have htopic : metricTopic world'.api d = metricTopic world.api d := by
    rw [metricTopic, metricTopic, hdevice]
  rw [htopic, hbroker, hwanted]
  exact h d

omit [DecidableEq B] in
/-- Publishing discovery makes them exact. -/
theorem DiscoveryExact.of_publish (hclient : mqtt.client = true)
    (hwithdraws : Withdraws retained mqtt world.api withdrawStale)
    (hapi : world'.api = world.api) (hconfig : world'.client.mqtt.config = mqtt.config)
    (hbroker : ∀ d, world'.brokers (world'.broker brokerAt) (metricTopic world.api d) =
      retained.receiveAll (publishDiscovery mqtt world.api withdrawStale).2
        (metricTopic world.api d)) : DiscoveryExact brokerAt world' := by
  intro d
  rw [hapi, hbroker, wantedTopic_congr (congrArg MqttConfig.discoveryAll hconfig)]
  exact publishDiscovery_exact hclient hwithdraws d

/-- A step that leaves no dead config keeps the configs of a connected client exact. -/
theorem discoveryExact_step (hlinked : Linked brokerAt world)
    (hexact : world.client.mqtt.connected = true → world.client.mqtt.config.discovery = true →
      DiscoveryExact brokerAt world)
    {event : ClientEvent} (hkeeps : KeepsDiscovery brokerAt world event)
    (hstep : clientStep brokerAt world event = some world')
    (hconnected : world'.client.mqtt.connected = true)
    (hdiscovery : world'.client.mqtt.config.discovery = true) : DiscoveryExact brokerAt world' := by
  cases event with
  | apply config endpoint created =>
    simp only [clientStep] at hstep
    split_ifs at hstep
    obtain rfl := Option.some.inj hstep
    rcases mqttApply_connected world.client world.api config endpoint created
      hlinked.client_of_connected hconnected with ⟨hre, hresult⟩ | ⟨hon, hresult, hsame⟩
    · have hwithdraws := hkeeps hre
      obtain ⟨-, hon, -⟩ := hre
      have hclient : ({ world.client.mqtt with config := config } : Mqtt).client = true :=
        hlinked.client_of_connected hon
      simp only [hresult]
      refine DiscoveryExact.of_publish hclient hwithdraws (publish_api world _ _) rfl fun d => ?_
      exact congrFun (publish_broker world hon _) _
    · simp only [hresult] at hdiscovery
      obtain ⟨hold, hall⟩ := hsame hdiscovery
      simp only [hresult]
      refine (hexact hon hold).congr ?_ ?_ fun topic => ?_
      · exact congrArg MqttApi.device (publish_api world _ _)
      · exact publish_broker world hon []
      · rw [publish_api]
        exact wantedTopic_congr hall topic
  | connected =>
    simp only [clientStep] at hstep
    split_ifs at hstep with hclient
    obtain rfl := Option.some.inj hstep
    obtain ⟨hon, hconfig, -⟩ := onConnected_cases world.client.mqtt world.api
    replace hdiscovery : world.client.mqtt.config.discovery = true := by
      rw [← hconfig]
      exact hdiscovery
    -- "online" goes to a topic of its own
    have hstatus : ∀ d, ((world.brokers (world.broker brokerAt)).receiveAll
        (world.client.mqtt.publish world.client.mqtt.statusTopic (ascii "online") 1 true))
          (metricTopic world.api d) =
        world.brokers (world.broker brokerAt) (metricTopic world.api d) := by
      intro d
      refine Lib.receiveAll_of_notMem fun message hmem htopic => ?_
      rw [Mqtt.publish, if_pos hclient] at hmem
      rw [List.mem_singleton.mp hmem] at htopic
      exact statusTopic_ne_configTopic _ _ _ htopic.symm
    refine DiscoveryExact.of_publish hclient ((hkeeps hdiscovery).congr hstatus)
      (publish_api world _ _) hconfig fun d => ?_
    refine (congrFun (publish_broker world hon _) _).trans ?_
    rw [← Lib.receiveAll_append]
    simp only [onConnected, if_pos hdiscovery]
    rfl
  | connectionLost =>
    simp only [clientStep] at hstep
    split_ifs at hstep
    obtain rfl := Option.some.inj hstep
    cases hconnected
  | free =>
    simp only [clientStep] at hstep
    split_ifs at hstep
    obtain rfl := Option.some.inj hstep
    exact absurd hconnected (by simp [(disconnect_eq _ hlinked.client_of_connected).1])
  | select selectionEnabled =>
    obtain rfl := Option.some.inj hstep
    exact (hexact hconnected hdiscovery).congr rfl rfl (hkeeps hconnected hdiscovery)
  | rebuild registry =>
    obtain rfl := Option.some.inj hstep
    exact (hexact hconnected hdiscovery).congr rfl rfl (hkeeps hconnected hdiscovery)
  | restart registry selectionEnabled =>
    obtain rfl := Option.some.inj hstep
    cases hconnected

/-- In a run whose steps leave no dead config, the configs of a connected client with discovery on
are exact. -/
theorem discoverySettled_of_throughout (brokerAt : Bytes → B) (device : DeviceInfo)
    (brokers : B → Retained Bytes Bytes) (run : List ClientEvent)
    (hrun : Throughout (clientStep brokerAt) (clientStart device brokers) run
      (KeepsDiscovery brokerAt)) :
    DiscoverySettled brokerAt (clientStart device brokers) run := by
  have halways := Lib.always_of_step
    (p := fun world => Linked brokerAt world ∧ (world.client.mqtt.connected = true →
      world.client.mqtt.config.discovery = true → DiscoveryExact brokerAt world))
    ⟨linked_new rfl rfl, fun hconnected => by cases hconnected⟩
    (fun _ _ _ ⟨hlinked, hexact⟩ hkeeps hstep =>
      ⟨linked_step hlinked hstep, discoveryExact_step hlinked hexact hkeeps hstep⟩) hrun
  intro done event world hdone _ hend
  exact (halways _ world hdone hend).2

/-- The CPU metric, and the usage of a card. -/
def cpuMetric : MetricDef :=
  ⟨ascii "cpu.usage", ascii "CPU usage", ascii "%", ascii "cpu", by decide, by decide⟩

def cardMetric : MetricDef :=
  ⟨ascii "fs.card.usage", ascii "Card usage", ascii "%", ascii "storage", by decide, by decide⟩

/-- A process with these metrics, some of them switched off for transmission, connects with
discovery on. -/
def connectWith (defs : List MetricDef) (selectionEnabled : Bytes → Bool) : List ClientEvent :=
  [.restart ⟨defs⟩ selectionEnabled,
    .apply ⟨true, ascii "axis", 10, true, false, length_axis_lt⟩
      ⟨ascii "broker", 1883, false, [], []⟩ true,
    .connected]

abbrev bareDevice : DeviceInfo := ⟨[], [], [], Nat.zero_lt_succ _⟩

abbrev bareWorld : ClientWorld Bytes := clientStart bareDevice fun _ _ => none

/-- Both metrics are transmitted. -/
def bothMetrics : List ClientEvent := connectWith [cpuMetric, cardMetric] fun _ => true

/-- The process starts again with the card switched off. -/
def cardSwitchedOff : List ClientEvent :=
  connectWith [cpuMetric, cardMetric] fun id => id ≠ cardMetric.id

/-- Whether the broker retains a config of the card. -/
def cardRetained (world : ClientWorld Bytes) : Bool :=
  (world.brokers (world.broker id) (metricTopic world.api cardMetric)).isSome

theorem pairwise_metricTopic (mqtt : Mqtt) {api : MqttApi} (hdevice : api.device = bareDevice) :
    [cpuMetric, cardMetric].Pairwise fun d d' =>
      metricTopic api d' = metricTopic api d → IsWanted mqtt api d → IsWanted mqtt api d' := by
  have hne : configTopic (objectId bareDevice cardMetric) ≠
      configTopic (objectId bareDevice cpuMetric) := by decide +kernel
  refine List.pairwise_pair.mpr fun hsame => ?_
  rw [metricTopic, metricTopic, hdevice] at hsame
  exact absurd hsame hne

/-- The broker's word that a client is lost is no config. -/
theorem lose_brokers {world : ClientWorld B}
    (hwill : world.client.options.will.topic = world.client.mqtt.statusTopic) (b : B)
    (d : MetricDef) : (world.lose brokerAt).brokers b (metricTopic world.api d) =
      world.brokers b (metricTopic world.api d) := by
  dsimp only [ClientWorld.lose, sendTo]
  split
  · refine Lib.receiveAll_of_notMem fun message hmem htopic => ?_
    rw [List.mem_singleton.mp hmem, hwill] at htopic
    exact statusTopic_ne_configTopic world.client.mqtt world.api.device d htopic.symm
  · rfl

/-- A new process with all metrics of the one before withdraws the configs it does not want. -/
theorem throughout_connectWith {world : ClientWorld Bytes} (hexact : DiscoveryExact id world)
    (hconnected : world.client.mqtt.connected = true)
    (hwill : world.client.options.will.topic = world.client.mqtt.statusTopic)
    (haddress : world.client.options.address = ascii "tcp://broker:1883")
    (hdevice : world.api.device = bareDevice)
    (hdefs : world.api.registry.defs = [cpuMetric, cardMetric]) (selectionEnabled : Bytes → Bool) :
    Throughout (clientStep id) world (connectWith [cpuMetric, cardMetric] selectionEnabled)
      (KeepsDiscovery id) := by
  refine Lib.throughout_cons.mpr ⟨trivial, ?_⟩
  rintro _ ⟨⟩
  rw [if_pos hconnected]
  refine Lib.throughout_cons.mpr ⟨fun hre => absurd hre.2.1 Bool.false_ne_true, ?_⟩
  rintro _ ⟨⟩
  refine Lib.throughout_cons.mpr ⟨fun _ => ⟨fun d hretained => ?_, fun _ =>
    pairwise_metricTopic _ hdevice⟩, ?_⟩
  · have hkept : (world.lose id).brokers (ascii "tcp://broker:1883") (metricTopic world.api d) ≠ none :=
      hretained
    rw [lose_brokers hwill, ← haddress] at hkept
    obtain ⟨d', hmem, -, htopic⟩ := (hexact d).mp hkept
    exact ⟨d', hdefs ▸ hmem, htopic, .inl rfl⟩
  rintro _ ⟨⟩
  exact Lib.throughout_nil

/-- When a client connects again, everything that is retained is wanted. -/
theorem throughout_reconnect {world : ClientWorld B} (hexact : DiscoveryExact brokerAt world)
    (hwill : world.client.options.will.topic = world.client.mqtt.statusTopic)
    (hsent : world.client.mqtt.discoverySent = true) :
    Throughout (clientStep brokerAt) world [.connectionLost, .connected] (KeepsDiscovery brokerAt) := by
  refine Lib.throughout_cons.mpr ⟨trivial, fun lost hlost => ?_⟩
  simp only [clientStep] at hlost
  split at hlost
  · obtain rfl := Option.some.inj hlost
    refine Lib.throughout_cons.mpr ⟨fun _ => ⟨fun d hretained => ?_, fun hstale => ?_⟩,
      fun _ _ => Lib.throughout_nil⟩
    · have hkept : (world.lose brokerAt).brokers (world.broker brokerAt) (metricTopic world.api d) ≠
          none := hretained
      rw [lose_brokers hwill] at hkept
      obtain ⟨d', hmem, hwanted, htopic⟩ := (hexact d).mp hkept
      exact ⟨d', hmem, htopic, .inr hwanted⟩
    · have hoff : (!world.client.mqtt.discoverySent) = true := hstale
      rw [hsent] at hoff
      cases hoff
  · cases hlost

/-- The config of the card, which the first process published, is withdrawn by the second one; when
that connects again, nothing has to be. -/
theorem discoverySettled_cardSwitchedOff :
    (runFrom (clientStep id) bareWorld bothMetrics).map cardRetained = some true ∧
    (runFrom (clientStep id) bareWorld (bothMetrics ++ cardSwitchedOff)).map cardRetained =
      some false ∧
    DiscoverySettled id bareWorld
      (bothMetrics ++ cardSwitchedOff ++ [.connectionLost, .connected]) := by
  have hfirst : Throughout (clientStep id) bareWorld bothMetrics (KeepsDiscovery id) := by
    refine Lib.throughout_cons.mpr ⟨trivial, ?_⟩
    rintro _ ⟨⟩
    refine Lib.throughout_cons.mpr ⟨fun hre => absurd hre.2.1 Bool.false_ne_true, ?_⟩
    rintro _ ⟨⟩
    refine Lib.throughout_cons.mpr ⟨fun _ => ⟨fun d hretained => absurd rfl hretained,
      fun _ => pairwise_metricTopic _ rfl⟩, ?_⟩
    rintro _ ⟨⟩
    exact Lib.throughout_nil
  have hboth := discoverySettled_of_throughout id _ _ bothMetrics hfirst
    [_, _] .connected _ List.prefix_rfl trivial rfl rfl rfl
  have hsecond : Throughout (clientStep id) bareWorld (bothMetrics ++ cardSwitchedOff)
      (KeepsDiscovery id) := by
    refine hfirst.append ?_
    rintro _ ⟨⟩
    exact throughout_connectWith hboth rfl rfl (by decide +kernel) rfl rfl _
  have hone := discoverySettled_of_throughout id _ _ (bothMetrics ++ cardSwitchedOff) hsecond
    (bothMetrics ++ [_, _]) .connected _ List.prefix_rfl trivial rfl rfl rfl
  refine ⟨by decide +kernel, by decide +kernel,
    discoverySettled_of_throughout id _ _ _ (hsecond.append ?_)⟩
  rintro _ ⟨⟩
  exact throughout_reconnect hone rfl rfl

/-- The card is removed while the process restarts. -/
theorem not_discoverySettled_removedCard :
    ¬ DiscoverySettled id bareWorld (bothMetrics ++ connectWith [cpuMetric] fun _ => true) := by
  intro hsettled
  have hend : (runFrom (clientStep id) bareWorld
      (bothMetrics ++ connectWith [cpuMetric] fun _ => true)).map (fun world =>
        (world.client.mqtt.connected, world.client.mqtt.config.discovery, cardRetained world,
          world.api.registry.defs.any fun d =>
            metricTopic world.api d = metricTopic world.api cardMetric)) =
      some (true, true, true, false) := by
    decide +kernel
  obtain ⟨world, hrun, hworld⟩ := Option.map_eq_some_iff.mp hend
  simp only [Prod.mk.injEq] at hworld
  obtain ⟨hconnected, hdiscovery, hdead, hgone⟩ := hworld
  have hexact := hsettled
    (bothMetrics ++ (connectWith [cpuMetric] fun _ => true).dropLast) .connected world
    List.prefix_rfl trivial hrun hconnected hdiscovery
  obtain ⟨d, hmem, -, htopic⟩ := (hexact cardMetric).mp (Option.isSome_iff_ne_none.mp hdead)
  rw [List.any_eq_false] at hgone
  exact hgone d hmem (decide_eq_true htopic)

end AxisMetrics
