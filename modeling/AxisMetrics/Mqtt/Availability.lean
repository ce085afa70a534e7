import AxisMetrics.Mqtt.Client

/-!
# Availability topics

`mqtt_apply` stores the new configuration before it closes the old connection, so the "offline"
of a clean disconnect goes to the new status topic. In exactly the runs that never change the
prefix while the client is connected, every topic that once said "online" is retracted
(`retracted_iff`).
-/

namespace AxisMetrics

open Lib (Bytes ascii Always Throughout runFrom Retained)

variable {B : Type} [DecidableEq B] {brokerAt : Bytes → B} {world world' : ClientWorld B}

/-- Every topic on which the process has retained "online" holds "offline", except for the topic of
the current connection. -/
def Retracted (brokerAt : Bytes → B) (world : ClientWorld B) : Prop :=
  ∀ entry ∈ world.online,
    (world.client.mqtt.connected = true →
      entry ≠ (world.broker brokerAt, world.client.mqtt.statusTopic)) →
    world.brokers entry.1 entry.2 = some (ascii "offline")

/-- The event does not change the topic prefix while the client is connected. -/
def KeepsPrefix (world : ClientWorld B) : ClientEvent → Prop
  | .apply config _ _ => world.client.mqtt.connected = true →
      config.topicPrefix = world.client.mqtt.config.topicPrefix
  | _ => True

/-- What holds of the client and the brokers in every run. -/
structure Linked (brokerAt : Bytes → B) (world : ClientWorld B) : Prop where
  client_of_connected : world.client.mqtt.connected = true → world.client.mqtt.client = true
  alive_of_client : world.client.mqtt.client = true → world.alive = true
  will : world.client.mqtt.client = true → world.client.options.will = world.client.mqtt.will
  mem_online : world.client.mqtt.connected = true →
    (world.broker brokerAt, world.client.mqtt.statusTopic) ∈ world.online
  holds_online : world.client.mqtt.connected = true →
    world.brokers (world.broker brokerAt) world.client.mqtt.statusTopic = some (ascii "online")
  status : ∀ entry ∈ world.online, ∃ mqtt : Mqtt, entry.2 = mqtt.statusTopic

-- ════════════════════════════════════════════════════════════════════════
-- Topics
-- ════════════════════════════════════════════════════════════════════════

theorem statusTopic_eq (mqtt : Mqtt) :
    mqtt.statusTopic = mqtt.config.topicPrefix ++ ascii "/" ++ ascii "status" :=
  topic_eq mqtt (by decide)

theorem statusTopic_inj {mqtt mqtt' : Mqtt} (h : mqtt.statusTopic = mqtt'.statusTopic) :
    mqtt.config.topicPrefix = mqtt'.config.topicPrefix := by
  rw [statusTopic_eq, statusTopic_eq, List.append_assoc, List.append_assoc] at h
  exact List.append_cancel_right h

theorem statusTopic_congr {mqtt mqtt' : Mqtt}
    (h : mqtt.config.topicPrefix = mqtt'.config.topicPrefix) :
    mqtt.statusTopic = mqtt'.statusTopic := by
  rw [statusTopic_eq, statusTopic_eq, h]

theorem will_congr {mqtt mqtt' : Mqtt} (h : mqtt.config.topicPrefix = mqtt'.config.topicPrefix) :
    mqtt.will = mqtt'.will :=
  congrArg (fun topic => (⟨topic, ascii "offline", 1, true⟩ : MqttMessage)) (statusTopic_congr h)

theorem statusTopic_ne_configTopic (mqtt : Mqtt) (device : DeviceInfo) (d : MetricDef) :
    mqtt.statusTopic ≠ configTopic (objectId device d) := by
  intro h
  have hstatus : (ascii "status").getLast? = some 115 := by decide
  have hconfig : (ascii "config").getLast? = some 103 := by decide
  have hlast := congrArg List.getLast? h
  rw [statusTopic_eq, configTopic_eq] at hlast
  simp [List.getLast?_append, List.getLast?_cons, hstatus, hconfig] at hlast

theorem discoveryPayload_head? (device : DeviceInfo) (stateTopic availabilityTopic : Bytes)
    (d : MetricDef) : (discoveryPayload device stateTopic availabilityTopic d).head? = some 123 := by
  have hbrace : ascii "\x7b" <+: discoveryPayload device stateTopic availabilityTopic d := by
    unfold discoveryPayload
    repeat with_reducible apply List.prefix_append_of_prefix
    exact List.prefix_rfl
  obtain ⟨rest, hrest⟩ := hbrace
  rw [← hrest]
  rfl

/-- A discovery message is on a discovery topic, and does not say "online". -/
theorem discovery_message {mqtt : Mqtt} {api : MqttApi} {withdrawStale : Bool}
    {message : MqttMessage} (h : message ∈ (publishDiscovery mqtt api withdrawStale).2) :
    (∃ d, message.topic = configTopic (objectId api.device d)) ∧
      message.payload ≠ ascii "online" := by
  obtain ⟨d, -, hmem⟩ := List.mem_flatMap.mp h
  have hpublish : ∀ {topicName payload : Bytes},
      message ∈ mqtt.publish topicName payload 0 true →
        message.topic = topicName ∧ message.payload = payload := by
    intro topicName payload hmem
    rw [Mqtt.publish] at hmem
    split at hmem
    · rw [List.mem_singleton.mp hmem]
      exact ⟨rfl, rfl⟩
    · cases hmem
  rw [discoveryOf] at hmem
  split_ifs at hmem
  · obtain ⟨htopic, hpayload⟩ := hpublish hmem
    refine ⟨⟨d, htopic⟩, fun honline => ?_⟩
    have hhead := congrArg List.head? (hpayload.symm.trans honline)
    rw [discoveryPayload_head?] at hhead
    exact absurd hhead (by decide)
  · obtain ⟨htopic, hpayload⟩ := hpublish hmem
    exact ⟨⟨d, htopic⟩, hpayload ▸ by decide⟩
  · cases hmem

-- ════════════════════════════════════════════════════════════════════════
-- The client
-- ════════════════════════════════════════════════════════════════════════

/-- A disconnected client sends the message that is also its last will. -/
theorem disconnect_eq (client : MqttClient)
    (h : client.mqtt.connected = true → client.mqtt.client = true) :
    (disconnect client).1.mqtt.connected = false ∧ (disconnect client).1.mqtt.client = false ∧
      (disconnect client).2 = if client.mqtt.connected then [client.mqtt.will] else [] := by
  unfold disconnect
  cases hclient : client.mqtt.client with
  | false =>
    cases hconnected : client.mqtt.connected with
    | false => exact ⟨hconnected, hclient, rfl⟩
    | true => exact absurd (h hconnected) (by simp [hclient])
  | true => exact ⟨rfl, rfl, by simp [Mqtt.publish, Mqtt.will, Mqtt.statusTopic, hclient]⟩

/-- What `mqtt_apply` does: it closes the connection under the new configuration, and perhaps
opens another one; or it keeps the connection, whose prefix is then unchanged, and perhaps
publishes discovery. -/
theorem mqttApply_cases (client : MqttClient) (api : MqttApi) (config : MqttConfig)
    (endpoint : Endpoint) (created : Bool)
    (h : client.mqtt.connected = true → client.mqtt.client = true) :
    let result := mqttApply client api config endpoint created
    (result.1.mqtt.connected = false ∧
        (result.1.mqtt.client = true → result.1.options.will = result.1.mqtt.will) ∧
        result.2 = if client.mqtt.connected then [{ client.mqtt with config := config }.will]
          else []) ∨
      (config.topicPrefix = client.mqtt.config.topicPrefix ∧ client.mqtt.client = true ∧
        result.1.options = client.options ∧ result.1.mqtt.client = client.mqtt.client ∧
        result.1.mqtt.connected = client.mqtt.connected ∧ result.1.mqtt.config = config ∧
        ∀ message ∈ result.2, (∃ d, message.topic = configTopic (objectId api.device d)) ∧
          message.payload ≠ ascii "online") := by
  intro result
  have hclosed := disconnect_eq
    { client with mqtt := { client.mqtt with config := config }, endpoint := endpoint } h
  obtain ⟨hconnected, hgone, hmessages⟩ := hclosed
  have hresult : result = mqttApply client api config endpoint created := rfl
  simp only [mqttApply] at hresult
  split_ifs at hresult with hoff hreconnect hrediscover
  · rw [hresult]
    exact Or.inl ⟨hconnected, fun hclient => absurd hclient (by simp [hgone]), hmessages⟩
  · rw [hresult]
    exact Or.inl ⟨hconnected, fun _ => rfl, hmessages⟩
  all_goals
    simp only [connectionDiffers, Bool.or_eq_true, decide_eq_true_eq, Bool.not_eq_true',
      not_or, ne_eq, not_not, Bool.not_eq_false] at hreconnect
    rw [hresult]
    refine Or.inr ⟨hreconnect.1.2.symm, hreconnect.2, rfl, rfl, rfl, rfl, ?_⟩
  · exact fun message hmem => discovery_message hmem
  · simp

/-- What `on_connected` does. -/
theorem onConnected_cases (mqtt : Mqtt) (api : MqttApi) :
    let result := onConnected mqtt api
    result.1.connected = true ∧ result.1.config = mqtt.config ∧ result.1.client = mqtt.client ∧
      ∃ configs, result.2 = { mqtt with connected := true }.publish mqtt.statusTopic
          (ascii "online") 1 true ++ configs ∧
        ∀ message ∈ configs, (∃ d, message.topic = configTopic (objectId api.device d)) ∧
          message.payload ≠ ascii "online" := by
  intro result
  have hresult : result = onConnected mqtt api := rfl
  simp only [onConnected] at hresult
  split_ifs at hresult
  · rw [hresult]
    exact ⟨rfl, rfl, rfl, _, rfl, fun message hmem => discovery_message hmem⟩
  · rw [hresult]
    exact ⟨rfl, rfl, rfl, [], rfl, by simp⟩

-- ════════════════════════════════════════════════════════════════════════
-- The brokers
-- ════════════════════════════════════════════════════════════════════════

section Publish

variable {connected : Bool} {messages : List MqttMessage} {entry : B × Bytes}

@[simp] theorem publish_alive (world : ClientWorld B) (connected : Bool)
    (messages : List MqttMessage) :
    (world.publish brokerAt connected messages).alive = world.alive := by
  unfold ClientWorld.publish
  split <;> rfl

/-- A publish leaves other topics as they are. -/
theorem publish_of_ne (h : ∀ message ∈ messages, entry.2 ≠ message.topic) :
    (world.publish brokerAt connected messages).brokers entry.1 entry.2 =
      world.brokers entry.1 entry.2 := by
  unfold ClientWorld.publish sendTo
  split
  · dsimp only
    split
    · exact Lib.receiveAll_of_notMem h
    · rfl
  · rfl

theorem publish_online_of_ne (h : ∀ message ∈ messages, message.payload ≠ ascii "online") :
    (world.publish brokerAt connected messages).online = world.online := by
  unfold ClientWorld.publish
  split
  · have hnone : messages.filter (fun message =>
        message.retained && message.payload == ascii "online") = [] := by
      rw [List.filter_eq_nil_iff]
      intro message hmem
      simp [h message hmem]
    simp [hnone]
  · rfl

/-- The broker that receives the farewell of a connection has it on the status topic. -/
theorem sendTo_will (brokers : B → Retained Bytes Bytes) (broker b : B) (mqtt : Mqtt)
    (topic : Bytes) : sendTo brokers broker [mqtt.will] b topic =
      if (b, topic) = (broker, mqtt.statusTopic) then some (ascii "offline")
      else brokers b topic := by
  unfold sendTo
  by_cases hb : b = broker
  · subst hb
    rw [if_pos rfl]
    by_cases htopic : topic = mqtt.statusTopic
    · subst htopic
      rw [if_pos rfl]
      exact Lib.receive_self mqtt.will rfl (show ascii "offline" ≠ ∅ by decide)
    · rw [if_neg (by simpa using htopic)]
      have hne : topic ≠ mqtt.will.topic := htopic
      exact Lib.receive_of_ne hne
  · rw [if_neg hb, if_neg (by simp [hb])]

end Publish

-- ════════════════════════════════════════════════════════════════════════
-- What a step does
-- ════════════════════════════════════════════════════════════════════════

/-- The connection ends, if there was one, with a farewell on the status topic of `mqtt`. -/
structure Closes (brokerAt : Bytes → B) (world world' : ClientWorld B) (mqtt : Mqtt) : Prop where
  connected : world'.client.mqtt.connected = false
  alive : world'.client.mqtt.client = true → world'.alive = true
  will : world'.client.mqtt.client = true → world'.client.options.will = world'.client.mqtt.will
  online : world'.online = world.online
  brokers : world'.brokers = if world.client.mqtt.connected then
    sendTo world.brokers (world.broker brokerAt) [mqtt.will] else world.brokers

/-- The connection and the status topics stay as they are. -/
structure Keeps (world world' : ClientWorld B) : Prop where
  connected : world'.client.mqtt.connected = world.client.mqtt.connected
  client : world'.client.mqtt.client = world.client.mqtt.client
  alive : world'.alive = world.alive
  options : world'.client.options = world.client.options
  topicPrefix : world'.client.mqtt.config.topicPrefix = world.client.mqtt.config.topicPrefix
  online : world'.online = world.online
  brokers : ∀ b (mqtt : Mqtt), world'.brokers b mqtt.statusTopic = world.brokers b mqtt.statusTopic

/-- The client is connected, and says so. -/
structure Opens (brokerAt : Bytes → B) (world world' : ClientWorld B) : Prop where
  connected : world'.client.mqtt.connected = true
  client : world.client.mqtt.client = true ∧ world'.client.mqtt.client = true
  alive : world'.alive = world.alive
  options : world'.client.options = world.client.options
  topicPrefix : world'.client.mqtt.config.topicPrefix = world.client.mqtt.config.topicPrefix
  online : world'.online =
    world.online ++ [(world.broker brokerAt, world.client.mqtt.statusTopic)]
  brokers : ∀ b (mqtt : Mqtt), world'.brokers b mqtt.statusTopic =
    if (b, mqtt.statusTopic) = (world.broker brokerAt, world.client.mqtt.statusTopic) then
      some (ascii "online") else world.brokers b mqtt.statusTopic

omit [DecidableEq B] in
theorem Keeps.broker (h : Keeps world world') : world'.broker brokerAt = world.broker brokerAt := by
  rw [ClientWorld.broker, h.options, ClientWorld.broker]

theorem Opens.broker (h : Opens brokerAt world world') :
    world'.broker brokerAt = world.broker brokerAt := by
  rw [ClientWorld.broker, h.options, ClientWorld.broker]

/-- The farewell of a connection that `disconnect` closes. -/
theorem publish_farewell (brokerAt : Bytes → B) (world : ClientWorld B) (mqtt : Mqtt) :
    let messages := if world.client.mqtt.connected then [mqtt.will] else []
    (world.publish brokerAt world.client.mqtt.connected messages).online = world.online ∧
      (world.publish brokerAt world.client.mqtt.connected messages).brokers =
        if world.client.mqtt.connected then
          sendTo world.brokers (world.broker brokerAt) [mqtt.will] else world.brokers := by
  refine ⟨publish_online_of_ne fun message hmem => ?_, ?_⟩
  · split at hmem
    · rw [List.mem_singleton.mp hmem]
      exact show ascii "offline" ≠ ascii "online" by decide
    · cases hmem
  · unfold ClientWorld.publish
    split <;> rfl

theorem closes_of_apply (brokerAt : Bytes → B) (halive : world.alive = true)
    {client : MqttClient} {messages : List MqttMessage} {mqtt : Mqtt}
    (hconnected : client.mqtt.connected = false)
    (hwill : client.mqtt.client = true → client.options.will = client.mqtt.will)
    (hmessages : messages = if world.client.mqtt.connected then [mqtt.will] else []) :
    Closes brokerAt world { world.publish brokerAt world.client.mqtt.connected messages with
      client := client } mqtt := by
  obtain ⟨honline, hbrokers⟩ := publish_farewell brokerAt world mqtt
  rw [← hmessages] at honline hbrokers
  exact ⟨hconnected, fun _ => (publish_alive world _ _).trans halive, hwill, honline, hbrokers⟩

/-- Discovery leaves the status topics alone. -/
theorem publish_discovery_status (brokerAt : Bytes → B) (world : ClientWorld B)
    (connected : Bool) {messages : List MqttMessage}
    {api : MqttApi} (h : ∀ message ∈ messages,
      (∃ d, message.topic = configTopic (objectId api.device d)) ∧
        message.payload ≠ ascii "online") :
    (world.publish brokerAt connected messages).online = world.online ∧
      ∀ b (mqtt : Mqtt), (world.publish brokerAt connected messages).brokers b mqtt.statusTopic =
        world.brokers b mqtt.statusTopic := by
  refine ⟨publish_online_of_ne fun message hmem => (h message hmem).2, fun b mqtt => ?_⟩
  have hne : ∀ message ∈ messages, (b, mqtt.statusTopic).2 ≠ message.topic := by
    intro message hmem
    obtain ⟨⟨d, htopic⟩, -⟩ := h message hmem
    rw [htopic]
    exact statusTopic_ne_configTopic mqtt api.device d
  exact publish_of_ne hne

theorem opens_of_connected (hclient : world.client.mqtt.client = true) :
    Opens brokerAt world { world.publish brokerAt (onConnected world.client.mqtt world.api).1.connected
        (onConnected world.client.mqtt world.api).2 with
      client := { world.client with mqtt := (onConnected world.client.mqtt world.api).1 } } := by
  obtain ⟨hconnected, hconfig, hclient', configs, hmessages, hconfigs⟩ :=
    onConnected_cases world.client.mqtt world.api
  have hhello : { world.client.mqtt with connected := true }.publish world.client.mqtt.statusTopic
      (ascii "online") 1 true = [⟨world.client.mqtt.statusTopic, ascii "online", 1, true⟩] :=
    if_pos hclient
  rw [hhello] at hmessages
  have hnone : configs.filter (fun message =>
      message.retained && message.payload == ascii "online") = [] := by
    rw [List.filter_eq_nil_iff]
    intro message hmem
    simp [(hconfigs message hmem).2]
  refine ⟨hconnected, ⟨hclient, hclient'.trans hclient⟩, publish_alive world _ _, rfl,
    congrArg MqttConfig.topicPrefix hconfig, ?_, fun b mqtt => ?_⟩
  · rw [hconnected, hmessages]
    simp [ClientWorld.publish, hnone]
  · have hrest : ∀ message ∈ configs, mqtt.statusTopic ≠ message.topic := by
      intro message hmem
      obtain ⟨⟨d, htopic⟩, -⟩ := hconfigs message hmem
      rw [htopic]
      exact statusTopic_ne_configTopic mqtt world.api.device d
    rw [hconnected, hmessages]
    simp only [ClientWorld.publish, if_pos, sendTo, List.singleton_append]
    by_cases hb : b = world.broker brokerAt
    · rw [if_pos hb, Lib.Retained.receiveAll, List.foldl_cons, ← Lib.Retained.receiveAll,
        Lib.receiveAll_of_notMem hrest]
      by_cases htopic : mqtt.statusTopic = world.client.mqtt.statusTopic
      · rw [if_pos (by rw [hb, htopic]), htopic]
        exact Lib.receive_self ⟨_, _, _, _⟩ rfl (show ascii "online" ≠ ∅ by decide)
      · rw [if_neg (by simp [htopic])]
        refine Lib.receive_of_ne ?_
        exact htopic
    · rw [if_neg hb, if_neg (by simp [hb])]

/-- Every step closes, keeps or opens the connection, or starts a new process. Where the prefix is
kept, a farewell goes to the topic of the connection. -/
theorem clientStep_cases (hlinked : Linked brokerAt world) {event : ClientEvent}
    (hstep : clientStep brokerAt world event = some world') :
    (∃ mqtt, Closes brokerAt world world' mqtt ∧ (KeepsPrefix world event →
        world.client.mqtt.connected = true → mqtt.statusTopic = world.client.mqtt.statusTopic)) ∨
      Keeps world world' ∨ Opens brokerAt world world' ∨
      (world'.client = mqttNew ∧ world'.online = []) := by
  cases event with
  | apply config endpoint created =>
    simp only [clientStep] at hstep
    split_ifs at hstep with halive
    obtain rfl := Option.some.inj hstep
    rcases mqttApply_cases world.client world.api config endpoint created
      hlinked.client_of_connected with
      ⟨hconnected, hwill, hmessages⟩ | ⟨hsame, hclient, hoptions, hclient', hconnected', hconfig,
        hmessages⟩
    · exact Or.inl ⟨_, closes_of_apply brokerAt halive hconnected hwill hmessages,
        fun hkeeps hon => statusTopic_congr (hkeeps hon)⟩
    · obtain ⟨honline, hbrokers⟩ := publish_discovery_status brokerAt world
        world.client.mqtt.connected hmessages
      exact Or.inr (Or.inl ⟨hconnected', hclient', publish_alive world _ _, hoptions,
        (congrArg MqttConfig.topicPrefix hconfig).trans hsame, honline, hbrokers⟩)
  | connected =>
    simp only [clientStep] at hstep
    split_ifs at hstep with hclient
    obtain rfl := Option.some.inj hstep
    exact Or.inr (Or.inr (Or.inl (opens_of_connected hclient)))
  | connectionLost =>
    simp only [clientStep] at hstep
    split_ifs at hstep with hconnected
    obtain rfl := Option.some.inj hstep
    have hclient := hlinked.client_of_connected hconnected
    refine Or.inl ⟨world.client.mqtt, ⟨rfl, hlinked.alive_of_client, hlinked.will, rfl, ?_⟩,
      fun _ _ => rfl⟩
    rw [if_pos hconnected, ← hlinked.will hclient]
    rfl
  | free =>
    simp only [clientStep] at hstep
    split_ifs at hstep with halive
    obtain rfl := Option.some.inj hstep
    obtain ⟨hconnected, hgone, hmessages⟩ := disconnect_eq _ hlinked.client_of_connected
    obtain ⟨honline, hbrokers⟩ := publish_farewell brokerAt world world.client.mqtt
    rw [← hmessages] at honline hbrokers
    exact Or.inl ⟨world.client.mqtt, ⟨hconnected, fun h => absurd h (by simp [hgone]),
      fun h => absurd h (by simp [hgone]), honline, hbrokers⟩, fun _ _ => rfl⟩
  | select selectionEnabled =>
    obtain rfl := Option.some.inj hstep
    exact Or.inr (Or.inl ⟨rfl, rfl, rfl, rfl, rfl, rfl, fun _ _ => rfl⟩)
  | rebuild registry =>
    obtain rfl := Option.some.inj hstep
    exact Or.inr (Or.inl ⟨rfl, rfl, rfl, rfl, rfl, rfl, fun _ _ => rfl⟩)
  | restart registry selectionEnabled =>
    obtain rfl := Option.some.inj hstep
    exact Or.inr (Or.inr (Or.inr ⟨rfl, rfl⟩))

-- ════════════════════════════════════════════════════════════════════════
-- Runs
-- ════════════════════════════════════════════════════════════════════════

omit [DecidableEq B] in
/-- A new process has no client yet. -/
theorem linked_new (hclient : world.client = mqttNew) (honline : world.online = []) :
    Linked brokerAt world where
  client_of_connected h := absurd h (by rw [hclient]; decide)
  alive_of_client h := absurd h (by rw [hclient]; decide)
  will h := absurd h (by rw [hclient]; decide)
  mem_online h := absurd h (by rw [hclient]; decide)
  holds_online h := absurd h (by rw [hclient]; decide)
  status entry hmem := by
    rw [honline] at hmem
    cases hmem

/-- A step keeps the client and the brokers linked. -/
theorem linked_step (hlinked : Linked brokerAt world) {event : ClientEvent}
    (hstep : clientStep brokerAt world event = some world') : Linked brokerAt world' := by
  rcases clientStep_cases hlinked hstep with ⟨mqtt, h, -⟩ | h | h | ⟨hclient, honline⟩
  · refine ⟨fun hon => ?_, h.alive, h.will, fun hon => ?_, fun hon => ?_, fun entry hmem => ?_⟩
    · exact absurd hon (by simp [h.connected])
    · exact absurd hon (by simp [h.connected])
    · exact absurd hon (by simp [h.connected])
    · exact hlinked.status entry (h.online ▸ hmem)
  · have htopic := statusTopic_congr h.topicPrefix
    have hbroker : world'.broker brokerAt = world.broker brokerAt := h.broker
    refine ⟨fun hon => ?_, fun hclient => ?_, fun hclient => ?_, fun hon => ?_, fun hon => ?_,
      fun entry hmem => ?_⟩
    · rw [h.client]
      exact hlinked.client_of_connected (h.connected ▸ hon)
    · rw [h.alive]
      exact hlinked.alive_of_client (h.client ▸ hclient)
    · rw [h.options, hlinked.will (h.client ▸ hclient), will_congr h.topicPrefix]
    · rw [hbroker, htopic, h.online]
      exact hlinked.mem_online (h.connected ▸ hon)
    · rw [h.brokers, hbroker, htopic]
      exact hlinked.holds_online (h.connected ▸ hon)
    · exact hlinked.status entry (h.online ▸ hmem)
  · have htopic := statusTopic_congr h.topicPrefix
    have hbroker : world'.broker brokerAt = world.broker brokerAt := h.broker
    refine ⟨fun _ => h.client.2, fun _ => ?_, fun _ => ?_, fun _ => ?_, fun _ => ?_,
      fun entry hmem => ?_⟩
    · rw [h.alive]
      exact hlinked.alive_of_client h.client.1
    · rw [h.options, hlinked.will h.client.1, will_congr h.topicPrefix]
    · rw [hbroker, htopic, h.online]
      exact List.mem_append_right _ List.mem_cons_self
    · rw [h.brokers, hbroker, htopic, if_pos rfl]
    · rw [h.online] at hmem
      rcases List.mem_append.mp hmem with hold | hnew
      · exact hlinked.status entry hold
      · rw [List.mem_singleton.mp hnew]
        exact ⟨world.client.mqtt, rfl⟩
  · exact linked_new hclient honline

/-- A step that keeps the prefix of a connection keeps its topics retracted. -/
theorem retracted_step (hlinked : Linked brokerAt world) (hretracted : Retracted brokerAt world)
    {event : ClientEvent} (hkeeps : KeepsPrefix world event)
    (hstep : clientStep brokerAt world event = some world') : Retracted brokerAt world' := by
  rcases clientStep_cases hlinked hstep with ⟨mqtt, h, htopic⟩ | h | h | ⟨-, honline⟩
  · intro entry hmem _
    rw [h.online] at hmem
    rw [h.brokers]
    split
    · next hconnected =>
      -- the farewell of the connection retracts the last topic that said "online"
      rw [sendTo_will, htopic hkeeps hconnected]
      split
      · rfl
      · next hother => exact hretracted entry hmem fun _ => hother
    · next hconnected => exact hretracted entry hmem fun hon => absurd hon hconnected
  · intro entry hmem hother
    rw [h.online] at hmem
    obtain ⟨mqtt, hstatus⟩ := hlinked.status entry hmem
    rw [hstatus, h.brokers, ← hstatus]
    refine hretracted entry hmem fun hon => ?_
    have hcurrent := hother (h.connected.trans hon)
    rwa [h.broker, statusTopic_congr h.topicPrefix] at hcurrent
  · intro entry hmem hother
    have hcurrent := hother h.connected
    rw [h.broker, statusTopic_congr h.topicPrefix] at hcurrent
    rw [h.online] at hmem
    rcases List.mem_append.mp hmem with hold | hnew
    · obtain ⟨mqtt, hstatus⟩ := hlinked.status entry hold
      rw [hstatus, h.brokers, if_neg (by rwa [← hstatus]), ← hstatus]
      exact hretracted entry hold fun _ => hcurrent
    · exact absurd (List.mem_singleton.mp hnew) hcurrent
  · intro entry hmem
    rw [honline] at hmem
    cases hmem

/-- A step that changes the prefix of a connection leaves its topic at "online". -/
theorem not_retracted_step (hlinked : Linked brokerAt world) {event : ClientEvent}
    (hmoves : ¬ KeepsPrefix world event) :
    ∃ world', clientStep brokerAt world event = some world' ∧ ¬ Retracted brokerAt world' := by
  cases event with
  | apply config endpoint created =>
    unfold KeepsPrefix at hmoves
    push Not at hmoves
    obtain ⟨hconnected, hmoved⟩ := hmoves
    have halive := hlinked.alive_of_client (hlinked.client_of_connected hconnected)
    refine ⟨_, by simp only [clientStep]; rw [if_pos halive], fun hretracted => ?_⟩
    rcases mqttApply_cases world.client world.api config endpoint created
      hlinked.client_of_connected with
      ⟨hclosed, hwill, hmessages⟩ | ⟨hsame, -⟩
    · have hcloses := closes_of_apply brokerAt halive hclosed hwill hmessages
      have hlast := hretracted (world.broker brokerAt, world.client.mqtt.statusTopic)
        (hcloses.online ▸ hlinked.mem_online hconnected)
        (fun hon => absurd hon (by simp [hclosed]))
      rw [hcloses.brokers, if_pos hconnected, sendTo_will, if_neg, hlinked.holds_online hconnected]
        at hlast
      · exact absurd (Option.some.inj hlast) (by decide)
      · intro hsame
        exact hmoved (statusTopic_inj (Prod.mk.inj hsame).2).symm
    · exact hmoved hsame
  | _ => exact absurd trivial hmoves

/-- In exactly the runs that never change the topic prefix of a connection, every topic that said
"online" and is not the one of the current connection says "offline". -/
theorem retracted_iff (brokerAt : Bytes → B) (device : DeviceInfo)
    (brokers : B → Retained Bytes Bytes) (run : List ClientEvent) :
    Always (clientStep brokerAt) (clientStart device brokers) run (Retracted brokerAt) ↔
      Throughout (clientStep brokerAt) (clientStart device brokers) run KeepsPrefix := by
  refine Lib.always_iff_throughout (Linked brokerAt) (linked_new rfl rfl) ?_
    (fun _ _ _ hlinked hstep => linked_step hlinked hstep)
    (fun _ _ _ hlinked hretracted hkeeps hstep => retracted_step hlinked hretracted hkeeps hstep)
    (fun _ _ hlinked _ hmoves => not_retracted_step hlinked hmoves)
  intro entry hmem
  cases hmem

/-- A connection to a broker, and then another prefix. -/
def movedPrefix : List ClientEvent :=
  let endpoint : Endpoint := ⟨ascii "broker", 1883, false, [], []⟩
  [.restart ⟨[]⟩ (fun _ => true),
    .apply ⟨true, ascii "a", 10, false, false, by decide⟩ endpoint true,
    .connected,
    .apply ⟨true, ascii "b", 10, false, false, by decide⟩ endpoint true]

theorem not_retracted_movedPrefix :
    ¬ Always (clientStep id) (clientStart ⟨[], [], [], by decide⟩ fun _ _ => none) movedPrefix
      (Retracted id) := by
  intro halways
  -- "a/status" still says "online" once the connection is closed
  have hend : (runFrom (clientStep id) (clientStart ⟨[], [], [], by decide⟩ fun _ _ => none)
      movedPrefix).map (fun world => (world.online, world.client.mqtt.connected,
        world.brokers (ascii "tcp://broker:1883") (ascii "a/status"))) =
      some ([(ascii "tcp://broker:1883", ascii "a/status")], false, some (ascii "online")) := by
    decide
  obtain ⟨world, hrun, hworld⟩ := Option.map_eq_some_iff.mp hend
  obtain ⟨honline, hconnected, hbroker⟩ : world.online = _ ∧ _ = _ ∧ _ = _ := by
    simpa only [Prod.mk.injEq] using hworld
  have hlast := halways movedPrefix world List.prefix_rfl hrun
    (ascii "tcp://broker:1883", ascii "a/status") (honline ▸ List.mem_cons_self)
    (fun hon => absurd hon (by simp [hconnected]))
  rw [hbroker] at hlast
  exact absurd (Option.some.inj hlast) (by decide)

end AxisMetrics
