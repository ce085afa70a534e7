import AxisMetrics.Alerts.Turns
import AxisMetrics.Mqtt.Topics

/-!
# The alerts at the broker

Each transition of a rule is published as a retained message, and dropped while the client is
not connected. Neither callback of the client sends it later, so the broker knows what the
rules do in the runs whose transitions all happen while the client is connected.
-/

namespace AxisMetrics

open Lib (Bytes ascii Tells runFrom Always Throughout Retained)

variable {V T : Type} [AlertArith V T] {formatG : T → Bytes} {id id' : Bytes}

/-- The alerts, the MQTT client, and what the broker retains. -/
structure MqttWorld (T : Type) where
  api : MqttApi
  alerts : Alerts T
  sent : List (AlertOutput T)
  mqtt : Mqtt
  broker : Retained Bytes Bytes

inductive MqttEvent (V : Type) where
  /-- The turn of a rule in `alerts_evaluate`, with the clock and the sample buffer. -/
  | turn (ruleId : Bytes) (now : ℤ) (sample : ℕ → V)
  | connected
  | connectionLost
  /-- `mqtt_tick`, with the monotonic clock and the values. -/
  | tick (now : ℤ) (json : Bytes)

/-- The messages that mirror what the alerts sent. -/
def mirrored (formatG : T → Bytes) (mqtt : Mqtt) (sent : List (AlertOutput T)) :
    List MqttMessage :=
  sent.flatMap fun
    | .event _ _ => []
    | .notify rule firing => onAlertChanged formatG mqtt rule firing

/-- A publish reaches the broker while the client is connected. -/
def deliver (mqtt : Mqtt) (broker : Retained Bytes Bytes) (messages : List MqttMessage) :
    Retained Bytes Bytes :=
  if mqtt.connected then broker.receiveAll messages else broker

/-- One step; the broker publishes the will of a client it has lost. -/
def mqttStep (formatG : T → Bytes) (world : MqttWorld T) : MqttEvent V → MqttWorld T
  | .turn ruleId now sample =>
    let (alerts, sent) := evaluateTurn world.alerts now
      (fun i : Fin world.api.registry.count => sample i) ruleId
    { world with
      alerts := alerts
      sent := world.sent ++ sent
      broker := deliver world.mqtt world.broker (mirrored formatG world.mqtt sent) }
  | .connected =>
    let (mqtt, messages) := onConnected world.mqtt world.api
    { world with mqtt := mqtt, broker := deliver mqtt world.broker messages }
  | .connectionLost =>
    { world with
      mqtt := onConnectionLost world.mqtt
      broker := world.broker.receive world.mqtt.will }
  | .tick now json =>
    let (mqtt, messages) := mqttTick world.mqtt now json
    { world with mqtt := mqtt, broker := deliver mqtt world.broker messages }

/-- The start: new alerts and a client that has not connected yet. The broker may hold anything. -/
def mqttStart (V : Type) [AlertArith V T] (declare : Bytes → Bytes → ℕ) (api : MqttApi)
    (events : Bool) (file : List (SavedRule T)) (config : MqttConfig)
    (broker : Retained Bytes Bytes) : MqttWorld T where
  api := api
  alerts := rebuildAlerts V declare api.registry events file
  sent := []
  mqtt := ⟨config, true, false, false, 0⟩
  broker := broker

/-- The payload says that the rule is firing. -/
def SaysFiring (payload : Bytes) : Prop := ascii "\"state\":\"firing\"\x7d" <:+ payload

/-- The rule has fired at some time. -/
def HasFired (world : MqttWorld T) (rule : AlertRule T) : Prop :=
  true ∈ announcedFor rule.id world.sent

/-- While the client is connected, what the broker retains about a rule that has fired is true. -/
def RetainedTrue (world : MqttWorld T) : Prop :=
  world.mqtt.connected = true → ∀ rule ∈ world.alerts.rules, HasFired world rule →
    ∀ payload, world.broker (world.mqtt.alertTopic rule.id) = some payload →
      (SaysFiring payload ↔ rule.firing = true)

/-- The broker retains something about every rule that has fired. -/
def NoneLost (world : MqttWorld T) : Prop :=
  ∀ rule ∈ world.alerts.rules, HasFired world rule →
    world.broker (world.mqtt.alertTopic rule.id) ≠ none

/-- The client is connected if the event changes whether a rule is firing. -/
def TransitionOnline (world : MqttWorld T) : MqttEvent V → Prop
  | .turn ruleId now sample => ∀ rule ∈ world.alerts.rules, rule.id = ruleId →
      (evaluateRule world.alerts.events world.alerts.notify now
        (fun i : Fin world.api.registry.count => sample i) rule).1.firing ≠ rule.firing →
      world.mqtt.connected = true
  | _ => True

omit [AlertArith V T] in
theorem saysFiring_alertPayload (formatG : T → Bytes) (ruleId name metric : Bytes) (value : T)
    (firing : Bool) :
    SaysFiring (alertPayload formatG ruleId name metric value firing) ↔ firing = true := by
  have hend : ∃ front, alertPayload formatG ruleId name metric value firing =
      front ++ (ascii "\"state\":\"" ++
        (if firing then ascii "firing" else ascii "cleared") ++ ascii "\"\x7d") := by
    refine ⟨ascii "\x7b\"rule\":\"" ++ ruleId ++ ascii "\",\"name\":\"" ++ name ++
      ascii "\",\"metric\":\"" ++ metric ++ ascii "\",\"value\":" ++ formatG value ++ ascii ",", ?_⟩
    simp only [alertPayload, List.append_assoc]
    rfl
  obtain ⟨front, hfront⟩ := hend
  rw [hfront, SaysFiring]
  cases firing with
  | true => exact iff_of_true (List.suffix_append _ _) rfl
  | false =>
    refine iff_of_false (fun h => ?_) Bool.false_ne_true
    have hshort := List.suffix_of_suffix_length_le h (List.suffix_append front _) (by decide)
    exact absurd hshort (by decide)

omit [AlertArith V T] in
theorem alertPayload_ne_nil (formatG : T → Bytes) (ruleId name metric : Bytes) (value : T)
    (firing : Bool) : alertPayload formatG ruleId name metric value firing ≠ [] := by
  intro h
  have hend := List.append_eq_nil_iff.mp h
  exact absurd hend.2 (by decide)

omit [AlertArith V T] in
theorem mirrored_sendState (formatG : T → Bytes) (mqtt : Mqtt) (events : Bool)
    (rule : AlertRule T) : mirrored formatG mqtt (sendState events rule) = [] := by
  unfold sendState
  split <;> rfl

/-- What a turn publishes: a message of the rule if its state changes. -/
theorem mirrored_evaluateRule {registry : MetricRegistry} {mqtt : Mqtt}
    (hclient : mqtt.client = true) (events : Bool) (now : ℤ) (values : Fin registry.count → V)
    (rule : AlertRule T) :
    let after := (evaluateRule events true now values rule).1
    mirrored formatG mqtt (evaluateRule events true now values rule).2 =
      if after.firing = rule.firing ∨ mqtt.connected = false then []
      else [⟨mqtt.alertTopic rule.id, alertPayload formatG rule.id after.name after.metric
        after.lastValue after.firing, 1, true⟩] := by
  intro after
  rw [evaluateRule_outputs]
  by_cases hsame : after.firing = rule.firing
  · rw [if_pos hsame, if_pos (Or.inl hsame)]
    rfl
  · rw [if_neg hsame]
    change List.flatMap _ (_ ++ [AlertOutput.notify after after.firing]) = _
    rw [List.flatMap_append]
    change mirrored formatG mqtt (sendState events after) ++ _ = _
    rw [mirrored_sendState, List.nil_append, List.flatMap_singleton]
    have hid : after.id = rule.id := evaluateRule_id _ _ _ _ _
    cases hconnected : mqtt.connected with
    | false =>
      rw [if_pos (Or.inr rfl)]
      simp [onAlertChanged, mqttPublishAlert, hconnected]
    | true =>
      rw [if_neg (by simp [hsame])]
      simp [onAlertChanged, mqttPublishAlert, Mqtt.publish, hconnected, hclient, hid]

/-- The listener knows every rule, and the broker the last it was told. -/
structure Mirrors (world : MqttWorld T) : Prop where
  notify : world.alerts.notify = true
  client : world.mqtt.client = true
  tells : ∀ id, Tells (announcedFor id world.sent) (isFiring world.alerts id)
  retained : ∀ id : Bytes, id.length < ALERT_ID_MAX → announcedFor id world.sent ≠ [] →
    ∃ payload, world.broker (world.mqtt.alertTopic id) = some payload ∧
      (SaysFiring payload ↔ isFiring world.alerts id = true)

variable {world : MqttWorld T} {mqtt : Mqtt} {broker : Retained Bytes Bytes}

omit [AlertArith V T] in
/-- What the client does besides alerts. -/
theorem Mirrors.frame (h : Mirrors world)
    (hmqtt : mqtt.config = world.mqtt.config ∧ mqtt.client = world.mqtt.client)
    (hbroker : ∀ id : Bytes, id.length < ALERT_ID_MAX →
      broker (world.mqtt.alertTopic id) = world.broker (world.mqtt.alertTopic id)) :
    Mirrors { world with mqtt := mqtt, broker := broker } where
  notify := h.notify
  client := hmqtt.2.trans h.client
  tells := h.tells
  retained id hid hlog := by
    obtain ⟨payload, hpayload, hstate⟩ := h.retained id hid hlog
    refine ⟨payload, ?_, hstate⟩
    dsimp only
    rw [alertTopic_congr hmqtt.1, hbroker id hid]
    exact hpayload

omit [AlertArith V T] in
theorem deliver_of_notAlert {messages : List MqttMessage} (mqtt' : Mqtt)
    (h : ∀ message ∈ messages, NotAlert mqtt message) (hid : id.length < ALERT_ID_MAX) :
    deliver mqtt' broker messages (mqtt.alertTopic id) = broker (mqtt.alertTopic id) := by
  unfold deliver
  split
  · exact Lib.receiveAll_of_notMem fun message hmem => h message hmem id hid
  · rfl

/-- A turn leaves the other rules alone, in the table and at the broker. -/
theorem deliver_mirrored_of_ne (formatG : T → Bytes) {registry : MetricRegistry}
    {rule : AlertRule T} (hclient : mqtt.client = true) (events : Bool) (now : ℤ)
    (values : Fin registry.count → V) (hid : id.length < ALERT_ID_MAX) (hne : id ≠ rule.id) :
    deliver mqtt broker (mirrored formatG mqtt (evaluateRule events true now values rule).2)
      (mqtt.alertTopic id) = broker (mqtt.alertTopic id) := by
  unfold deliver
  split
  · rw [mirrored_evaluateRule hclient]
    refine Lib.receiveAll_of_notMem fun message hmem => ?_
    split at hmem
    · cases hmem
    · obtain rfl := List.mem_singleton.mp hmem
      exact fun heq => hne (alertTopic_injective hid rule.id_lt heq)
  · rfl

/-- A turn that changes the state of its rule while the client is connected. -/
theorem deliver_mirrored_self (formatG : T → Bytes) {registry : MetricRegistry}
    {rule : AlertRule T} (hclient : mqtt.client = true) (hconnected : mqtt.connected = true)
    (events : Bool) (now : ℤ) (values : Fin registry.count → V)
    (hchange : (evaluateRule events true now values rule).1.firing ≠ rule.firing) :
    ∃ payload, deliver mqtt broker
        (mirrored formatG mqtt (evaluateRule events true now values rule).2)
        (mqtt.alertTopic rule.id) = some payload ∧
      (SaysFiring payload ↔ (evaluateRule events true now values rule).1.firing = true) := by
  have hnews : ¬ ((evaluateRule events true now values rule).1.firing = rule.firing ∨
      mqtt.connected = false) := by simp [hchange, hconnected]
  rw [deliver, if_pos hconnected, mirrored_evaluateRule hclient, if_neg hnews]
  exact ⟨_, Lib.receive_self ⟨mqtt.alertTopic rule.id, _, 1, true⟩ rfl
    (alertPayload_ne_nil formatG _ _ _ _ _), saysFiring_alertPayload formatG _ _ _ _ _⟩

/-- A turn whose transition happens while the client is connected. -/
theorem Mirrors.turn (formatG : T → Bytes) (h : Mirrors world) {ruleId : Bytes} {now : ℤ}
    {sample : ℕ → V} (honline : TransitionOnline world (.turn ruleId now sample)) :
    Mirrors (mqttStep formatG world (.turn ruleId now sample)) where
  notify := h.notify
  client := h.client
  tells id := by
    dsimp only [mqttStep]
    rw [announcedFor_append, announcedFor_evaluateTurn h.notify]
    exact (h.tells id).update _
  retained id hid hlog := by
    dsimp only [mqttStep, TransitionOnline] at hlog honline ⊢
    set values := fun i : Fin world.api.registry.count => sample i
    have hafter := isFiring_evaluateTurn world.alerts now values ruleId id
    rw [announcedFor_append, announcedFor_evaluateTurn h.notify] at hlog
    cases hfind : findRule world.alerts ruleId with
    | none =>
      have hsame : isFiring (evaluateTurn world.alerts now values ruleId).1 id =
          isFiring world.alerts id := by
        rw [hafter, hfind]
        split
        · next heq => rw [heq, isFiring, hfind, Option.any_none, Option.any_none]
        · rfl
      have hnothing : (evaluateTurn world.alerts now values ruleId).2 = [] := by
        rw [evaluateTurn, hfind]
      rw [if_pos hsame, List.append_nil] at hlog
      rw [hsame, hnothing, show deliver world.mqtt world.broker (mirrored formatG world.mqtt []) =
        world.broker from ite_self _]
      exact h.retained id hid hlog
    | some rule =>
      obtain ⟨hmem, rfl⟩ := findRule_eq_some hfind
      have hsent : (evaluateTurn world.alerts now values rule.id).2 =
          (evaluateRule world.alerts.events true now values rule).2 := by
        rw [← h.notify, evaluateTurn, hfind]
      rw [hfind, h.notify, Option.any_some] at hafter
      rw [h.notify] at honline
      rw [hsent]
      by_cases heq : id = rule.id
      · subst heq
        rw [if_pos rfl] at hafter
        have hbefore : isFiring world.alerts rule.id = rule.firing := by
          rw [isFiring, hfind, Option.any_some]
        by_cases hsame : (evaluateRule world.alerts.events true now values rule).1.firing =
            rule.firing
        · rw [if_pos (hafter.trans (hsame.trans hbefore.symm)), List.append_nil] at hlog
          rw [hafter, hsame, ← hbefore, mirrored_evaluateRule h.client, if_pos (Or.inl hsame),
            show deliver world.mqtt world.broker [] = world.broker from ite_self _]
          exact h.retained rule.id hid hlog
        · rw [hafter]
          exact deliver_mirrored_self formatG h.client (honline rule hmem rfl hsame) _ _ _ hsame
      · rw [if_neg heq] at hafter
        rw [if_pos hafter, List.append_nil] at hlog
        rw [hafter, deliver_mirrored_of_ne formatG h.client _ _ _ hid heq]
        exact h.retained id hid hlog

/-- Every step keeps what the listener and the broker know, unless it changes a rule while the
client is not connected. -/
theorem Mirrors.step (formatG : T → Bytes) (h : Mirrors world) {event : MqttEvent V}
    (honline : TransitionOnline world event) : Mirrors (mqttStep formatG world event) := by
  cases event with
  | turn ruleId now sample => exact h.turn formatG honline
  | connected =>
    exact h.frame (onConnected_config _ _) fun id hid =>
      deliver_of_notAlert _ (fun message hmem => notAlert_onConnected hmem) hid
  | connectionLost =>
    exact h.frame ⟨rfl, rfl⟩ fun id hid => Lib.receive_of_ne (notAlert_will world.mqtt id hid)
  | tick now json =>
    exact h.frame (mqttTick_config _ _ _) fun id hid =>
      deliver_of_notAlert _ (fun message hmem => notAlert_mqttTick hmem) hid

omit [AlertArith V T] in
/-- What the invariant says about the rules that have fired. -/
theorem Mirrors.retainedTrue (h : Mirrors world) : RetainedTrue world ∧ NoneLost world := by
  have hrule : ∀ rule ∈ world.alerts.rules, HasFired world rule → ∃ payload,
      world.broker (world.mqtt.alertTopic rule.id) = some payload ∧
        (SaysFiring payload ↔ rule.firing = true) := by
    intro rule hmem hfired
    obtain ⟨payload, hpayload, hstate⟩ :=
      h.retained rule.id rule.id_lt (List.ne_nil_of_mem hfired)
    rw [isFiring, findRule_of_mem hmem] at hstate
    exact ⟨payload, hpayload, hstate⟩
  refine ⟨fun _ rule hmem hfired payload hpayload => ?_, fun rule hmem hfired => ?_⟩
  · obtain ⟨payload', hpayload', hstate⟩ := hrule rule hmem hfired
    rw [hpayload] at hpayload'
    rwa [← Option.some.inj hpayload'] at hstate
  · obtain ⟨payload, hpayload, -⟩ := hrule rule hmem hfired
    rw [hpayload]
    exact Option.some_ne_none payload

/-- In every run whose transitions all happen while the client is connected, the broker retains
the truth about every rule that has fired. -/
theorem retainedTrue_of_online (declare : Bytes → Bytes → ℕ) (api : MqttApi) (events : Bool)
    (file : List (SavedRule T)) (config : MqttConfig) (broker : Retained Bytes Bytes)
    (run : List (MqttEvent V))
    (honline : Throughout (fun world event => some (mqttStep formatG world event))
      (mqttStart V declare api events file config broker) run TransitionOnline) :
    Always (fun world event => some (mqttStep formatG world event))
      (mqttStart V declare api events file config broker) run
      fun world => RetainedTrue world ∧ NoneLost world := by
  have hstart : Mirrors (mqttStart V declare api events file config broker) :=
    { notify := rfl
      client := rfl
      tells := fun id => by
        have hoff := isFiring_rebuildAlerts (V := V) declare api.registry events file id
        exact hoff.symm ▸ Lib.tells_nil
      retained := fun _ _ hlog => absurd rfl hlog }
  have hrun := Lib.always_of_step hstart (fun world event world' h hallowed hstep =>
    Option.some.inj hstep ▸ h.step formatG hallowed) honline
  exact fun done world hdone hworld => (hrun done world hdone hworld).retainedTrue

/-- A device with a custom rule for a busy processor that fires at once. -/
abbrev busyStart : MqttWorld ℤ :=
  mqttStart (Option ℤ) (fun _ _ => 0)
    ⟨cpuRegistry, fun _ => true, ⟨ascii "P1468", ascii "ACCC8E000001", ascii "12.0", by decide⟩⟩
    false [⟨ascii "busy", some (ascii "Busy"), some (ascii "cpu.usage"), none, 90, 0, true, false⟩]
    ⟨true, ascii "axis", 30, false, false, length_axis_lt⟩ fun _ => none

/-- The conversion `%g` of small whole numbers. -/
def formatInt (n : ℤ) : Bytes := ascii (toString n)

/-- The rule fires while the client is connected, and the link flaps. -/
abbrev firingRun : List (MqttEvent (Option ℤ)) :=
  [.connected, .turn (ascii "busy") 1000 (fun _ => some 95), .connectionLost, .connected]

theorem retainedTrue_firingRun :
    Always (fun world event => some (mqttStep formatInt world event)) busyStart firingRun
      fun world => RetainedTrue world ∧ NoneLost world := by
  refine retainedTrue_of_online _ _ _ _ _ _ _ ?_
  refine Lib.throughout_cons.mpr ⟨trivial, fun world hworld => ?_⟩
  obtain rfl := Option.some.inj hworld
  refine Lib.throughout_cons.mpr ⟨fun _ _ _ _ => rfl, fun world _ => ?_⟩
  refine Lib.throughout_cons.mpr ⟨trivial, fun world _ => ?_⟩
  exact Lib.throughout_cons.mpr ⟨trivial, fun world _ => Lib.throughout_nil⟩

/-- The rule clears while the link is down. -/
abbrev flapRun : List (MqttEvent (Option ℤ)) :=
  [.connected, .turn (ascii "busy") 1000 (fun _ => some 95), .connectionLost,
    .turn (ascii "busy") 1001 (fun _ => some 5), .connected]

/-- After the reconnection the broker still says that it fires. -/
theorem not_retainedTrue_flapRun :
    ¬ Always (fun world event => some (mqttStep formatInt world event)) busyStart flapRun
      RetainedTrue := by
  intro h
  have hend : (runFrom (fun world event => some (mqttStep formatInt world event)) busyStart
      flapRun).map (fun world => ((world.mqtt.connected, isFiring world.alerts (ascii "busy"),
        (findRule world.alerts (ascii "busy")).isSome),
        (announcedFor (ascii "busy") world.sent,
          world.broker (world.mqtt.alertTopic (ascii "busy"))))) =
      some ((true, false, true), ([true, false], some (alertPayload formatInt (ascii "busy")
        (ascii "Busy") (ascii "cpu.usage") 95 true))) := by
    decide
  obtain ⟨world, hrun, hworld⟩ := Option.map_eq_some_iff.mp hend
  simp only [Prod.mk.injEq] at hworld
  obtain ⟨⟨hconnected, hoff, hfound⟩, hlog, hbroker⟩ := hworld
  obtain ⟨rule, hfind⟩ := Option.isSome_iff_exists.mp hfound
  obtain ⟨hmem, hid⟩ := findRule_eq_some hfind
  have hfired : HasFired world rule := by
    rw [HasFired, hid, hlog]
    exact List.mem_cons_self
  have hstate := h flapRun world List.prefix_rfl hrun hconnected rule hmem hfired _
    (hid.symm ▸ hbroker)
  rw [isFiring, hfind, Option.any_some] at hoff
  rw [hstate.mp ((saysFiring_alertPayload formatInt _ _ _ _ _).mpr rfl)] at hoff
  cases hoff

end AxisMetrics
