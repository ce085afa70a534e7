import AxisMetrics.Api.Answers
import AxisMetrics.Http.Viewer
import AxisMetrics.Mqtt.Discovery
import AxisMetrics.Mqtt.ObjectIds
import AxisMetrics.Page.RuleEditor

/-!
# The entities of Home Assistant

A subscriber makes an entity of each discovery config that the broker retains: where its state is
published, where it is said to be available, and which member of the state is its value. While the
connection and what is published about stay as they are, every wanted metric is an available entity,
and what it shows is the newest sample or one that is not older than the publish interval
(`entities_run`).
-/

namespace AxisMetrics

open Lib (Bytes ascii Json Always Throughout Retained jsonDocument)
open Page (member stringMember)

-- ════════════════════════════════════════════════════════════════════════
-- The subscriber
-- ════════════════════════════════════════════════════════════════════════

/-- A sensor as its config describes it. -/
structure Entity where
  name : Bytes
  uniqueId : Bytes
  stateTopic : Bytes
  availabilityTopic : Bytes
  /-- The member of the state that the template reads. -/
  key : Bytes

/-- What stands between two texts. -/
def between (before after text : Bytes) : Option Bytes :=
  if before <+: text ∧ after <:+ text ∧ before.length + after.length ≤ text.length then
    some ((text.drop before.length).take (text.length - before.length - after.length))
  else none

/-- The member that a template reads. -/
def templateKey (template : Bytes) : Option Bytes :=
  between (ascii "\x7b\x7b value_json[\x27") (ascii "\x27] \x7d\x7d") template

/-- The entity of a config. -/
def readEntity (payload : Bytes) : Option Entity := do
  let document ← jsonDocument payload
  let name ← stringMember document (ascii "name")
  let uniqueId ← stringMember document (ascii "unique_id")
  let stateTopic ← stringMember document (ascii "state_topic")
  let availabilityTopic ← stringMember document (ascii "availability_topic")
  let key ← (stringMember document (ascii "value_template")).bind templateKey
  return ⟨name, uniqueId, stateTopic, availabilityTopic, key⟩

variable (broker : Retained Bytes Bytes)

/-- The entity under a discovery topic, if there is one. -/
def entityAt (topic : Bytes) : Option Entity := (broker topic).bind readEntity

/-- The entity is available. -/
def Available (entity : Entity) : Prop := broker entity.availabilityTopic = some (ascii "online")

/-- What an entity shows; `none` where its state has no such member. -/
def entityState (entity : Entity) : Option (Option Json) :=
  ((broker entity.stateTopic).bind jsonDocument).map fun state => member state entity.key

-- ════════════════════════════════════════════════════════════════════════
-- The app and its broker
-- ════════════════════════════════════════════════════════════════════════

/-- The message of an effect. -/
def Effect.sent : Effect → Option MqttMessage
  | .message sent => some sent
  | _ => none

/-- The app while it is connected, what its broker retains, and the ticks since. -/
structure HomeView where
  app : App CFloat Float CDouble
  broker : Retained Bytes Bytes
  taken : List (Tick CFloat CDouble)

/-- The tick of an event. -/
def LoopEvent.ticks : LoopEvent CFloat CDouble → List (Tick CFloat CDouble)
  | .main (.tick tick) => [tick]
  | _ => []

def homeStep (home : HomeView) (event : LoopEvent CFloat CDouble) : Option HomeView :=
  (loopStep home.app event).map fun next =>
    ⟨next.1, home.broker.receiveAll (next.2.filterMap Effect.sent), home.taken ++ event.ticks⟩

/-- The event leaves the connection as it is, and what is published about. -/
def KeepsSession (home : HomeView) (event : LoopEvent CFloat CDouble) : Prop :=
  ∀ app effects, loopStep home.app event = some (app, effects) →
    app.mqtt.mqtt.connected = true ∧ app.mqtt.mqtt.config = home.app.mqtt.mqtt.config ∧
      app.api.mqttApi = home.app.api.mqttApi

/-- What a tick publishes. -/
def stateDocument (api : MqttApi) (tick : Tick CFloat CDouble) : Bytes :=
  valuesObject api.selectionEnabled
    (⟨tick.now, fun i => tick.values i⟩ : Row CFloat api.registry.count)

/-- The metric is an entity that is available and that shows a tick: the newest one, or one that is
not older than the publish interval. -/
def ShowsMetric (home : HomeView) (i : Fin home.app.api.registry.count) : Prop :=
  ∃ entity, entityAt home.broker
    (metricTopic home.app.api.mqttApi (home.app.api.registry.defs.get i)) =
      some entity ∧
    entity.name = (home.app.api.registry.defs.get i).label ∧ Available home.broker entity ∧
    ∀ newest, home.taken.getLast? = some newest → ∃ tick ∈ home.taken,
      (tick = newest ∨ newest.mqttNow - tick.mqttNow < home.app.mqtt.mqtt.config.intervalS) ∧
      entityState home.broker entity = some (if SampleArith.isnan (tick.values i) then none
        else some (readingValue (tick.values i)))

-- ════════════════════════════════════════════════════════════════════════
-- Reading a config
-- ════════════════════════════════════════════════════════════════════════

section Config

theorem between_append (before text after : Bytes) :
    between before after (before ++ text ++ after) = some text := by
  have hlength : (before ++ text ++ after).length - before.length - after.length = text.length := by
    simp only [List.length_append]
    omega
  rw [between, if_pos ⟨⟨text ++ after, by rw [List.append_assoc]⟩, List.suffix_append _ _, by simp⟩,
    hlength, List.append_assoc, List.drop_left, List.take_left]

theorem stringMember_cons_self (key value : Bytes) (more : List (Bytes × Json)) :
    stringMember (.object ((key, .string value) :: more)) key = some value := by
  rw [stringMember, member, List.find?_cons_of_pos (by simp)]
  rfl

theorem stringMember_cons_of_ne {key key' : Bytes} (h : key' ≠ key) (value : Json)
    (more : List (Bytes × Json)) :
    stringMember (.object ((key', value) :: more)) key = stringMember (.object more) key := by
  rw [stringMember, member, List.find?_cons_of_neg (by simpa using h)]
  rfl

variable {device : DeviceInfo} {stateTopic availabilityTopic : Bytes} {d : MetricDef}

/-- A discovery payload describes its metric. -/
theorem readEntity_discoveryPayload (h : PlainDevice device stateTopic availabilityTopic d)
    (hlabel : Lib.PlainText d.label) :
    readEntity (discoveryPayload device stateTopic availabilityTopic d) =
      some ⟨d.label, ascii "axis_" ++ objectId device d, stateTopic, availabilityTopic, d.id⟩ := by
  obtain ⟨more, hdocument⟩ : ∃ more,
      jsonDocument (discoveryPayload device stateTopic availabilityTopic d) = some (.object (
        (ascii "name", .string d.label) ::
        (ascii "unique_id", .string (ascii "axis_" ++ objectId device d)) ::
        (ascii "state_topic", .string stateTopic) ::
        (ascii "availability_topic", .string availabilityTopic) ::
        (ascii "value_template",
          .string (ascii "\x7b\x7b value_json[\x27" ++ d.id ++ ascii "\x27] \x7d\x7d")) :: more)) := by
    rw [discoveryPayload_eq, (sound_discoveryFields h hlabel).jsonDocument, Lib.JsonPart.read,
      if_pos (good_discoveryFields _ _ _ _)]
    exact ⟨_, rfl⟩
  rw [readEntity, hdocument]
  simp (disch := decide) only [Option.bind_eq_bind, Option.bind_some, stringMember_cons_self,
    stringMember_cons_of_ne, templateKey, between_append]
  rfl

end Config

-- ════════════════════════════════════════════════════════════════════════
-- Reading a state
-- ════════════════════════════════════════════════════════════════════════

section State

variable {api : MqttApi}

theorem stateDocument_ne_nil (api : MqttApi) (tick : Tick CFloat CDouble) :
    stateDocument api tick ≠ [] := by
  rw [stateDocument, valuesObject]
  simp [ascii]

/-- A state has the reading of each metric that is published and has one. -/
theorem member_stateDocument (hclean : ∀ i, CleanId (api.registry.id i))
    (hdistinct : api.registry.Distinct) {i : Fin api.registry.count}
    (hselected : api.selectionEnabled (api.registry.id i) = true) (tick : Tick CFloat CDouble) :
    (jsonDocument (stateDocument api tick)).map (fun state => member state (api.registry.id i)) =
      some (if SampleArith.isnan (tick.values i) then none
        else some (readingValue (tick.values i))) := by
  rw [stateDocument, text_valueFields hclean, (sound_valueFields hclean _ _).jsonDocument,
    Lib.JsonPart.read, if_pos (good_valueFields _ _), Option.map_some]
  congr 1
  simp only [Lib.JsonPart.object, member, valueFields, List.map_map, List.find?_map, Option.map_map]
  cases hfind : List.find? ((fun pair : Bytes × Json => decide (pair.1 = api.registry.id i)) ∘
      ((fun field : Bytes × Lib.JsonPart => (field.1, field.2.value)) ∘ fun j =>
        (api.registry.id j, readingPart (tick.values j))))
      ((List.finRange api.registry.count).filter fun j =>
        !SampleArith.isnan (tick.values j) && api.selectionEnabled (api.registry.id j)) with
  | none =>
    have hmissing := List.find?_eq_none.mp hfind i
    split
    · rfl
    · next hnan =>
      refine absurd (hmissing (List.mem_filter.mpr ⟨List.mem_finRange i, ?_⟩)) ?_
      · rw [Bool.eq_false_iff.mpr hnan, hselected]
        rfl
      · simp
  | some j =>
    have hj : j = i := hdistinct (by simpa using List.find?_some hfind)
    subst hj
    have hreading := (List.mem_filter.mp (List.mem_of_find?_eq_some hfind)).2
    have hnan : SampleArith.isnan (tick.values j) = false := by
      cases hcase : SampleArith.isnan (tick.values j) with
      | false => rfl
      | true =>
        rw [hcase] at hreading
        cases hreading
    rw [if_neg (Bool.eq_false_iff.mp hnan)]
    simp [value_readingPart]

end State

-- ════════════════════════════════════════════════════════════════════════
-- What the broker keeps
-- ════════════════════════════════════════════════════════════════════════

section Topics

variable {mqtt mqtt' : Mqtt} {api : MqttApi} {d d' : MetricDef}

/-- The state topic. -/
def Mqtt.stateTopic (mqtt : Mqtt) : Bytes := mqtt.topic 256 (ascii "state")

theorem topic_congr (h : mqtt'.config = mqtt.config) (size : ℕ) (leaf : Bytes) :
    mqtt'.topic size leaf = mqtt.topic size leaf := by
  rw [Mqtt.topic, Mqtt.topic, h]

theorem stateTopic_ne_statusTopic (mqtt : Mqtt) : mqtt.stateTopic ≠ mqtt.statusTopic := by
  intro h
  rw [Mqtt.stateTopic, topic_eq mqtt (by decide), statusTopic_eq] at h
  exact absurd (List.append_cancel_left h) (by decide)

theorem stateTopic_ne_metricTopic (mqtt : Mqtt) (api : MqttApi) (d : MetricDef) :
    mqtt.stateTopic ≠ metricTopic api d := by
  intro h
  have hstate : (ascii "state").getLast? = some 101 := by decide
  have hconfig : (ascii "config").getLast? = some 103 := by decide
  have hlast := congrArg List.getLast? h
  rw [Mqtt.stateTopic, topic_eq mqtt (by decide), metricTopic, configTopic_eq] at hlast
  simp [List.getLast?_append, List.getLast?_cons, hstate, hconfig] at hlast

/-- What is published about, as discovery finds it, in strings that need no marks. -/
structure Described (mqtt : Mqtt) (api : MqttApi) : Prop where
  machine : ∃ m : Machine, api.registry = m.registry
  formed : ∀ d ∈ api.registry.defs, IsFormed d.id
  plain : ∀ d ∈ api.registry.defs,
    PlainDevice api.device mqtt.stateTopic mqtt.statusTopic d ∧ Lib.PlainText d.label

namespace Described

theorem distinct (h : Described mqtt api) : api.registry.Distinct := by
  obtain ⟨m, hm⟩ := h.machine
  rw [hm]
  exact m.distinct_registry

theorem clean (h : Described mqtt api) (i : Fin api.registry.count) :
    CleanId (api.registry.id i) := by
  obtain ⟨m, hm⟩ := h.machine
  exact cleanId_of_discovered hm i

/-- No two metrics share a discovery topic. -/
theorem metricTopic_inj (h : Described mqtt api) (hd : d ∈ api.registry.defs)
    (hd' : d' ∈ api.registry.defs) (hsame : metricTopic api d = metricTopic api d') : d = d' := by
  rw [metricTopic, metricTopic, configTopic_objectId, configTopic_objectId] at hsame
  have hid := objectId_inj (h.formed d hd) (h.formed d' hd')
    (List.append_cancel_left (List.append_cancel_right hsame))
  obtain ⟨i, rfl⟩ := List.get_of_mem hd
  obtain ⟨j, rfl⟩ := List.get_of_mem hd'
  rw [h.distinct hid]

theorem congr (h : Described mqtt api) (hconfig : mqtt'.config = mqtt.config) :
    Described mqtt' api where
  machine := h.machine
  formed := h.formed
  plain d hd := by
    rw [Mqtt.stateTopic, Mqtt.statusTopic, topic_congr hconfig, topic_congr hconfig]
    exact h.plain d hd

end Described

variable {broker : Retained Bytes Bytes} {withdrawStale : Bool}

/-- What a subscriber makes of a metric. -/
def metricEntity (mqtt : Mqtt) (api : MqttApi) (d : MetricDef) : Entity :=
  ⟨d.label, ascii "axis_" ++ objectId api.device d, mqtt.stateTopic, mqtt.statusTopic, d.id⟩

/-- What the broker keeps for a metric. -/
def configPayload (mqtt : Mqtt) (api : MqttApi) (d : MetricDef) : Bytes :=
  discoveryPayload api.device mqtt.stateTopic mqtt.statusTopic d

theorem readEntity_configPayload (h : Described mqtt api) (hd : d ∈ api.registry.defs) :
    readEntity (configPayload mqtt api d) = some (metricEntity mqtt api d) := by
  obtain ⟨hplain, hlabel⟩ := h.plain d hd
  rw [configPayload, readEntity_discoveryPayload hplain hlabel, metricEntity]

theorem topic_of_mem_discoveryOf {message : MqttMessage}
    (h : message ∈ discoveryOf mqtt api withdrawStale d) : message.topic = metricTopic api d := by
  have hpublish : ∀ payload, message ∈ mqtt.publish (metricTopic api d) payload 0 true →
      message.topic = metricTopic api d := by
    intro payload hmem
    rw [Mqtt.publish] at hmem
    split at hmem
    · rw [List.mem_singleton.mp hmem]
    · cases hmem
  rw [discoveryOf] at h
  split_ifs at h
  · exact hpublish _ h
  · exact hpublish _ h
  · cases h

/-- The turns of the metrics leave each wanted one with its config. -/
theorem receiveAll_wanted (h : Described mqtt api) (hclient : mqtt.client = true)
    (hd : d ∈ api.registry.defs) (hwanted : IsWanted mqtt api d) {defs : List MetricDef}
    (hdefs : ∀ d' ∈ defs, d' ∈ api.registry.defs) (hmem : d ∈ defs) :
    broker.receiveAll (defs.flatMap (discoveryOf mqtt api withdrawStale)) (metricTopic api d) =
      some (configPayload mqtt api d) := by
  induction defs generalizing broker with
  | nil => cases hmem
  | cons head defs ih =>
    rw [List.forall_mem_cons] at hdefs
    rw [List.flatMap_cons, Lib.receiveAll_append]
    by_cases hlater : d ∈ defs
    · exact ih hdefs.2 hlater
    · obtain rfl := (List.mem_cons.mp hmem).resolve_right hlater
      rw [Lib.receiveAll_of_notMem fun message hmessage htopic => ?_]
      · have hturn : discoveryOf mqtt api withdrawStale d =
            [⟨metricTopic api d, configPayload mqtt api d, 0, true⟩] := by
          rw [discoveryOf]
          exact (if_pos hwanted).trans (if_pos hclient)
        rw [hturn]
        exact Lib.receive_self ⟨metricTopic api d, _, 0, true⟩ rfl (discoveryPayload_ne_nil _ _ _ _)
      · obtain ⟨d', hd', hturn⟩ := List.mem_flatMap.mp hmessage
        have hsame := htopic.trans (topic_of_mem_discoveryOf hturn)
        rw [h.metricTopic_inj hd (hdefs.2 d' hd') hsame] at hlater
        exact hlater hd'

end Topics

-- ════════════════════════════════════════════════════════════════════════
-- Runs
-- ════════════════════════════════════════════════════════════════════════

/-- The broker knows every wanted metric, that the app is there, and a tick that is recent enough. -/
structure Informed (mqtt : Mqtt) (api : MqttApi) (broker : Retained Bytes Bytes)
    (taken : List (Tick CFloat CDouble)) : Prop where
  client : mqtt.client = true
  connected : mqtt.connected = true
  enabled : mqtt.config.enabled = true
  discovery : mqtt.config.discovery = true
  configs : ∀ d ∈ api.registry.defs, IsWanted mqtt api d →
    broker (metricTopic api d) = some (configPayload mqtt api d)
  online : broker mqtt.statusTopic = some (ascii "online")
  unpublished : taken = [] → mqtt.lastPublish = 0
  recent : ∀ newest, taken.getLast? = some newest → ∃ tick ∈ taken,
    (tick = newest ∨ newest.mqttNow - tick.mqttNow < mqtt.config.intervalS) ∧
    broker mqtt.stateTopic = some (stateDocument api tick) ∧
    (mqtt.lastPublish ≠ 0 → mqtt.lastPublish = tick.mqttNow)

section Informed

variable {mqtt mqtt' : Mqtt} {api : MqttApi} {broker broker' : Retained Bytes Bytes}
  {taken : List (Tick CFloat CDouble)}

/-- Messages on other topics change nothing of it. -/
theorem Informed.frame (h : Informed mqtt api broker taken)
    (hconfigs : ∀ d, broker' (metricTopic api d) = broker (metricTopic api d))
    (hstatus : broker' mqtt.statusTopic = broker mqtt.statusTopic)
    (hstate : broker' mqtt.stateTopic = broker mqtt.stateTopic) :
    Informed mqtt api broker' taken where
  client := h.client
  connected := h.connected
  enabled := h.enabled
  discovery := h.discovery
  configs d hd hwanted := (hconfigs d).trans (h.configs d hd hwanted)
  online := hstatus.trans h.online
  unpublished := h.unpublished
  recent newest hnewest := by
    obtain ⟨tick, htick, hfresh, hdocument, hlast⟩ := h.recent newest hnewest
    exact ⟨tick, htick, hfresh, hstate.trans hdocument, hlast⟩

/-- What the alerts publish is on topics of their own. -/
theorem topic_of_mem_mirrored {T : Type} {formatG : T → Bytes} {sent : List (AlertOutput T)}
    {message : MqttMessage} (h : message ∈ mirrored formatG mqtt sent) :
    ∃ rule : AlertRule T, message.topic = mqtt.alertTopic rule.id := by
  obtain ⟨output, -, hmessage⟩ := List.mem_flatMap.mp h
  cases output with
  | event _ _ => cases hmessage
  | notify rule firing =>
    refine ⟨rule, ?_⟩
    replace hmessage : message ∈ onAlertChanged formatG mqtt rule firing := hmessage
    rw [onAlertChanged, mqttPublishAlert, Mqtt.publish] at hmessage
    split_ifs at hmessage
    · rw [List.mem_singleton.mp hmessage]
    · cases hmessage
    · cases hmessage

theorem Informed.alerts {T : Type} {formatG : T → Bytes} (h : Informed mqtt api broker taken)
    (sent : List (AlertOutput T)) :
    Informed mqtt api (broker.receiveAll (mirrored formatG mqtt sent)) taken := by
  have hother : ∀ topic, (∀ rule : AlertRule T, mqtt.alertTopic rule.id ≠ topic) →
      broker.receiveAll (mirrored formatG mqtt sent) topic = broker topic := by
    intro topic htopic
    refine Lib.receiveAll_of_notMem fun message hmessage heq => ?_
    obtain ⟨rule, hrule⟩ := topic_of_mem_mirrored hmessage
    exact htopic rule (hrule.symm.trans heq.symm)
  exact h.frame (fun d => hother _ fun rule => alertTopic_ne_configTopic rule.id_lt api.device d)
    (hother _ fun rule => alertTopic_ne_topic rule.id_lt (by decide) (by decide))
    (hother _ fun rule => alertTopic_ne_topic rule.id_lt (by decide) (by decide))

/-- A tick publishes the sample, or one before it is recent enough. -/
theorem Informed.tick (h : Informed mqtt api broker taken) (tick : Tick CFloat CDouble) :
    Informed (mqttTick mqtt tick.mqttNow (stateDocument api tick)).1 api
      (broker.receiveAll (mqttTick mqtt tick.mqttNow (stateDocument api tick)).2)
      (taken ++ [tick]) := by
  have hon : ¬ (mqtt.connected = false ∨ mqtt.config.enabled = false) := by
    rw [h.connected, h.enabled]
    simp
  have hnewest : ∀ newest, (taken ++ [tick]).getLast? = some newest → tick = newest := by
    intro newest hnewest
    rw [List.getLast?_concat] at hnewest
    exact Option.some.inj hnewest
  have hnonempty : taken ++ [tick] = [] → mqtt.lastPublish = 0 := fun hnil => by simp at hnil
  rw [mqttTick, if_neg hon]
  split
  · next hearly =>
    -- not due: the tick of the last publish is still recent
    refine { h with
      unpublished := hnonempty
      recent := fun newest hlast => ?_ }
    obtain rfl := hnewest newest hlast
    cases htaken : taken.getLast? with
    | none => exact absurd (h.unpublished (List.getLast?_eq_none_iff.mp htaken)) hearly.1
    | some before =>
      obtain ⟨shown, hshown, -, hdocument, hpublished⟩ := h.recent before htaken
      have hclock := hpublished hearly.1
      exact ⟨shown, List.mem_append_left _ hshown, Or.inr (hclock ▸ hearly.2), hdocument, hpublished⟩
  · have hpublish : ({ mqtt with lastPublish := tick.mqttNow } : Mqtt).publish mqtt.stateTopic
        (stateDocument api tick) 0 true = [⟨mqtt.stateTopic, stateDocument api tick, 0, true⟩] :=
      if_pos h.client
    have hother : ∀ topic, topic ≠ mqtt.stateTopic → broker.receiveAll
        [⟨mqtt.stateTopic, stateDocument api tick, 0, true⟩] topic = broker topic := by
      intro topic htopic
      refine Lib.receiveAll_of_notMem fun message hmessage => ?_
      rw [List.mem_singleton.mp hmessage]
      exact htopic
    have hstate : broker.receiveAll [⟨mqtt.stateTopic, stateDocument api tick, 0, true⟩]
        mqtt.stateTopic = some (stateDocument api tick) :=
      Lib.receive_self ⟨mqtt.stateTopic, stateDocument api tick, 0, true⟩ rfl
        (stateDocument_ne_nil api tick)
    change Informed { mqtt with lastPublish := tick.mqttNow } api (broker.receiveAll
      (({ mqtt with lastPublish := tick.mqttNow } : Mqtt).publish mqtt.stateTopic
        (stateDocument api tick) 0 true)) _
    rw [hpublish]
    exact {
      client := h.client
      connected := h.connected
      enabled := h.enabled
      discovery := h.discovery
      configs := fun d hd hwanted =>
        (hother _ (stateTopic_ne_metricTopic mqtt api d).symm).trans (h.configs d hd hwanted)
      online := (hother _ (stateTopic_ne_statusTopic mqtt).symm).trans h.online
      unpublished := fun hnil => by simp at hnil
      recent := fun newest hlast => ⟨tick, List.mem_append_right _ List.mem_cons_self,
        Or.inl (hnewest newest hlast), hstate, fun _ => rfl⟩ }

/-- A connection that is made tells the broker about every wanted metric. -/
theorem receiveAll_onConnected (broker : Retained Bytes Bytes) (hclient : mqtt.client = true)
    (hdiscovery : mqtt.config.discovery = true) (hdescribed : Described mqtt api) :
    (∀ d ∈ api.registry.defs, IsWanted mqtt api d →
      broker.receiveAll (onConnected mqtt api).2 (metricTopic api d) =
        some (configPayload mqtt api d)) ∧
    broker.receiveAll (onConnected mqtt api).2 mqtt.statusTopic = some (ascii "online") ∧
    broker.receiveAll (onConnected mqtt api).2 mqtt.stateTopic = broker mqtt.stateTopic := by
  have hsent : (onConnected mqtt api).2 = ⟨mqtt.statusTopic, ascii "online", 1, true⟩ ::
      api.registry.defs.flatMap
        (discoveryOf { mqtt with connected := true } api (!mqtt.discoverySent)) := by
    rw [onConnected]
    dsimp only
    rw [if_pos hdiscovery]
    change (if mqtt.client then _ else _) ++ _ = _
    rw [if_pos hclient]
    rfl
  have hmetrics : ∀ topic, (∀ d, topic ≠ metricTopic api d) → ∀ broker : Retained Bytes Bytes,
      broker.receiveAll (api.registry.defs.flatMap
        (discoveryOf { mqtt with connected := true } api (!mqtt.discoverySent))) topic =
          broker topic := by
    intro topic htopic broker
    refine Lib.receiveAll_of_notMem fun message hmessage heq => ?_
    obtain ⟨d, -, hturn⟩ := List.mem_flatMap.mp hmessage
    exact htopic d (heq.trans (topic_of_mem_discoveryOf hturn))
  have hconnected : Described { mqtt with connected := true } api := hdescribed.congr rfl
  rw [hsent]
  refine ⟨fun d hd hwanted => ?_, ?_, ?_⟩
  · exact receiveAll_wanted hconnected hclient hd hwanted (fun _ h => h) hd
  · refine (hmetrics _ (fun d => statusTopic_ne_configTopic mqtt api.device d) _).trans ?_
    exact Lib.receive_self ⟨mqtt.statusTopic, ascii "online", 1, true⟩ rfl
      (show ascii "online" ≠ [] by decide)
  · refine (hmetrics _ (fun d => stateTopic_ne_metricTopic mqtt api d) _).trans ?_
    exact Lib.receive_of_ne (stateTopic_ne_statusTopic mqtt)

end Informed

/-- What holds of the app and its broker. -/
structure HomeView.Live (home : HomeView) : Prop where
  informed : Informed home.app.mqtt.mqtt home.app.api.mqttApi home.broker home.taken
  described : Described home.app.mqtt.mqtt home.app.api.mqttApi

/-- A reconnect keeps what the broker has. -/
theorem Informed.reconnected {mqtt : Mqtt} {api : MqttApi} {broker : Retained Bytes Bytes}
    {taken : List (Tick CFloat CDouble)} (h : Informed mqtt api broker taken)
    (hdescribed : Described mqtt api) :
    Informed (onConnected mqtt api).1 api (broker.receiveAll (onConnected mqtt api).2) taken := by
  obtain ⟨hconfigs, honline, hstate⟩ := receiveAll_onConnected broker h.client h.discovery
    hdescribed
  have hmqtt : (onConnected mqtt api).1 =
      { mqtt with connected := true, discoverySent := true, lastPublish := 0 } := by
    rw [onConnected]
    dsimp only
    rw [if_pos h.discovery]
    rfl
  rw [hmqtt]
  exact {
    client := h.client
    connected := rfl
    enabled := h.enabled
    discovery := h.discovery
    configs := hconfigs
    online := honline
    unpublished := fun _ => rfl
    recent := fun newest hnewest => by
      obtain ⟨tick, htick, hfresh, hdocument, -⟩ := h.recent newest hnewest
      exact ⟨tick, htick, hfresh, hstate.trans hdocument, fun hzero => absurd rfl hzero⟩ }

/-- Settings that keep the connection are saved without a message. -/
theorem mqttApply_keeps {client : MqttClient} {api : MqttApi} {config : MqttConfig}
    {endpoint : Endpoint} {created : Bool} (hclient : client.mqtt.client = true)
    (hconnected : (mqttApply client api config endpoint created).1.mqtt.connected = true)
    (hconfig : (mqttApply client api config endpoint created).1.mqtt.config = client.mqtt.config) :
    (mqttApply client api config endpoint created).1.mqtt = client.mqtt ∧
      (mqttApply client api config endpoint created).2 = [] := by
  obtain ⟨hagain, hresult⟩ | ⟨-, hresult, -⟩ :=
    mqttApply_connected client api config endpoint created (fun _ => hclient) hconnected
  · rw [hresult] at hconfig
    have hsame : config = client.mqtt.config := hconfig
    subst hsame
    exact absurd rfl (hagain.2.2.2.resolve_right fun hall => hall rfl)
  · rw [hresult] at hconfig ⊢
    have hsame : config = client.mqtt.config := hconfig
    subst hsame
    exact ⟨rfl, rfl⟩

namespace HomeView.Live

variable {home : HomeView} {app : App CFloat Float CDouble}

/-- A step that publishes nothing. -/
theorem quiet (h : home.Live) (hapi : app.api.mqttApi = home.app.api.mqttApi)
    (hmqtt : app.mqtt.mqtt = home.app.mqtt.mqtt) {messages : List MqttMessage}
    (hmessages : messages = []) :
    HomeView.Live ⟨app, home.broker.receiveAll messages, home.taken ++ []⟩ := by
  subst hmessages
  rw [List.append_nil]
  constructor
  · dsimp only
    rw [hmqtt, hapi]
    exact h.informed
  · dsimp only
    rw [hmqtt, hapi]
    exact h.described

theorem tick (h : home.Live) (tick : Tick CFloat CDouble) :
    HomeView.Live ⟨(onSampleTick home.app tick).1,
      home.broker.receiveAll (onSampleTick home.app tick).2.messages, home.taken ++ [tick]⟩ := by
  constructor
  · change Informed (mqttTick home.app.mqtt.mqtt tick.mqttNow
      (stateDocument home.app.api.mqttApi tick)).1 home.app.api.mqttApi (home.broker.receiveAll
        (mirrored _ home.app.mqtt.mqtt _ ++ (mqttTick home.app.mqtt.mqtt tick.mqttNow
          (stateDocument home.app.api.mqttApi tick)).2)) (home.taken ++ [tick])
    rw [Lib.receiveAll_append]
    exact (h.informed.alerts _).tick tick
  · exact h.described.congr (mqttTick_config _ _ _).1

end HomeView.Live

/-- The messages of a step are its effects, but for the payload. -/
theorem sent_effects (published : Published) :
    published.effects.filterMap Effect.sent = published.messages := by
  rw [Published.effects, List.filterMap_append, List.filterMap_map, List.filterMap_map]
  have hpayload : Effect.sent ∘ Effect.payload = fun _ => none := rfl
  have hmessage : Effect.sent ∘ Effect.message = some := rfl
  rw [hpayload, hmessage, List.filterMap_some]
  simp

theorem sent_handled (handled : Handled CFloat Float CDouble) (readOnly : Bool) :
    (handled.effects readOnly).filterMap Effect.sent = handled.messages := by
  have hmessage : Effect.sent ∘ Effect.message = some := rfl
  rw [Handled.effects, List.filterMap_cons_none rfl, List.filterMap_map, hmessage,
    List.filterMap_some]

/-- A request publishes nothing, unless it changes the settings. -/
theorem HomeView.Live.request {home : HomeView} (h : home.Live) {env : RequestEnv} {body : Bytes}
    {readOnly : Bool} {handle : App CFloat Float CDouble → Option (Handled CFloat Float CDouble)}
    (hhandles : Handles env body readOnly handle) {handled : Handled CFloat Float CDouble}
    (hhandle : handle home.app = some handled)
    (hkeeps : handled.app.mqtt.mqtt.connected = true ∧
      handled.app.mqtt.mqtt.config = home.app.mqtt.mqtt.config ∧
        handled.app.api.mqttApi = home.app.api.mqttApi) :
    HomeView.Live ⟨handled.app, home.broker.receiveAll handled.messages, home.taken ++ []⟩ := by
  obtain ⟨hconnected, hconfig, hapi⟩ := hkeeps
  cases hhandles with
  | document render =>
    obtain rfl := Option.some.inj hhandle
    exact h.quiet hapi rfl rfl
  | stream =>
    obtain rfl := Option.some.inj hhandle
    exact h.quiet hapi rfl rfl
  | settings =>
    obtain rfl := Option.some.inj hhandle
    exact h.quiet hapi rfl rfl
  | postSettings =>
    obtain rfl := Option.some.inj hhandle
    revert hconnected hconfig hapi
    simp only [App.postSettings]
    split
    · intro hconnected hconfig hapi
      obtain ⟨hsame, hnone⟩ := mqttApply_keeps h.informed.client hconnected hconfig
      exact h.quiet hapi hsame hnone
    · intro _ _ hapi
      exact h.quiet hapi rfl rfl
  | postRules =>
    obtain ⟨result, -, rfl⟩ := Option.map_eq_some_iff.mp hhandle
    exact h.quiet hapi rfl rfl
  | postMetrics =>
    obtain rfl := Option.some.inj hhandle
    revert hapi
    simp only [App.postMetrics]
    split
    · exact fun hapi => h.quiet hapi rfl rfl
    · exact fun hapi => h.quiet hapi rfl rfl

/-- One event that keeps the session. -/
theorem live_homeStep {home home' : HomeView} (h : home.Live) {event : LoopEvent CFloat CDouble}
    (hkeeps : KeepsSession home event) (hstep : homeStep home event = some home') : home'.Live := by
  obtain ⟨⟨app, effects⟩, hloop, rfl⟩ := Option.map_eq_some_iff.mp hstep
  have hsame := hkeeps app effects hloop
  cases event with
  | connection env segments readOnly =>
    obtain ⟨handled, hhandled, hpair⟩ := Option.map_eq_some_iff.mp hloop
    obtain ⟨rfl, rfl⟩ := Prod.mk.inj hpair
    dsimp only
    rw [sent_handled]
    exact h.request (onHttpRequest_cases env segments readOnly) hhandled hsame
  | main event =>
    cases event with
    | tick tick =>
      obtain ⟨rfl, rfl⟩ := Prod.mk.inj (Option.some.inj hloop)
      dsimp only
      rw [sent_effects]
      exact h.tick tick
    | request env request readOnly =>
      obtain ⟨handled, hhandled, hpair⟩ := Option.map_eq_some_iff.mp hloop
      obtain ⟨rfl, rfl⟩ := Prod.mk.inj hpair
      dsimp only
      rw [sent_handled]
      exact h.request (handles_handleRequest env request readOnly) hhandled hsame
    | connected =>
      obtain ⟨⟨next, published⟩, hnext, hpair⟩ := Option.map_eq_some_iff.mp hloop
      obtain ⟨rfl, rfl⟩ := Prod.mk.inj hpair
      obtain ⟨-, rfl, rfl⟩ := appStep_connected hnext
      dsimp only
      rw [sent_effects]
      dsimp only [LoopEvent.ticks]
      rw [List.append_nil]
      exact ⟨h.informed.reconnected h.described, h.described.congr (onConnected_config _ _).1⟩
    | connectionLost =>
      obtain ⟨⟨next, published⟩, hnext, hpair⟩ := Option.map_eq_some_iff.mp hloop
      obtain ⟨rfl, rfl⟩ := Prod.mk.inj hpair
      obtain ⟨-, rfl, rfl⟩ := appStep_connectionLost hnext
      exact absurd hsame.1 Bool.false_ne_true
    | parameterChanged created name value =>
      obtain ⟨rfl, rfl⟩ := Prod.mk.inj (Option.some.inj hloop)
      obtain ⟨hconnected, hconfig, hapi⟩ := hsame
      dsimp only
      rw [sent_effects]
      revert hconnected hconfig hapi
      dsimp only [onParameterChanged]
      split
      · exact fun _ _ hapi => h.quiet hapi rfl rfl
      · split
        · exact fun _ _ hapi => h.quiet hapi rfl rfl
        · intro hconnected hconfig hapi
          obtain ⟨hkept, hnone⟩ := mqttApply_keeps h.informed.client hconnected hconfig
          exact h.quiet hapi hkept hnone
    | rebuild registry events declare file memory persistPath history =>
      obtain ⟨rfl, rfl⟩ := Prod.mk.inj (Option.some.inj hloop)
      dsimp only
      rw [sent_effects]
      exact h.quiet hsame.2.2 rfl rfl
    | persistRetry persistPath history =>
      obtain ⟨rfl, rfl⟩ := Prod.mk.inj (Option.some.inj hloop)
      dsimp only
      rw [sent_effects]
      obtain ⟨store, path, heq⟩ := retryPersistence_eq home.app persistPath history
      rw [heq] at hsame ⊢
      exact h.quiet hsame.2.2 rfl rfl
    | influxState outcome =>
      obtain ⟨rfl, rfl⟩ := Prod.mk.inj (Option.some.inj hloop)
      dsimp only
      rw [sent_effects]
      exact h.quiet hsame.2.2 rfl rfl

/-- What the broker knows is what a subscriber shows. -/
theorem HomeView.Live.showsMetric {home : HomeView} (h : home.Live)
    (i : Fin home.app.api.registry.count)
    (hwanted : IsWanted home.app.mqtt.mqtt home.app.api.mqttApi (home.app.api.registry.defs.get i)) :
    ShowsMetric home i := by
  have hd := List.get_mem home.app.api.registry.defs i
  have hconfig := h.informed.configs _ hd hwanted
  have hentity : entityAt home.broker
      (metricTopic home.app.api.mqttApi (home.app.api.registry.defs.get i)) =
        some (metricEntity home.app.mqtt.mqtt home.app.api.mqttApi
          (home.app.api.registry.defs.get i)) := by
    rw [entityAt, hconfig, Option.bind_some, readEntity_configPayload h.described hd]
  refine ⟨metricEntity home.app.mqtt.mqtt home.app.api.mqttApi (home.app.api.registry.defs.get i),
    hentity, rfl, h.informed.online, fun newest hnewest => ?_⟩
  obtain ⟨tick, htick, hfresh, hdocument, -⟩ := h.informed.recent newest hnewest
  refine ⟨tick, htick, hfresh, ?_⟩
  rw [entityState, metricEntity, hdocument]
  exact member_stateDocument h.described.clean h.described.distinct hwanted.1 tick

/-- The view of a client that has just connected. -/
theorem live_connected {app connected : App CFloat Float CDouble} {published : Published}
    (hconnect : appStep app .connected = some (connected, published))
    (henabled : app.mqtt.mqtt.config.enabled = true)
    (hdiscovery : app.mqtt.mqtt.config.discovery = true)
    (hdescribed : Described app.mqtt.mqtt app.api.mqttApi) (retained : Retained Bytes Bytes) :
    HomeView.Live ⟨connected, retained.receiveAll published.messages, []⟩ := by
  obtain ⟨hclient, rfl, rfl⟩ := appStep_connected hconnect
  obtain ⟨hconfigs, honline, -⟩ := receiveAll_onConnected retained hclient hdiscovery hdescribed
  have hmqtt : (onConnected app.mqtt.mqtt app.api.mqttApi).1 = { app.mqtt.mqtt with
      connected := true, discoverySent := true, lastPublish := 0 } := by
    rw [onConnected]
    dsimp only
    rw [if_pos hdiscovery]
    rfl
  refine ⟨?_, hdescribed.congr (onConnected_config _ _).1⟩
  dsimp only
  rw [hmqtt]
  exact {
    client := hclient
    connected := rfl
    enabled := henabled
    discovery := hdiscovery
    configs := hconfigs
    online := honline
    unpublished := fun _ => rfl
    recent := fun newest hnewest => by cases hnewest }

/-- From the moment the client is connected, and as long as the settings, the choice of the metrics
and the metrics stay. -/
theorem entities_run {app connected : App CFloat Float CDouble} {published : Published}
    (hconnect : appStep app .connected = some (connected, published))
    (henabled : app.mqtt.mqtt.config.enabled = true)
    (hdiscovery : app.mqtt.mqtt.config.discovery = true)
    (hdescribed : Described app.mqtt.mqtt app.api.mqttApi) (retained : Retained Bytes Bytes)
    {events : List (LoopEvent CFloat CDouble)}
    (hkeeps : Throughout homeStep ⟨connected, retained.receiveAll published.messages, []⟩ events
      KeepsSession) :
    Always homeStep ⟨connected, retained.receiveAll published.messages, []⟩ events fun home =>
      ∀ i, IsWanted home.app.mqtt.mqtt home.app.api.mqttApi (home.app.api.registry.defs.get i) →
        ShowsMetric home i := by
  have hstart := live_connected hconnect henabled hdiscovery hdescribed retained
  have hlive := Lib.always_of_step hstart (fun _ _ _ h hkeeps hstep => live_homeStep h hkeeps hstep)
    hkeeps
  exact fun done home hdone hreach i hwanted => (hlive done home hdone hreach).showsMetric i hwanted

/-- A device on which nothing can be read, on its way to a broker. -/
def announcedApp : App CFloat Float CDouble where
  parameters := fun _ => none
  sampler := ⟨1, true⟩
  api := mutedApi
  alerts := ⟨[], false, false, Nat.zero_le _, List.nodup_nil⟩
  procs := ⟨[], 1⟩
  mqtt := { mqttNew with mqtt :=
    ⟨⟨true, ascii "axis", 30, true, true, length_axis_lt⟩, true, false, false, 0⟩ }
  influx := ⟨⟨false, .v2, [], [], [], [], [], [], [], 30⟩, [], false, 0, ascii "disabled"⟩
  sseClients := []

/-- The broker has heard of its metrics. -/
def announcedHome : HomeView where
  app := { announcedApp with mqtt := { announcedApp.mqtt with
    mqtt := (onConnected announcedApp.mqtt.mqtt announcedApp.api.mqttApi).1 } }
  broker := Retained.receiveAll (fun _ => none)
    (onConnected announcedApp.mqtt.mqtt announcedApp.api.mqttApi).2
  taken := []

/-- Two ticks, of which the first is published. -/
def announcedRun : List (LoopEvent CFloat CDouble) :=
  [.main (.tick ⟨1000, 5, 5, 5, fun _ => ⟨0x3fc00000⟩, fun _ => .failed, ⟨[], 1⟩⟩),
    .main (.tick ⟨1001, 6, 6, 6, fun _ => CFloat.nan, fun _ => .failed, ⟨[], 1⟩⟩)]

theorem keepsSession_tick {home : HomeView} (h : home.app.mqtt.mqtt.connected = true)
    (tick : Tick CFloat CDouble) : KeepsSession home (.main (.tick tick)) := by
  intro app effects hloop
  obtain ⟨rfl, -⟩ := Prod.mk.inj (Option.some.inj hloop)
  refine ⟨?_, (mqttTick_config _ _ _).1, rfl⟩
  dsimp only [onSampleTick]
  unfold mqttTick
  dsimp only
  split
  · exact h
  · split
    · exact h
    · exact h

theorem registry_announcedApp : announcedApp.api.mqttApi.registry = mutedMachine.registry := by
  rw [announcedApp, Api.mqttApi, mutedApi]

theorem described_announcedApp : Described announcedApp.mqtt.mqtt announcedApp.api.mqttApi := by
  have hformed : ∀ d ∈ mutedMachine.registry.defs, ∃ f ∈ fixedMetrics, ascii f.strings.1 = d.id := by
    decide +kernel
  have hstrings : ∀ d ∈ mutedMachine.registry.defs,
      Lib.PlainText d.id ∧ Lib.PlainText d.unit ∧ Lib.PlainText d.label := by decide +kernel
  have hdevice : Lib.PlainText announcedApp.api.mqttApi.device.serial ∧
      Lib.PlainText announcedApp.api.mqttApi.device.model ∧
      Lib.PlainText announcedApp.api.mqttApi.device.firmware := by decide +kernel
  have htopics : Lib.PlainText announcedApp.mqtt.mqtt.stateTopic ∧
      Lib.PlainText announcedApp.mqtt.mqtt.statusTopic := by decide +kernel
  refine ⟨⟨mutedMachine, registry_announcedApp⟩, fun d hd => ?_, fun d hd => ?_⟩
  · rw [registry_announcedApp] at hd
    obtain ⟨f, -, hf⟩ := hformed d hd
    rw [← hf]
    exact ⟨_, .fixed f⟩
  · rw [registry_announcedApp] at hd
    obtain ⟨hid, hunit, hlabel⟩ := hstrings d hd
    exact ⟨⟨hdevice.1, hdevice.2.1, hdevice.2.2, htopics.1, htopics.2, hid, hunit⟩, hlabel⟩

theorem entities_announcedRun : Always homeStep announcedHome announcedRun fun home =>
    ∀ i, IsWanted home.app.mqtt.mqtt home.app.api.mqttApi (home.app.api.registry.defs.get i) →
      ShowsMetric home i := by
  have hconnect : appStep announcedApp .connected = some (announcedHome.app,
      ⟨(onConnected announcedApp.mqtt.mqtt announcedApp.api.mqttApi).2, none⟩) := by
    have hclient : announcedApp.mqtt.mqtt.client = true := rfl
    simp only [appStep, hclient, if_true, announcedHome]
  unfold announcedHome
  refine entities_run hconnect rfl rfl described_announcedApp (fun _ => none) ?_
  refine Lib.throughout_cons.mpr ⟨keepsSession_tick rfl _, fun home hstep => ?_⟩
  refine Lib.throughout_cons.mpr ⟨keepsSession_tick ?_ _, fun _ _ => Lib.throughout_nil⟩
  obtain ⟨⟨app, effects⟩, hloop, rfl⟩ := Option.map_eq_some_iff.mp hstep
  exact (keepsSession_tick rfl _ app effects hloop).1

end AxisMetrics
