import AxisMetrics.Mqtt.Defs

/-!
# The topics of the alerts

No two rules share an alert topic, and none is a status, state or discovery topic, whatever
the prefix and the rule id hold. What the client sends besides alerts leaves the alert topics
alone.
-/

namespace AxisMetrics

open Lib (Bytes ascii snprintf isAlnum)

variable {mqtt mqtt' : Mqtt} {id id' : Bytes}

/-- No buffer cuts a topic under the prefix. -/
theorem topic_eq (mqtt : Mqtt) {leaf : Bytes} (h : leaf.length < 127) :
    mqtt.topic 256 leaf = mqtt.config.topicPrefix ++ ascii "/" ++ leaf := by
  have hstarts := mqtt.config.topicPrefix_lt
  refine Lib.snprintf_eq_self ?_
  rw [List.length_append, List.length_append, show (ascii "/").length = 1 from rfl]
  omega

theorem alertTopic_eq (mqtt : Mqtt) (h : id.length < ALERT_ID_MAX) :
    mqtt.alertTopic id = mqtt.config.topicPrefix ++ ascii "/" ++ (ascii "alert/" ++ id) := by
  have hleaf : (ascii "alert/" ++ id).length < 127 := by
    rw [List.length_append, show (ascii "alert/").length = 6 from rfl]
    unfold ALERT_ID_MAX at h
    omega
  rw [Mqtt.alertTopic, Lib.snprintf_eq_self (by omega), topic_eq mqtt hleaf]

theorem alertTopic_congr (h : mqtt'.config = mqtt.config) (id : Bytes) :
    mqtt'.alertTopic id = mqtt.alertTopic id := by
  unfold Mqtt.alertTopic Mqtt.topic
  rw [h]

theorem alertTopic_injective (hid : id.length < ALERT_ID_MAX) (hid' : id'.length < ALERT_ID_MAX)
    (h : mqtt.alertTopic id = mqtt.alertTopic id') : id = id' := by
  rw [alertTopic_eq mqtt hid, alertTopic_eq mqtt hid'] at h
  exact List.append_cancel_left (List.append_cancel_left h)

/-- An alert topic is not a topic of one level under the prefix. -/
theorem alertTopic_ne_topic (hid : id.length < ALERT_ID_MAX) {leaf : Bytes}
    (hleaf : leaf.length < 127) (hhead : leaf.head? ≠ some 97) :
    mqtt.alertTopic id ≠ mqtt.topic 256 leaf := by
  intro h
  rw [alertTopic_eq mqtt hid, topic_eq mqtt hleaf] at h
  rw [← List.append_cancel_left h] at hhead
  exact hhead rfl

theorem slash_notMem_objectId (device : DeviceInfo) (d : MetricDef) : 47 ∉ objectId device d := by
  intro h
  obtain ⟨c, -, hc⟩ := List.mem_map.mp h
  split at hc
  · next halnum =>
    rw [hc] at halnum
    cases halnum
  · cases hc

/-- The underscore between serial and metric id is never cut off. -/
theorem underscore_mem_objectId (device : DeviceInfo) (d : MetricDef) : 95 ∈ objectId device d := by
  have hserial := device.serial_lt
  have hstarts : device.serial ++ ascii "_" <+:
      snprintf 128 (device.serial ++ ascii "_" ++ d.id) := by
    refine List.prefix_take_iff.mpr ⟨List.prefix_append _ _, ?_⟩
    rw [List.length_append, show (ascii "_").length = 1 from rfl]
    omega
  have hmem := hstarts.subset (List.mem_append_right _ (show 95 ∈ ascii "_" by decide))
  exact List.mem_map.mpr ⟨95, hmem, rfl⟩

theorem configTopic_eq (device : DeviceInfo) (d : MetricDef) :
    configTopic (objectId device d) =
      ascii "homeassistant" ++ 47 :: (ascii "sensor" ++ 47 :: (objectId device d ++
        47 :: ascii "config")) := by
  have hlength : (objectId device d).length ≤ 127 := by
    rw [objectId, List.length_map, snprintf, List.length_take]
    exact Nat.min_le_left _ _
  rw [configTopic, Lib.snprintf_eq_self]
  · rw [List.append_assoc]
    rfl
  · rw [List.length_append, List.length_append,
      show (ascii "homeassistant/sensor/").length = 21 from rfl,
      show (ascii "/config").length = 7 from rfl]
    omega

/-- A discovery topic has no level `alert`. -/
theorem alertTopic_ne_configTopic (hid : id.length < ALERT_ID_MAX) (device : DeviceInfo)
    (d : MetricDef) : mqtt.alertTopic id ≠ configTopic (objectId device d) := by
  intro h
  have hlevels := congrArg (List.splitOn 47) h
  rw [alertTopic_eq mqtt hid, configTopic_eq, List.append_assoc,
    show ascii "/" ++ (ascii "alert/" ++ id) = 47 :: (ascii "alert" ++ 47 :: id) from rfl,
    List.splitOn_append_cons_self, List.splitOn_append_cons_self, List.splitOn_append_cons_self,
    List.splitOn_append_cons_self, List.splitOn_append_cons_self,
    List.splitOn_eq_singleton (slash_notMem_objectId device d)] at hlevels
  have halert : ascii "alert" ∈ mqtt.config.topicPrefix.splitOn 47 ++
      ((ascii "alert").splitOn 47 ++ id.splitOn 47) :=
    List.mem_append_right _ (List.mem_append_left _ (by decide))
  rw [hlevels] at halert
  simp only [List.mem_append, List.mem_singleton] at halert
  rcases halert with h | h | h | h
  · exact absurd h (by decide)
  · exact absurd h (by decide)
  · exact absurd (h ▸ underscore_mem_objectId device d) (by decide)
  · exact absurd h (by decide)

/-- A message that leaves the alert topics alone. -/
def NotAlert (mqtt : Mqtt) (message : MqttMessage) : Prop :=
  ∀ id : Bytes, id.length < ALERT_ID_MAX → mqtt.alertTopic id ≠ message.topic

theorem NotAlert.congr {message : MqttMessage} (h : NotAlert mqtt message)
    (hconfig : mqtt'.config = mqtt.config) : NotAlert mqtt' message :=
  fun id hid => alertTopic_congr hconfig id ▸ h id hid

theorem notAlert_publish (mqtt : Mqtt) {topicName payload : Bytes} {qos : ℕ} {retained : Bool}
    (h : ∀ id : Bytes, id.length < ALERT_ID_MAX → mqtt.alertTopic id ≠ topicName)
    {message : MqttMessage} (hmem : message ∈ mqtt.publish topicName payload qos retained) :
    NotAlert mqtt message := by
  unfold Mqtt.publish at hmem
  split at hmem
  · obtain rfl := List.mem_singleton.mp hmem
    exact h
  · cases hmem

theorem notAlert_will (mqtt : Mqtt) : NotAlert mqtt mqtt.will :=
  fun _ hid => alertTopic_ne_topic hid (by decide) (by decide)

theorem notAlert_publishDiscovery {api : MqttApi} {withdrawStale : Bool} {message : MqttMessage}
    (h : message ∈ (publishDiscovery mqtt api withdrawStale).2) : NotAlert mqtt message := by
  obtain ⟨d, -, hd⟩ := List.mem_flatMap.mp h
  have htopic : ∀ id : Bytes, id.length < ALERT_ID_MAX →
      mqtt.alertTopic id ≠ configTopic (objectId api.device d) :=
    fun id hid => alertTopic_ne_configTopic hid api.device d
  unfold discoveryOf at hd
  dsimp only at hd
  split_ifs at hd
  · exact notAlert_publish mqtt htopic hd
  · exact notAlert_publish mqtt htopic hd
  · cases hd

theorem onConnected_config (mqtt : Mqtt) (api : MqttApi) :
    (onConnected mqtt api).1.config = mqtt.config ∧
      (onConnected mqtt api).1.client = mqtt.client := by
  unfold onConnected
  dsimp only
  split_ifs <;> exact ⟨rfl, rfl⟩

theorem notAlert_onConnected {api : MqttApi} {message : MqttMessage}
    (h : message ∈ (onConnected mqtt api).2) : NotAlert mqtt message := by
  unfold onConnected at h
  dsimp only at h
  rcases List.mem_append.mp h with h | h
  · exact notAlert_publish { mqtt with connected := true }
      (fun id hid => alertTopic_ne_topic hid (by decide) (by decide)) h
  · split_ifs at h
    · exact (notAlert_publishDiscovery h).congr rfl
    · cases h

theorem mqttTick_config (mqtt : Mqtt) (now : ℤ) (json : Bytes) :
    (mqttTick mqtt now json).1.config = mqtt.config ∧
      (mqttTick mqtt now json).1.client = mqtt.client := by
  unfold mqttTick
  dsimp only
  split_ifs <;> exact ⟨rfl, rfl⟩

theorem notAlert_mqttTick {now : ℤ} {json : Bytes} {message : MqttMessage}
    (h : message ∈ (mqttTick mqtt now json).2) : NotAlert mqtt message := by
  unfold mqttTick at h
  dsimp only at h
  split_ifs at h
  · cases h
  · cases h
  · exact notAlert_publish { mqtt with lastPublish := now }
      (fun id hid => alertTopic_ne_topic hid (by decide) (by decide)) h

end AxisMetrics
