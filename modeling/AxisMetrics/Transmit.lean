import AxisMetrics.Http.Privacy
import AxisMetrics.Mqtt.Discovery
import AxisMetrics.Tick

/-!
# What leaves the device

The state topic, discovery and the Influx payload each ask the transmit selection. The alert topics
do not: a rule on a metric that is switched off publishes its value, and when it fires says more.
Without such rules nothing about a switched-off metric leaves the device
(`published_eq_of_rulesTransmitted`).
-/

namespace AxisMetrics

open Lib (Bytes ascii strlcpy Alike Throughout)

variable {V D T : Type} [SampleArith V D] [RenderArith V T] [AlertArith V T]

/-- The metric leaves the device. -/
def Api.Transmits (api : Api V D) (i : Fin api.registry.count) : Prop :=
  selectionEnabled api.selection .transmit (api.registry.id i) = true

/-- Two events that differ at most in what is sampled of metrics that do not leave the device, in
the history of the disk, and in what no publisher reads. -/
inductive SamplesAgree (app : App V D T) : AppEvent V T → AppEvent V T → Prop where
  | tick (tick : Tick V T) (values : ℕ → V) (writes : ℕ → SocketWrite) (procs : Procs T)
      (h : ∀ i : Fin app.api.registry.count, app.api.Transmits i → tick.values i = values i) :
      SamplesAgree app (.tick tick)
        (.tick { tick with values := values, writes := writes, procs := procs })
  | rebuild (registry : MetricRegistry) (events : Bool) (declare : Bytes → Bytes → ℕ)
      (file : List (SavedRule T)) (memory : ℕ) (persistPath : Option Bytes)
      (history history' : List (Fin STORE_TIERS × Row V registry.count)) :
      SamplesAgree app (.rebuild registry events declare file memory persistPath history)
        (.rebuild registry events declare file memory persistPath history')
  | persistRetry (persistPath : Option Bytes)
      (history history' : List (Fin STORE_TIERS × Int64 × (ℕ → V))) :
      SamplesAgree app (.persistRetry persistPath history) (.persistRetry persistPath history')
  | same (event : AppEvent V T) (h : ∀ tick, event ≠ .tick tick) : SamplesAgree app event event

/-- At a tick, the rules that are on watch metrics that leave the device, or that do not exist. -/
def RulesTransmitted (app : App V D T) : AppEvent V T → Prop
  | .tick _ => ∀ rule ∈ app.alerts.rules, rule.enabled = true →
      ∀ i, app.api.registry.metricsFind rule.metric = some i → app.api.Transmits i
  | _ => True

/-- Two apps that differ at most in what they have stored of the samples, and in what no publisher
reads. -/
def SameButSamples (app app' : App V D T) : Prop :=
  ∃ store procs sseClients, app' = { app with
    api := { app.api with store := store }
    procs := procs
    sseClients := sseClients }

section Publishers

variable {api : Api V D} {row row' : Row V api.registry.count}

/-- The metrics that leave the device and have a reading, which is the same in both rows. -/
theorem filter_congr_of_agree (h : ∀ i, api.Transmits i → row.values i = row'.values i) :
    ((List.finRange api.registry.count).filter fun i => !SampleArith.isnan (row.values i) &&
        selectionEnabled api.selection .transmit (api.registry.id i)) =
      (List.finRange api.registry.count).filter fun i => !SampleArith.isnan (row'.values i) &&
        selectionEnabled api.selection .transmit (api.registry.id i) := by
  refine List.filter_congr fun i _ => ?_
  cases hshown : selectionEnabled api.selection .transmit (api.registry.id i) with
  | false => rw [Bool.and_false, Bool.and_false]
  | true => rw [h i hshown]

omit [AlertArith V T] in
theorem valuesObject_congr (h : ∀ i, api.Transmits i → row.values i = row'.values i) :
    valuesObject (selectionEnabled api.selection .transmit) row =
      valuesObject (selectionEnabled api.selection .transmit) row' := by
  rw [valuesObject, valuesObject, filter_congr_of_agree h]
  congr 3
  refine List.map_congr_left fun i hi => ?_
  obtain ⟨-, hshown⟩ := List.mem_filter.mp hi
  rw [h i ((Bool.and_eq_true_iff.mp hshown).2)]

omit [AlertArith V T] in
theorem influxFields_congr (h : ∀ i, api.Transmits i → row.values i = row'.values i) :
    influxFields api row = influxFields api row' := by
  rw [influxFields, influxFields, filter_congr_of_agree h]
  refine List.map_congr_left fun i hi => ?_
  obtain ⟨-, hshown⟩ := List.mem_filter.mp hi
  rw [h i ((Bool.and_eq_true_iff.mp hshown).2)]

omit [AlertArith V T] in
/-- The payload of a sample that was just pushed. -/
theorem buildPayload_congr (h : ∀ i, api.Transmits i → row.values i = row'.values i)
    (htimestamp : row.timestamp = row'.timestamp) (measurement : Bytes)
    (store store' : Store V D api.registry) :
    buildPayload measurement { api with store := (storePush store row).1 } =
      buildPayload measurement { api with store := (storePush store' row').1 } := by
  have hfields := influxFields_congr h
  have hpush : ∀ (store : Store V D api.registry) (row : Row V api.registry.count),
      buildPayload measurement { api with store := (storePush store row).1 } =
        if influxFields api row = [] then none
        else some (appendEscapedMeasurement measurement ++
          ascii ",device=" ++ appendEscapedTag (orUnknown api.device.serial) ++
          ascii ",model=" ++ appendEscapedTag (orUnknown api.device.model) ++
          ascii " " ++ (ascii ",").intercalate (influxFields api row) ++
          ascii " " ++ Lib.decimalInt row.timestamp.toInt ++ ascii "\n") :=
    fun _ _ => rfl
  rw [hpush, hpush, hfields, htimestamp]

omit [AlertArith V T] in
theorem influxTick_congr (h : ∀ i, api.Transmits i → row.values i = row'.values i)
    (htimestamp : row.timestamp = row'.timestamp) (influx : Influx) (now : ℤ)
    (store store' : Store V D api.registry) :
    influxTick influx { api with store := (storePush store row).1 } now =
      influxTick influx { api with store := (storePush store' row').1 } now := by
  unfold influxTick
  rw [buildPayload_congr h htimestamp _ store store']

omit [RenderArith V T] in
/-- Rules that watch only what leaves the device, or what does not exist, see no difference. -/
theorem alertsEvaluate_congr {registry : MetricRegistry} {alerts : Alerts T}
    {values values' : Fin registry.count → V}
    (h : ∀ rule ∈ alerts.rules, rule.enabled = true →
      ∀ i, registry.metricsFind rule.metric = some i → values i = values' i) (now : ℤ) :
    alertsEvaluate alerts now values = alertsEvaluate alerts now values' := by
  have hrule : ∀ rule ∈ alerts.rules,
      evaluateRule alerts.events alerts.notify now values rule =
        evaluateRule alerts.events alerts.notify now values' rule := by
    intro rule hmem
    unfold evaluateRule
    cases hfind : registry.metricsFind rule.metric with
    | none => rfl
    | some i =>
      dsimp only
      split
      · rfl
      · next hon => rw [h rule hmem (Bool.eq_true_of_not_eq_false hon) i hfind]
  refine Prod.ext (Alerts.ext ?_ rfl rfl) ?_
  · exact List.map_congr_left fun rule hmem => congrArg Prod.fst (hrule rule hmem)
  · exact List.flatMap_congr fun rule hmem => congrArg Prod.snd (hrule rule hmem)

end Publishers

/-- At a tick, both apps publish the same. -/
theorem onSampleTick_alike {app app' : App V D T} (hsame : SameButSamples app app')
    {tick : Tick V T} {values : ℕ → V} (writes : ℕ → SocketWrite) (procs : Procs T)
    (hagree : ∀ i : Fin app.api.registry.count, app.api.Transmits i → tick.values i = values i)
    (hrules : RulesTransmitted app (.tick tick)) :
    let tick' := { tick with values := values, writes := writes, procs := procs }
    (onSampleTick app tick).2 = (onSampleTick app' tick').2 ∧
      SameButSamples (onSampleTick app tick).1 (onSampleTick app' tick').1 := by
  obtain ⟨store, procs', clients, rfl⟩ := hsame
  intro tick'
  let row : Row V app.api.registry.count := ⟨tick.now, fun i => tick.values i⟩
  let row' : Row V app.api.registry.count := ⟨tick.now, fun i => values i⟩
  have hrow : ∀ i, app.api.Transmits i → row.values i = row'.values i := hagree
  have halerts : alertsEvaluate app.alerts tick.alertsNow row.values =
      alertsEvaluate app.alerts tick.alertsNow row'.values :=
    alertsEvaluate_congr (fun rule hmem hon i hfind => hrow i (hrules rule hmem hon i hfind)) _
  have hjson : apiCurrentValuesJson { app.api with store := (storePush app.api.store row).1 } =
      apiCurrentValuesJson { app.api with store := (storePush store row').1 } :=
    valuesObject_congr hrow
  have hinflux := influxTick_congr hrow rfl app.influx tick.influxNow app.api.store store
  constructor
  · change Published.mk (mirrored (RenderArith.formatG V) app.mqtt.mqtt
        (alertsEvaluate app.alerts tick.alertsNow row.values).2 ++
          (mqttTick app.mqtt.mqtt tick.mqttNow
            (apiCurrentValuesJson { app.api with store := (storePush app.api.store row).1 })).2)
        (influxTick app.influx { app.api with store := (storePush app.api.store row).1 }
          tick.influxNow).2 = _
    rw [halerts, hjson, hinflux]
    rfl
  · -- the rest of the app is made of what was evaluated, published and built
    let after : Alerts T → Mqtt → Influx → App V D T := fun alerts mqtt influx =>
      { app with
        api := { app.api with
          store := (storePush store row').1
          mqttStatus := strlcpy 16 (mqttState mqtt)
          influxStatus := strlcpy 16 (influxState influx) }
        alerts := alerts
        procs := procs
        mqtt := { app.mqtt with mqtt := mqtt }
        influx := influx
        sseClients := sseBroadcast clients
          (apiCurrentJson { app.api with store := (storePush store row').1 }) writes }
    refine ⟨(storePush store row').1, procs, sseBroadcast clients
      (apiCurrentJson { app.api with store := (storePush store row').1 }) writes, ?_⟩
    change after (alertsEvaluate app.alerts tick.alertsNow row'.values).1
        (mqttTick app.mqtt.mqtt tick.mqttNow
          (apiCurrentValuesJson { app.api with store := (storePush store row').1 })).1
        (influxTick app.influx { app.api with store := (storePush store row').1 }
          tick.influxNow).1 =
      after (alertsEvaluate app.alerts tick.alertsNow row.values).1
        (mqttTick app.mqtt.mqtt tick.mqttNow
          (apiCurrentValuesJson { app.api with store := (storePush app.api.store row).1 })).1
        (influxTick app.influx { app.api with store := (storePush app.api.store row).1 }
          tick.influxNow).1
    rw [halerts, hjson, hinflux]

omit [SampleArith V D] in
/-- A request does and publishes the same in both apps. -/
theorem Handles.alike_samples {env : RequestEnv} {body : Bytes} {readOnly : Bool}
    {handle : App V D T → Option (Handled V D T)} (h : Handles env body readOnly handle)
    {app app' : App V D T} (hsame : SameButSamples app app') :
    Alike SameButSamples
      ((handle app).map fun handled => (handled.app, Published.mk handled.messages none))
      ((handle app').map fun handled => (handled.app, Published.mk handled.messages none)) := by
  obtain ⟨store, procs, clients, rfl⟩ := hsame
  cases h with
  | document render => exact Or.inr ⟨_, _, _, rfl, rfl, store, procs, clients, rfl⟩
  | stream => exact Or.inr ⟨_, _, _, rfl, rfl, store, procs, sseAdd clients env.written, rfl⟩
  | settings => exact Or.inr ⟨_, _, _, rfl, rfl, store, procs, clients, rfl⟩
  | postSettings =>
    simp only [App.postSettings]
    split
    · exact Or.inr ⟨_, _, _, rfl, rfl, store, procs, clients, rfl⟩
    · exact Or.inr ⟨_, _, _, rfl, rfl, store, procs, clients, rfl⟩
  | postRules =>
    simp only [App.postRules]
    cases alertsApply V env.declare app.alerts body with
    | none => exact Or.inl ⟨rfl, rfl⟩
    | some result => exact Or.inr ⟨_, _, _, rfl, rfl, store, procs, clients, rfl⟩
  | postMetrics =>
    simp only [App.postMetrics]
    split
    · exact Or.inr ⟨_, _, _, rfl, rfl, store, procs, clients, rfl⟩
    · exact Or.inr ⟨_, _, _, rfl, rfl, store, procs, clients, rfl⟩

/-- Whatever history is found late, it is only stored. -/
theorem retryPersistence_alike {app app' : App V D T} (hsame : SameButSamples app app')
    (persistPath : Option Bytes) (history history' : List (Fin STORE_TIERS × Int64 × (ℕ → V))) :
    Alike SameButSamples (appStep app (.persistRetry persistPath history))
      (appStep app' (.persistRetry persistPath history')) := by
  obtain ⟨store, procs, clients, rfl⟩ := hsame
  simp only [appStep, retryPersistence]
  split
  · exact Or.inr ⟨_, _, _, rfl, rfl, store, procs, clients, rfl⟩
  · exact Or.inr ⟨_, _, _, rfl, rfl, _, procs, clients, rfl⟩

/-- A pair of events that agree publishes the same in both apps, where the rules allow it. -/
theorem appStep_alike {app app' : App V D T} (hsame : SameButSamples app app')
    {event event' : AppEvent V T} (hagree : SamplesAgree app event event')
    (hrules : RulesTransmitted app event) :
    Alike SameButSamples (appStep app event) (appStep app' event') := by
  cases hagree with
  | tick tick values writes procs h =>
    obtain ⟨hpublished, hnext⟩ := onSampleTick_alike hsame writes procs h hrules
    exact Or.inr ⟨_, _, _, rfl, congrArg some (Prod.ext rfl hpublished.symm), hnext⟩
  | rebuild registry events declare file memory persistPath history history' =>
    obtain ⟨store, procs, clients, rfl⟩ := hsame
    exact Or.inr ⟨_, _, _, rfl, rfl, _, procs, clients, rfl⟩
  | persistRetry persistPath history history' =>
    exact retryPersistence_alike hsame persistPath history history'
  | same event h =>
    cases event with
    | tick tick => exact absurd rfl (h tick)
    | request env request readOnly =>
      exact (handles_handleRequest env request readOnly).alike_samples hsame
    | connected =>
      obtain ⟨store, procs, clients, rfl⟩ := hsame
      simp only [appStep]
      split
      · exact Or.inr ⟨_, _, _, rfl, rfl, store, procs, clients, rfl⟩
      · exact Or.inl ⟨rfl, rfl⟩
    | connectionLost =>
      obtain ⟨store, procs, clients, rfl⟩ := hsame
      simp only [appStep]
      split
      · exact Or.inr ⟨_, _, _, rfl, rfl, store, procs, clients, rfl⟩
      · exact Or.inl ⟨rfl, rfl⟩
    | parameterChanged created name value =>
      obtain ⟨store, procs, clients, rfl⟩ := hsame
      simp only [appStep, onParameterChanged]
      split
      · exact Or.inr ⟨_, _, _, rfl, rfl, store, procs, clients, rfl⟩
      · split
        · exact Or.inr ⟨_, _, _, rfl, rfl, store, procs, clients, rfl⟩
        · exact Or.inr ⟨_, _, _, rfl, rfl, store, procs, clients, rfl⟩
    | rebuild registry events declare file memory persistPath history =>
      obtain ⟨store, procs, clients, rfl⟩ := hsame
      exact Or.inr ⟨_, _, _, rfl, rfl, _, procs, clients, rfl⟩
    | persistRetry persistPath history =>
      exact retryPersistence_alike hsame persistPath history history
    | influxState outcome =>
      obtain ⟨store, procs, clients, rfl⟩ := hsame
      exact Or.inr ⟨_, _, _, rfl, rfl, store, procs, clients, rfl⟩

/-- The state after an event, whatever it publishes. -/
def appNext (app : App V D T) (event : AppEvent V T) : Option (App V D T) :=
  (appStep app event).map Prod.fst

/-- Two runs that agree on the samples of what leaves the device publish the same, where no rule
that is on watches what does not. -/
theorem published_eq_of_rulesTransmitted {app app' : App V D T} (hsame : SameButSamples app app')
    {events : List (AppEvent V T × AppEvent V T)}
    (hagree : Throughout (fun app e => appNext app e.1) app events
      fun app e => SamplesAgree app e.1 e.2)
    (hrules : Throughout (fun app e => appNext app e.1) app events
      fun app e => RulesTransmitted app e.1) :
    Lib.outputs appStep app (events.map Prod.fst) =
      Lib.outputs appStep app' (events.map Prod.snd) := by
  have hstep : ∀ (app app' : App V D T) (e : AppEvent V T × AppEvent V T),
      SameButSamples app app' → SamplesAgree app e.1 e.2 ∧ RulesTransmitted app e.1 →
      Alike SameButSamples (appStep app e.1) (appStep app' e.2) :=
    fun _ _ _ hsame hallowed => appStep_alike hsame hallowed.1 hallowed.2
  exact Lib.outputs_congr hstep hsame fun done e app hdone hrun =>
    ⟨hagree done e app hdone hrun, hrules done e app hdone hrun⟩

/-- A connected app that transmits the CPU metric and not the one of the card. -/
def cardApp (rules : List (AlertRule ℤ)) (hcount : rules.length ≤ MAX_RULES)
    (hnodup : (rules.map AlertRule.id).Nodup) : App (Option ℤ) ℤ ℤ :=
  { blankApp fun _ => none with
    api := { (blankApp fun _ => none).api with
      registry := ⟨[cpuMetric, cardMetric]⟩
      store := storeNew ⟨[cpuMetric, cardMetric]⟩ 1 0
      selection := ⟨fun _ => [ascii "fs.card.usage"]⟩ }
    alerts := ⟨rules, false, true, hcount, hnodup⟩
    mqtt := { mqttNew with
      mqtt := ⟨⟨true, ascii "axis", 10, false, false, length_axis_lt⟩, true, true, false, 0⟩ } }

/-- A tick with these readings. -/
def cardTick (cpu card : ℤ) : AppEvent (Option ℤ) ℤ :=
  .tick ⟨100, 100, 100, 100, fun i => some (if i = 0 then cpu else card), fun _ => .failed, ⟨[], 1⟩⟩

/-- Of the two metrics the CPU one leaves the device. -/
theorem zero_of_transmits {registry : MetricRegistry} {selection : Selection}
    (hregistry : registry = ⟨[cpuMetric, cardMetric]⟩)
    (hselection : selection = ⟨fun _ => [ascii "fs.card.usage"]⟩) {i : Fin registry.count}
    (hi : selectionEnabled selection .transmit (registry.id i) = true) : (i : ℕ) = 0 := by
  subst hregistry hselection
  have hlt : (i : ℕ) < 2 := i.isLt
  by_contra hne
  obtain rfl : i = (⟨1, by decide⟩ : Fin 2) := Fin.ext (by simp; omega)
  exact absurd hi (show ¬ selectionEnabled ⟨fun _ => [ascii "fs.card.usage"]⟩ .transmit
    cardMetric.id = true by decide)

theorem samplesAgree_cardTick (rules : List (AlertRule ℤ)) (hcount : rules.length ≤ MAX_RULES)
    (hnodup : (rules.map AlertRule.id).Nodup) (cpu card card' : ℤ) :
    SamplesAgree (cardApp rules hcount hnodup) (cardTick cpu card) (cardTick cpu card') := by
  refine SamplesAgree.tick _ (fun i => some (if i = 0 then cpu else card')) _ _ fun i hi => ?_
  have hzero : (i : ℕ) = 0 := zero_of_transmits rfl rfl hi
  simp [hzero]

/-- The built-in rules of the two metrics, of which the card's is switched off. -/
def exportedRules : List (AlertRule ℤ) :=
  [{ builtinRule (Option ℤ) ⟨ascii "storage_full_card", ascii "card almost full",
      ascii "fs.card.usage", 90, 300⟩ with enabled := false },
    builtinRule (Option ℤ)
      ⟨ascii "cpu_high", ascii "CPU usage high", ascii "cpu.usage", 90, 300⟩]

theorem length_exportedRules : exportedRules.length ≤ MAX_RULES := by decide +kernel

theorem nodup_exportedRules : (exportedRules.map AlertRule.id).Nodup := by decide +kernel

/-- The app with these rules, discovery of every metric and an Influx server, before it connects. -/
def exportingApp : App (Option ℤ) ℤ ℤ :=
  { cardApp exportedRules length_exportedRules nodup_exportedRules with
    mqtt := { mqttNew with
      mqtt := ⟨⟨true, ascii "axis", 10, true, true, length_axis_lt⟩, true, false, false, 0⟩ }
    influx := ⟨⟨true, .v2, ascii "http://db:8086", [], [], [], [], [], ascii "axis_metrics", 10⟩, [],
      false, 0, ascii "pending"⟩ }

/-- A tick with these readings, at a clock of its own. -/
def exportingTick (now : ℕ) (cpu card : ℤ) : AppEvent (Option ℤ) ℤ :=
  .tick ⟨Int64.ofNat now, now, now, now, fun i => some (if i = 0 then cpu else card),
    fun _ => .failed, ⟨[], 1⟩⟩

theorem samplesAgree_exportingTick {app : App (Option ℤ) ℤ ℤ}
    (hregistry : app.api.registry = ⟨[cpuMetric, cardMetric]⟩)
    (hselection : app.api.selection = ⟨fun _ => [ascii "fs.card.usage"]⟩) (now : ℕ)
    (cpu card card' : ℤ) :
    SamplesAgree app (exportingTick now cpu card) (exportingTick now cpu card') := by
  refine SamplesAgree.tick _ (fun i => some (if i = 0 then cpu else card')) _ _ fun i hi => ?_
  have hzero : (i : ℕ) = 0 := zero_of_transmits hregistry hselection hi
  simp [hzero]

/-- The rule that is on watches the CPU. -/
theorem rulesTransmitted_exportingTick {app : App (Option ℤ) ℤ ℤ}
    (hselection : app.api.selection = ⟨fun _ => [ascii "fs.card.usage"]⟩)
    (hrules : ((app.alerts.rules.filter (·.enabled)).map (·.metric)) = [ascii "cpu.usage"])
    (now : ℕ) (cpu card : ℤ) : RulesTransmitted app (exportingTick now cpu card) := by
  intro rule hrule hon i hfind
  have hmetric : rule.metric ∈ [ascii "cpu.usage"] := by
    rw [← hrules]
    exact List.mem_map_of_mem (List.mem_filter.mpr ⟨hrule, hon⟩)
  rw [Api.Transmits, MetricRegistry.metricsFind_id hfind, List.mem_singleton.mp hmetric,
    hselection]
  decide

/-- The client connects, and five minutes of load let the CPU rule fire. -/
def exportedRun (card card' : ℤ) : List (AppEvent (Option ℤ) ℤ) :=
  [.connected, exportingTick 1000 95 card, exportingTick 1300 96 card']

/-- Two fillings of the card look the same in the configs, the samples, the alert and the lines for
the Influx server, all of which go out. -/
theorem published_eq_exportedRun :
    Lib.outputs appStep exportingApp (exportedRun 20 95) =
        Lib.outputs appStep exportingApp (exportedRun 91 30) ∧
      (Lib.outputs appStep exportingApp (exportedRun 20 95)).map (fun published =>
        (published.messages.map (·.topic), published.payload)) =
      [([ascii "axis/status", ascii "homeassistant/sensor/_cpu_usage/config",
          ascii "homeassistant/sensor/_fs_card_usage/config"], none),
        ([ascii "axis/state"],
          some (ascii "axis_metrics,device=unknown,model=unknown cpu.usage=95 1000\n")),
        ([ascii "axis/alert/cpu_high", ascii "axis/state"],
          some (ascii "axis_metrics,device=unknown,model=unknown cpu.usage=96 1300\n"))] := by
  refine ⟨?_, by decide +kernel⟩
  change Lib.outputs appStep _ (([(.connected, .connected),
      (exportingTick 1000 95 20, exportingTick 1000 95 91),
      (exportingTick 1300 96 95, exportingTick 1300 96 30)]).map Prod.fst) =
    Lib.outputs appStep _ (([(.connected, .connected),
      (exportingTick 1000 95 20, exportingTick 1000 95 91),
      (exportingTick 1300 96 95, exportingTick 1300 96 30)]).map Prod.snd)
  refine published_eq_of_rulesTransmitted ⟨_, _, _, rfl⟩ ?_ ?_
  · refine Lib.throughout_cons.mpr ⟨.same _ (by simp), fun connected hconnected => ?_⟩
    obtain rfl := Option.some.inj hconnected
    refine Lib.throughout_cons.mpr ⟨samplesAgree_exportingTick rfl rfl _ _ _ _,
      fun sampled hsampled => ?_⟩
    obtain rfl := Option.some.inj hsampled
    exact Lib.throughout_cons.mpr ⟨samplesAgree_exportingTick rfl rfl _ _ _ _,
      fun _ _ => Lib.throughout_nil⟩
  · refine Lib.throughout_cons.mpr ⟨trivial, fun connected hconnected => ?_⟩
    obtain rfl := Option.some.inj hconnected
    refine Lib.throughout_cons.mpr ⟨rulesTransmitted_exportingTick rfl (by decide +kernel) _ _ _,
      fun sampled hsampled => ?_⟩
    obtain rfl := Option.some.inj hsampled
    exact Lib.throughout_cons.mpr
      ⟨rulesTransmitted_exportingTick rfl (by decide +kernel) _ _ _,
        fun _ _ => Lib.throughout_nil⟩

/-- A rule that fires when the card is almost full. -/
def cardRule : AlertRule ℤ :=
  ⟨ascii "card", ascii "Card almost full", ascii "fs.card.usage", .above, 90, 0, true, false, false, 0,
    0, 0, 0, by decide⟩

/-- It tells the broker that the card is almost full, and how full it is. -/
theorem not_published_eq_cardRule :
    ¬ (Throughout (fun app e => appNext app e.1) (cardApp [cardRule] (by decide) (by decide))
          [(cardTick 7 20, cardTick 7 95)] (fun app e => SamplesAgree app e.1 e.2) →
        Lib.outputs appStep (cardApp [cardRule] (by decide) (by decide)) [cardTick 7 20] =
          Lib.outputs appStep (cardApp [cardRule] (by decide) (by decide)) [cardTick 7 95]) := by
  intro hsame
  refine absurd (hsame (Lib.throughout_cons.mpr ⟨samplesAgree_cardTick _ _ _ 7 20 95,
    fun _ _ => Lib.throughout_nil⟩)) ?_
  decide

end AxisMetrics
