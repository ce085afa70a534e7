import AxisMetrics.Api.Query
import AxisMetrics.Metrics
import AxisMetrics.Sample
import Mathlib.Data.List.Nodup

/-!
# Threshold alerting

A rule fires once its condition has held for its duration. The functions return what they
send, in order: stateful events to the device and calls of the `AlertNotify` callback.

Samples are of type `V` (a C `float`), thresholds of type `T` (a C `double`); `AlertArith`
lists what the code does with them.
-/

namespace AxisMetrics

open Lib (Bytes ascii strlcpy guint strtoull)

/-- What the alerts do with samples and thresholds. -/
class AlertArith (V : Type) (T : outParam Type) where
  isnan : V → Bool
  /-- `value > threshold`. -/
  gt : V → T → Bool
  /-- `value < threshold`. -/
  lt : V → T → Bool
  ofValue : V → T
  ofNat : ℕ → T
  /-- `g_ascii_strtod (text, NULL)`. -/
  strtod : Bytes → T

/-- Whole-number readings, with `none` for NaN: enough to run the alerts on. -/
instance : AlertArith (Option ℤ) ℤ where
  isnan := Option.isNone
  gt value threshold := value.any (threshold < ·)
  lt value threshold := value.any (· < threshold)
  ofValue value := value.getD 0
  ofNat n := n
  strtod text := strtoull text

inductive AlertOp where
  | above
  | below
  deriving DecidableEq

def MAX_RULES : ℕ := 64
def ALERT_ID_MAX : ℕ := 48
def ALERT_NAME_MAX : ℕ := 96

/-- `AlertRule`: the configured fields, then the runtime state. The id fits its buffer. -/
structure AlertRule (T : Type) where
  id : Bytes
  name : Bytes
  metric : Bytes
  op : AlertOp
  threshold : T
  /-- Condition must hold this long before firing. -/
  durationS : ℕ
  enabled : Bool
  builtin : Bool
  firing : Bool
  /-- Zero while the condition does not hold. -/
  breachSince : ℤ
  firedAt : ℤ
  lastValue : T
  declaration : ℕ
  id_lt : id.length < ALERT_ID_MAX
  deriving DecidableEq

/-- `Alerts`: at most `MAX_RULES` rules, no two with one id. -/
@[ext]
structure Alerts (T : Type) where
  rules : List (AlertRule T)
  /-- Whether there is an event handler. -/
  events : Bool
  /-- Whether the `AlertNotify` callback is set. -/
  notify : Bool
  count_le : rules.length ≤ MAX_RULES
  nodup : (rules.map AlertRule.id).Nodup

/-- What the alerts send. -/
inductive AlertOutput (T : Type) where
  | event (declaration : ℕ) (state : Bool)
  | notify (rule : AlertRule T) (firing : Bool)

variable {V T : Type}

/-- `op_from`. -/
def opFrom (name : Option Bytes) : AlertOp := if name = some (ascii "below") then .below else .above

/-- `find_rule`. -/
def findRule (alerts : Alerts T) (id : Bytes) : Option (AlertRule T) :=
  alerts.rules.find? fun rule => rule.id = id

theorem findRule_eq_none {alerts : Alerts T} {id : Bytes} :
    findRule alerts id = none ↔ id ∉ alerts.rules.map AlertRule.id := by
  simp [findRule, List.mem_map]

/-- `add_rule`. -/
def addRule (alerts : Alerts T) (source : AlertRule T) : Option (Alerts T) :=
  if h : alerts.rules.length < MAX_RULES ∧ findRule alerts source.id = none then
    some { alerts with
      rules := alerts.rules ++ [source]
      count_le := by
        rw [List.length_append, List.length_singleton]
        exact h.1
      nodup := by
        rw [List.map_append, List.map_singleton, List.nodup_append]
        refine ⟨alerts.nodup, List.nodup_singleton _, fun id hid id' hid' heq => ?_⟩
        rw [List.mem_singleton.mp hid'] at heq
        exact findRule_eq_none.mp h.2 (heq ▸ hid) }
  else none

/-- Change rules in place without changing their ids. -/
def Alerts.mapRules (alerts : Alerts T) (f : AlertRule T → AlertRule T)
    (hf : ∀ rule, (f rule).id = rule.id) : Alerts T :=
  { alerts with
    rules := alerts.rules.map f
    count_le := by
      rw [List.length_map]
      exact alerts.count_le
    nodup := by
      rw [List.map_map, show AlertRule.id ∘ f = AlertRule.id from funext hf]
      exact alerts.nodup }

/-- Remove rules. -/
def Alerts.sublist (alerts : Alerts T) (rules : List (AlertRule T))
    (h : rules.Sublist alerts.rules) : Alerts T :=
  { alerts with
    rules := rules
    count_le := h.length_le.trans alerts.count_le
    nodup := alerts.nodup.sublist (h.map _) }

/-- `declare_rule`; `declare` is the declaration the event handler gives, zero where it refuses. -/
def declareRule (events : Bool) (declare : Bytes → Bytes → ℕ) (rule : AlertRule T) : AlertRule T :=
  if events = false ∨ rule.declaration ≠ 0 then rule
  else { rule with declaration := declare rule.id rule.name }

/-- `send_state`. -/
def sendState (events : Bool) (rule : AlertRule T) : List (AlertOutput T) :=
  if events = false ∨ rule.declaration = 0 then [] else [.event rule.declaration rule.firing]

/-- `alerts->notify`, where it is set. -/
def callNotify (notify : Bool) (rule : AlertRule T) (firing : Bool) : List (AlertOutput T) :=
  if notify then [.notify rule firing] else []

section Evaluate

variable [AlertArith V T] {registry : MetricRegistry}

/-- `breached`. -/
def isBreached (rule : AlertRule T) (value : V) : Bool :=
  match rule.op with
  | .above => AlertArith.gt value rule.threshold
  | .below => AlertArith.lt value rule.threshold

/-- A reading that does not breach: the rule clears. -/
def clearReading (events notify : Bool) (rule : AlertRule T) :
    AlertRule T × List (AlertOutput T) :=
  let rule := { rule with breachSince := 0 }
  if rule.firing then
    let rule := { rule with firing := false }
    (rule, sendState events rule ++ callNotify notify rule false)
  else (rule, [])

/-- A reading that breaches: the timer runs, and the rule fires once it is due. -/
def breachReading (events notify : Bool) (now : ℤ) (rule : AlertRule T) :
    AlertRule T × List (AlertOutput T) :=
  let rule := { rule with breachSince := if rule.breachSince = 0 then now else rule.breachSince }
  if rule.firing = false ∧ (rule.durationS : ℤ) ≤ now - rule.breachSince then
    let rule := { rule with firing := true, firedAt := now }
    (rule, sendState events rule ++ callNotify notify rule true)
  else (rule, [])

/-- One turn of the loop of `alerts_evaluate`. -/
def evaluateRule (events notify : Bool) (now : ℤ) (values : Fin registry.count → V)
    (rule : AlertRule T) : AlertRule T × List (AlertOutput T) :=
  match registry.metricsFind rule.metric with
  | none => ({ rule with breachSince := 0 }, [])
  | some index =>
    if rule.enabled = false then ({ rule with breachSince := 0 }, [])
    -- absent readings must not clear a firing rule
    else if AlertArith.isnan (values index) then ({ rule with breachSince := 0 }, [])
    else
      let rule := { rule with lastValue := AlertArith.ofValue (values index) }
      if isBreached rule (values index) then breachReading events notify now rule
      else clearReading events notify rule

theorem evaluateRule_id (events notify : Bool) (now : ℤ) (values : Fin registry.count → V)
    (rule : AlertRule T) : (evaluateRule events notify now values rule).1.id = rule.id := by
  unfold evaluateRule breachReading clearReading
  dsimp only
  split
  · rfl
  · split_ifs <;> rfl

theorem evaluated_id (alerts : Alerts T) (now : ℤ) (values : Fin registry.count → V)
    (rule : AlertRule T) :
    (evaluateRule alerts.events alerts.notify now values rule).1.id = rule.id :=
  evaluateRule_id alerts.events alerts.notify now values rule

/-- `alerts_evaluate` at clock `now`. -/
def alertsEvaluate (alerts : Alerts T) (now : ℤ) (values : Fin registry.count → V) :
    Alerts T × List (AlertOutput T) :=
  (alerts.mapRules (fun rule => (evaluateRule alerts.events alerts.notify now values rule).1)
      (evaluated_id alerts now values),
    alerts.rules.flatMap fun rule =>
      (evaluateRule alerts.events alerts.notify now values rule).2)

end Evaluate

section Apply

variable [AlertArith V T]

/-- A rule in freshly cleared memory, with its id. -/
def clearedRule (V : Type) [AlertArith V T] (id : Bytes) : AlertRule T where
  id := strlcpy ALERT_ID_MAX id
  name := []
  metric := []
  op := .above
  threshold := AlertArith.ofNat V 0
  durationS := 0
  enabled := false
  builtin := false
  firing := false
  breachSince := 0
  firedAt := 0
  lastValue := AlertArith.ofNat V 0
  declaration := 0
  id_lt := Lib.length_strlcpy_lt (by decide) id

/-- The fields of a save, each one the body has. A built-in rule keeps its metric. -/
def saveFields (V : Type) [AlertArith V T] (body : Bytes) (rule : AlertRule T) : AlertRule T :=
  let name := ((apiQueryParam body (ascii "name")).map (strlcpy ALERT_NAME_MAX)).getD rule.name
  { rule with
    name := if name = [] then strlcpy ALERT_NAME_MAX rule.id else name
    metric := if rule.builtin then rule.metric
      else ((apiQueryParam body (ascii "metric")).map (strlcpy METRIC_ID_MAX)).getD rule.metric
    op := ((apiQueryParam body (ascii "op")).map fun op => opFrom (some op)).getD rule.op
    threshold := ((apiQueryParam body (ascii "threshold")).map (AlertArith.strtod V)).getD
      rule.threshold
    durationS := ((apiQueryParam body (ascii "duration")).map fun d => guint (strtoull d)).getD
      rule.durationS
    enabled := ((apiQueryParam body (ascii "enabled")).map fun e => decide (e = ascii "yes")).getD
      rule.enabled }

/-- The change a save makes to the rule it found. -/
def saveRule (V : Type) [AlertArith V T] (events : Bool) (declare : Bytes → Bytes → ℕ)
    (body : Bytes) (rule : AlertRule T) : AlertRule T :=
  declareRule events declare (saveFields V body rule)

theorem declareRule_id (events : Bool) (declare : Bytes → Bytes → ℕ) (rule : AlertRule T) :
    (declareRule events declare rule).id = rule.id := by
  unfold declareRule
  split <;> rfl

/-- Change the rule of one id. -/
def updateRule (alerts : Alerts T) (id : Bytes) (f : AlertRule T → AlertRule T)
    (hf : ∀ rule, (f rule).id = rule.id) : Alerts T :=
  alerts.mapRules (fun rule => if rule.id = id then f rule else rule) fun rule => by
    split
    · exact hf rule
    · rfl

/-- `alerts_apply` with `action=delete`. Built-ins can be disabled but not removed. -/
def applyDelete (alerts : Alerts T) (id : Bytes) : Alerts T × Bool :=
  match findRule alerts id with
  | none => (alerts, false)
  | some rule =>
    if rule.builtin then (alerts, false)
    else (alerts.sublist (alerts.rules.eraseP fun rule => rule.id = id) List.eraseP_sublist, true)

/-- `alerts_apply` with `action=save`. An id that is cut to fit the rule is not found again after
it was added, and the code follows the null pointer: `none`. -/
def applySave (V : Type) [AlertArith V T] (declare : Bytes → Bytes → ℕ) (alerts : Alerts T)
    (body id : Bytes) : Option (Alerts T × Bool) :=
  match (if (findRule alerts id).isSome then some alerts
    else addRule alerts (clearedRule V id)) with
  | none => some (alerts, false)
  | some alerts =>
    match findRule alerts id with
    | none => none
    | some _ => some (updateRule alerts id (saveRule V alerts.events declare body)
        fun _ => declareRule_id _ _ _, true)

/-- `alerts_apply`: the alerts and whether anything changed, or `none` for a crash. -/
def alertsApply (V : Type) [AlertArith V T] (declare : Bytes → Bytes → ℕ) (alerts : Alerts T)
    (body : Bytes) : Option (Alerts T × Bool) :=
  match apiQueryParam body (ascii "action"), apiQueryParam body (ascii "id") with
  | some action, some id =>
    if action = ascii "delete" then some (applyDelete alerts id)
    else if action = ascii "save" then applySave V declare alerts body id
    else some (alerts, false)
  | _, _ => some (alerts, false)

end Apply

section New

variable [AlertArith V T]

/-- A group of the rules file, as `GKeyFile` gives it. -/
structure SavedRule (T : Type) where
  group : Bytes
  name : Option Bytes
  metric : Option Bytes
  op : Option Bytes
  threshold : T
  duration : ℤ
  enabled : Bool
  builtin : Bool

/-- One group in the loop of `load_rules`. -/
def loadRule (V : Type) [AlertArith V T] (saved : SavedRule T) : AlertRule T :=
  { clearedRule V saved.group with
    name := strlcpy ALERT_NAME_MAX (saved.name.getD saved.group)
    metric := strlcpy METRIC_ID_MAX (saved.metric.getD [])
    op := opFrom saved.op
    threshold := saved.threshold
    durationS := (saved.duration % 2 ^ 32).toNat
    enabled := saved.enabled
    builtin := saved.builtin }

/-- `add_rule` where its result is not looked at. -/
def tryAddRule (alerts : Alerts T) (rule : AlertRule T) : Alerts T :=
  (addRule alerts rule).getD alerts

/-- `load_rules`. -/
def loadRules (V : Type) [AlertArith V T] (alerts : Alerts T) (file : List (SavedRule T)) :
    Alerts T :=
  file.foldl (fun alerts saved =>
    if (loadRule V saved).metric = [] then alerts else tryAddRule alerts (loadRule V saved)) alerts

/-- The fields of a built-in rule that differ from one to the next. -/
structure BuiltinRule where
  id : Bytes
  name : Bytes
  metric : Bytes
  threshold : ℕ
  durationS : ℕ

/-- Ids missing on this device are skipped; filesystem rules are generated per mount. -/
def BUILTIN : List BuiltinRule :=
  [⟨ascii "cpu_high", ascii "CPU usage high", ascii "cpu.usage", 90, 300⟩,
    ⟨ascii "memory_high", ascii "Memory usage high", ascii "mem.usage", 90, 300⟩,
    ⟨ascii "temperature_high", ascii "Temperature high", ascii "sensor.CPU", 85, 120⟩]

/-- A built-in rule in its initial state. -/
def builtinRule (V : Type) [AlertArith V T] (rule : BuiltinRule) : AlertRule T :=
  { clearedRule V rule.id with
    name := strlcpy ALERT_NAME_MAX rule.name
    metric := strlcpy METRIC_ID_MAX rule.metric
    threshold := AlertArith.ofNat V rule.threshold
    durationS := rule.durationS
    enabled := true
    builtin := true }

/-- The space rule of a filesystem metric `fs.<area>.usage`. -/
def storageRule (metric : Bytes) : Option BuiltinRule :=
  if ascii "fs." <+: metric ∧ ascii ".usage" <:+ metric then
    let area := (metric.drop 3).take (metric.length - 9)
    some ⟨ascii "storage_full_" ++ area, area ++ ascii " almost full", metric, 90, 300⟩
  else none

/-- The built-in rules whose metric the device has, filesystems first. -/
def expectedRules (registry : MetricRegistry) : List BuiltinRule :=
  registry.defs.filterMap (fun d => storageRule d.id) ++
    BUILTIN.filter fun rule => (registry.metricsFind rule.metric).isSome

/-- Add a built-in rule unless the file had one of its id. -/
def addBuiltin (V : Type) [AlertArith V T] (alerts : Alerts T) (rule : BuiltinRule) : Alerts T :=
  if (findRule alerts rule.id).isSome then alerts else tryAddRule alerts (builtinRule V rule)

/-- `prune_stale_builtins`. -/
def pruneStaleBuiltins (alerts : Alerts T) (expected : List Bytes) : Alerts T :=
  alerts.sublist (alerts.rules.filter fun rule => !rule.builtin || expected.contains rule.id)
    List.filter_sublist

/-- `alerts_new`, with what the rules file holds. -/
def alertsNew (V : Type) [AlertArith V T] (registry : MetricRegistry) (events : Bool)
    (declare : Bytes → Bytes → ℕ) (file : List (SavedRule T)) : Alerts T :=
  let alerts : Alerts T := ⟨[], events, false, Nat.zero_le _, List.nodup_nil⟩
  let alerts := (expectedRules registry).foldl (addBuiltin V) (loadRules V alerts file)
  let alerts := pruneStaleBuiltins alerts ((expectedRules registry).map BuiltinRule.id)
  alerts.mapRules (declareRule events declare) (declareRule_id events declare)

/-- `alerts_set_notify`. -/
def alertsSetNotify (alerts : Alerts T) : Alerts T := { alerts with notify := true }

end New

end AxisMetrics
