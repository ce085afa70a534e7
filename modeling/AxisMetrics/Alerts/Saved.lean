import AxisMetrics.Alerts.Document
import AxisMetrics.Alerts.Table
import AxisMetrics.Lib.KeyFile

/-!
# The rules file

`save_rules` writes a group for each rule, and `load_rules` reads the groups back. A rule is lost
on the way if its id cannot be a group name, or if its metric is empty or is not UTF-8; a name
that is not UTF-8 is replaced by the id (`reload_rules`).
-/

namespace AxisMetrics

open Lib (Bytes ascii strlcpy isGroupName isUtf8 KeyFile KeyValue)

variable {V T : Type} [AlertArith V T] {alerts alerts' : Alerts T}

/-- `(gint) n` of a `guint`. -/
def gint (n : ℕ) : ℤ := if n < 2 ^ 31 then n else (n : ℤ) - 2 ^ 32

/-- The `g_key_file_set_*` calls of `save_rules` for a rule, in its group. -/
def saveKeys (rule : AlertRule T) : List (Bytes × KeyValue T) :=
  [(ascii "name", .string rule.name),
    (ascii "metric", .string rule.metric),
    (ascii "op", .string (opName rule.op)),
    (ascii "threshold", .double rule.threshold),
    (ascii "duration", .integer (gint rule.durationS)),
    (ascii "enabled", .boolean rule.enabled),
    (ascii "builtin", .boolean rule.builtin)]

/-- `save_rules`: the file that is written. -/
def saveRules (alerts : Alerts T) : KeyFile T :=
  alerts.rules.foldl (fun file rule => file.setAll rule.id (saveKeys rule)) []

/-- The `g_key_file_get_*` calls of `load_rules` for a group. -/
def savedRule (V : Type) [AlertArith V T] (file : KeyFile T) (group : Bytes) : SavedRule T where
  group := group
  name := file.getString group (ascii "name")
  metric := file.getString group (ascii "metric")
  op := file.getString group (ascii "op")
  threshold := file.getDouble (AlertArith.ofNat V 0) group (ascii "threshold")
  duration := file.getInteger group (ascii "duration")
  enabled := file.getBoolean group (ascii "enabled")
  builtin := file.getBoolean group (ascii "builtin")

/-- The groups of a rules file. -/
def savedRules (V : Type) [AlertArith V T] (file : KeyFile T) : List (SavedRule T) :=
  file.groups.map (savedRule V file)

/-- `load_rules` in a new process, after `save_rules` in the old one. -/
def reload (V : Type) [AlertArith V T] (events : Bool) (alerts : Alerts T) : Alerts T :=
  loadRules V (noAlerts T events) (savedRules V (saveRules alerts))

/-- The fields of a rule that are configured, without its runtime state. -/
structure RuleConfig (T : Type) where
  id : Bytes
  name : Bytes
  metric : Bytes
  op : AlertOp
  threshold : T
  durationS : ℕ
  enabled : Bool
  builtin : Bool
  deriving DecidableEq

def AlertRule.config (rule : AlertRule T) : RuleConfig T :=
  ⟨rule.id, rule.name, rule.metric, rule.op, rule.threshold, rule.durationS, rule.enabled,
    rule.builtin⟩

/-- The texts of the rule are C strings in their buffers, and its duration is a `guint`. -/
structure RuleFits (rule : AlertRule T) : Prop where
  id : 0 ∉ rule.id
  name : 0 ∉ rule.name
  name_lt : rule.name.length < ALERT_NAME_MAX
  metric : 0 ∉ rule.metric
  metric_lt : rule.metric.length < METRIC_ID_MAX
  durationS : rule.durationS < 2 ^ 32

section Fits

variable {declare : Bytes → Bytes → ℕ} {body : Bytes} {changed : Bool} {rule : AlertRule T}

theorem ruleFits_clearedRule (id : Bytes) : RuleFits (clearedRule V id) where
  id := Lib.zero_notMem_strlcpy _ _
  name := List.not_mem_nil
  name_lt := show 0 < ALERT_NAME_MAX by decide
  metric := List.not_mem_nil
  metric_lt := show 0 < METRIC_ID_MAX by decide
  durationS := show 0 < 2 ^ 32 by decide

theorem ruleFits_loadRule (saved : SavedRule T) : RuleFits (loadRule V saved) where
  id := Lib.zero_notMem_strlcpy _ _
  name := Lib.zero_notMem_strlcpy _ _
  name_lt := Lib.length_strlcpy_lt (by decide) _
  metric := Lib.zero_notMem_strlcpy _ _
  metric_lt := Lib.length_strlcpy_lt (by decide) _
  durationS := show (saved.duration % 2 ^ 32).toNat < 2 ^ 32 by omega

theorem durationS_lt_of_expected {registry : MetricRegistry} {expected : BuiltinRule}
    (h : expected ∈ expectedRules registry) : expected.durationS < 2 ^ 32 := by
  rcases List.mem_append.mp h with hstorage | hbuiltin
  · obtain ⟨d, -, hd⟩ := List.mem_filterMap.mp hstorage
    unfold storageRule at hd
    split at hd
    · obtain rfl := Option.some.inj hd
      exact show 300 < 2 ^ 32 by decide
    · cases hd
  · have hall : ∀ rule ∈ BUILTIN, rule.durationS < 2 ^ 32 := by decide
    exact hall expected (List.mem_of_mem_filter hbuiltin)

theorem ruleFits_builtinRule {expected : BuiltinRule} (h : expected.durationS < 2 ^ 32) :
    RuleFits (builtinRule V expected) where
  id := Lib.zero_notMem_strlcpy _ _
  name := Lib.zero_notMem_strlcpy _ _
  name_lt := Lib.length_strlcpy_lt (by decide) _
  metric := Lib.zero_notMem_strlcpy _ _
  metric_lt := Lib.length_strlcpy_lt (by decide) _
  durationS := h

omit [AlertArith V T] in
theorem declareRule_config (events : Bool) (rule : AlertRule T) :
    (declareRule events declare rule).config = rule.config := by
  unfold declareRule
  split <;> rfl

omit [AlertArith V T] in
theorem RuleFits.congr {rule' : AlertRule T} (hconfig : rule'.config = rule.config)
    (h : RuleFits rule) : RuleFits rule' := by
  simp only [AlertRule.config, RuleConfig.mk.injEq] at hconfig
  obtain ⟨hid, hname, hmetric, -, -, hduration, -, -⟩ := hconfig
  exact ⟨hid ▸ h.id, hname ▸ h.name, hname ▸ h.name_lt, hmetric ▸ h.metric, hmetric ▸ h.metric_lt,
    hduration ▸ h.durationS⟩

omit [AlertArith V T] in
theorem RuleFits.declareRule (h : RuleFits rule) (events : Bool) :
    RuleFits (declareRule events declare rule) := h.congr (declareRule_config events rule)

/-- A buffer that is written over or kept. -/
theorem getD_map_strlcpy {p : Bytes → Prop} {size : ℕ} {old : Bytes} (hold : p old)
    (hnew : ∀ text, p (strlcpy size text)) (text : Option Bytes) :
    p ((text.map (strlcpy size)).getD old) := by
  cases text with
  | none => exact hold
  | some text => exact hnew text

theorem RuleFits.saveFields (h : RuleFits rule) (body : Bytes) :
    RuleFits (saveFields V body rule) where
  id := h.id
  name := by
    have hname : 0 ∉ ((apiQueryParam body (ascii "name")).map (strlcpy ALERT_NAME_MAX)).getD
        rule.name := getD_map_strlcpy (p := fun text => 0 ∉ text) h.name
      (Lib.zero_notMem_strlcpy _) _
    rw [AxisMetrics.saveFields]
    dsimp only
    split
    · exact Lib.zero_notMem_strlcpy _ _
    · exact hname
  name_lt := by
    have hname := getD_map_strlcpy (p := fun text => text.length < ALERT_NAME_MAX) h.name_lt
      (fun text => Lib.length_strlcpy_lt (by decide) text)
      (apiQueryParam body (ascii "name"))
    rw [AxisMetrics.saveFields]
    dsimp only
    split
    · exact Lib.length_strlcpy_lt (by decide) _
    · exact hname
  metric := by
    rw [AxisMetrics.saveFields]
    dsimp only
    split
    · exact h.metric
    · exact getD_map_strlcpy (p := fun text => 0 ∉ text) h.metric (Lib.zero_notMem_strlcpy _) _
  metric_lt := by
    rw [AxisMetrics.saveFields]
    dsimp only
    split
    · exact h.metric_lt
    · exact getD_map_strlcpy (p := fun text => text.length < METRIC_ID_MAX) h.metric_lt
        (Lib.length_strlcpy_lt (by decide)) _
  durationS := by
    rw [AxisMetrics.saveFields]
    dsimp only
    cases apiQueryParam body (ascii "duration") with
    | none => exact h.durationS
    | some duration => exact Nat.mod_lt _ (by decide)

/-- Every rule of the table fits. -/
def RulesFit (alerts : Alerts T) : Prop := ∀ rule ∈ alerts.rules, RuleFits rule

theorem rulesFit_alertsNew (registry : MetricRegistry) (events : Bool)
    (file : List (SavedRule T)) : RulesFit (alertsNew V registry events declare file) :=
  forall_alertsNew events file ruleFits_loadRule
    (fun _ hexpected => ruleFits_builtinRule (durationS_lt_of_expected hexpected))
    (fun _ hrule => hrule.declareRule events)

theorem RulesFit.alertsApply (h : RulesFit alerts)
    (happly : alertsApply V declare alerts body = some (alerts', changed)) : RulesFit alerts' := by
  have hsave : ∀ rule, RuleFits rule → ∀ events, RuleFits (saveRule V events declare body rule) :=
    fun rule hrule events => (hrule.saveFields body).declareRule events
  have hmap : ∀ rules : List (AlertRule T), (∀ rule ∈ rules, RuleFits rule) → ∀ id events,
      ∀ rule ∈ rules.map (fun rule =>
        if rule.id = id then saveRule V events declare body rule else rule), RuleFits rule := by
    intro rules hrules id events rule hrule
    obtain ⟨old, hold, rfl⟩ := List.mem_map.mp hrule
    split
    · exact hsave old (hrules old hold) events
    · exact hrules old hold
  intro rule hrule
  rcases alertsApply_cases happly with rfl | ⟨_, -, -, -, -, hrules, -⟩ |
    ⟨id, -, -, -, hrules, -⟩ | ⟨id, -, -, -, hrules, -⟩
  · exact h rule hrule
  · rw [hrules] at hrule
    exact h rule (List.mem_of_mem_eraseP hrule)
  · rw [hrules] at hrule
    exact hmap _ h id _ rule hrule
  · rw [hrules] at hrule
    refine hmap _ (fun old hold => ?_) id _ rule hrule
    rcases List.mem_append.mp hold with hold | hnew
    · exact h old hold
    · exact List.mem_singleton.mp hnew ▸ ruleFits_clearedRule id

end Fits

section File

theorem gint_emod {n : ℕ} (h : n < 2 ^ 32) : (gint n % 2 ^ 32).toNat = n := by
  unfold gint
  split <;> omega

omit [AlertArith V T] in
theorem nodup_saveKeys (rule : AlertRule T) : ((saveKeys rule).map Prod.fst).Nodup := by
  have hkeys : (saveKeys rule).map Prod.fst =
      [ascii "name", ascii "metric", ascii "op", ascii "threshold", ascii "duration",
        ascii "enabled", ascii "builtin"] := rfl
  rw [hkeys]
  decide

/-- The loop of `save_rules` appends a group for every rule whose id can name one. -/
theorem saveRules_eq (alerts : Alerts T) : saveRules alerts =
    (alerts.rules.filter fun rule => isGroupName rule.id).map
      fun rule => (rule.id, saveKeys rule) := by
  have hloop : ∀ (rules : List (AlertRule T)) (file : KeyFile T),
      (file.groups ++ rules.map AlertRule.id).Nodup →
      rules.foldl (fun file rule => file.setAll rule.id (saveKeys rule)) file =
        file ++ (rules.filter fun rule => isGroupName rule.id).map
          fun rule => (rule.id, saveKeys rule) := by
    intro rules
    induction rules with
    | nil => exact fun file _ => (List.append_nil file).symm
    | cons rule rules ih =>
      intro file hdistinct
      rw [List.map_cons] at hdistinct
      rw [List.foldl_cons]
      cases hname : isGroupName rule.id with
      | false =>
        rw [KeyFile.setAll_of_not hname, List.filter_cons_of_neg (by simp [hname])]
        exact ih file (hdistinct.sublist
          (List.Sublist.append_left (List.sublist_cons_self ..) _))
      | true =>
        have hfresh : rule.id ∉ file.groups := fun hmem =>
          (List.nodup_append.mp hdistinct).2.2 _ hmem _ (List.mem_cons_self ..) rfl
        have hkeys : saveKeys rule ≠ [] := List.cons_ne_nil _ _
        rw [KeyFile.setAll_of_fresh hname hfresh hkeys (nodup_saveKeys rule),
          List.filter_cons_of_pos (by simp [hname]), ih, List.map_cons, List.append_assoc]
        · rfl
        · rw [KeyFile.groups, List.map_append, List.append_assoc]
          exact hdistinct
  exact (hloop alerts.rules [] alerts.nodup).trans (List.nil_append _)

/-- What `load_rules` finds of a rule in its group. -/
def writtenRule (rule : AlertRule T) : SavedRule T where
  group := rule.id
  name := if isUtf8 rule.name then some rule.name else none
  metric := if isUtf8 rule.metric then some rule.metric else none
  op := some (opName rule.op)
  threshold := rule.threshold
  duration := gint rule.durationS
  enabled := rule.enabled
  builtin := rule.builtin

omit [AlertArith V T] in
theorem groups_saveRules (alerts : Alerts T) : (saveRules alerts).groups =
    (alerts.rules.filter fun rule => isGroupName rule.id).map AlertRule.id := by
  rw [KeyFile.groups, saveRules_eq, List.map_map]
  rfl

omit [AlertArith V T] in
theorem get_saveRules {rule : AlertRule T} (hrule : rule ∈ alerts.rules)
    (hname : isGroupName rule.id = true) {key : Bytes} {value : KeyValue T}
    (h : (key, value) ∈ saveKeys rule) : (saveRules alerts).get rule.id key = some value := by
  refine KeyFile.get_of_mem ?_ ?_ (nodup_saveKeys rule) h
  · rw [groups_saveRules]
    exact alerts.nodup.sublist (List.filter_sublist.map _)
  · rw [saveRules_eq]
    exact List.mem_map.mpr ⟨rule, List.mem_filter.mpr ⟨hrule, hname⟩, rfl⟩

theorem isUtf8_opName (op : AlertOp) : isUtf8 (opName op) = true := by
  cases op <;> decide

theorem savedRule_saveRules {rule : AlertRule T} (hrule : rule ∈ alerts.rules)
    (hname : isGroupName rule.id = true) :
    savedRule V (saveRules alerts) rule.id = writtenRule rule := by
  have hget : ∀ key value, (key, value) ∈ saveKeys rule →
      (saveRules alerts).get rule.id key = some value := fun key value =>
    get_saveRules hrule hname
  rw [savedRule, writtenRule, KeyFile.getString, KeyFile.getString, KeyFile.getString,
    KeyFile.getDouble, KeyFile.getInteger, KeyFile.getBoolean, KeyFile.getBoolean,
    hget (ascii "name") (.string rule.name) (by simp [saveKeys]),
    hget (ascii "metric") (.string rule.metric) (by simp [saveKeys]),
    hget (ascii "op") (.string (opName rule.op)) (by simp [saveKeys]),
    hget (ascii "threshold") (.double rule.threshold) (by simp [saveKeys]),
    hget (ascii "duration") (.integer (gint rule.durationS)) (by simp [saveKeys]),
    hget (ascii "enabled") (.boolean rule.enabled) (by simp [saveKeys]),
    hget (ascii "builtin") (.boolean rule.builtin) (by simp [saveKeys])]
  simp [isUtf8_opName]

/-- The groups that are read are those that were written. -/
theorem savedRules_saveRules (alerts : Alerts T) : savedRules V (saveRules alerts) =
    (alerts.rules.filter fun rule => isGroupName rule.id).map writtenRule := by
  rw [savedRules, groups_saveRules, List.map_map]
  refine List.map_congr_left fun rule hrule => ?_
  obtain ⟨hmem, hname⟩ := List.mem_filter.mp hrule
  exact savedRule_saveRules hmem hname

end File

section Reload

/-- The groups of a file that `load_rules` makes rules of: those with a metric. -/
def loadableRules (V : Type) [AlertArith V T] (file : List (SavedRule T)) : List (AlertRule T) :=
  (file.map (loadRule V)).filter fun rule => rule.metric ≠ []

omit [AlertArith V T] in
theorem tryAddRule_of_fresh {source : AlertRule T} (hroom : alerts.rules.length < MAX_RULES)
    (hfresh : source.id ∉ alerts.rules.map AlertRule.id) :
    (tryAddRule alerts source).rules = alerts.rules ++ [source] := by
  rw [tryAddRule, addRule, dif_pos ⟨hroom, findRule_eq_none.mpr hfresh⟩]
  rfl

theorem loadRules_cons (saved : SavedRule T) (file : List (SavedRule T)) :
    loadRules V alerts (saved :: file) = loadRules V
      (if (loadRule V saved).metric = [] then alerts else tryAddRule alerts (loadRule V saved))
      file := rfl

theorem loadableRules_cons (saved : SavedRule T) (file : List (SavedRule T)) :
    loadableRules V (saved :: file) =
      if (loadRule V saved).metric = [] then loadableRules V file
      else loadRule V saved :: loadableRules V file := by
  rw [loadableRules, List.map_cons, List.filter_cons]
  split <;> simp_all [loadableRules]

/-- With distinct ids and room for all, every rule with a metric is loaded. -/
theorem loadRules_rules {file : List (SavedRule T)}
    (hdistinct : (alerts.rules.map AlertRule.id ++
      (loadableRules V file).map AlertRule.id).Nodup)
    (hroom : alerts.rules.length + (loadableRules V file).length ≤ MAX_RULES) :
    (loadRules V alerts file).rules = alerts.rules ++ loadableRules V file := by
  induction file generalizing alerts with
  | nil => exact (List.append_nil _).symm
  | cons saved file ih =>
    rw [loadableRules_cons] at hdistinct hroom ⊢
    rw [loadRules_cons]
    by_cases hmetric : (loadRule V saved).metric = []
    · rw [if_pos hmetric] at hdistinct hroom ⊢
      rw [if_pos hmetric]
      exact ih hdistinct hroom
    · rw [if_neg hmetric, List.map_cons] at hdistinct
      rw [if_neg hmetric, List.length_cons] at hroom
      rw [if_neg hmetric, if_neg hmetric]
      have hfresh : (loadRule V saved).id ∉ alerts.rules.map AlertRule.id := fun hmem =>
        (List.nodup_append.mp hdistinct).2.2 _ hmem _ (List.mem_cons_self ..) rfl
      have hadd := tryAddRule_of_fresh (by omega) hfresh
      rw [ih, hadd, List.append_assoc, List.singleton_append]
      · rw [hadd, List.map_append, List.append_assoc]
        exact hdistinct
      · rw [hadd, List.length_append, List.length_singleton]
        omega

/-- The rule is there after a restart. -/
def isKept (rule : AlertRule T) : Bool :=
  isGroupName rule.id && isUtf8 rule.metric && rule.metric != []

/-- What a rule is after a restart. -/
def reloadRule (V : Type) [AlertArith V T] (rule : AlertRule T) : AlertRule T :=
  loadRule V (writtenRule rule)

variable {rule : AlertRule T}

theorem reloadRule_metric (h : RuleFits rule) :
    (reloadRule V rule).metric = if isUtf8 rule.metric then rule.metric else [] := by
  have hcut : (reloadRule V rule).metric =
      strlcpy METRIC_ID_MAX ((if isUtf8 rule.metric then some rule.metric else none).getD []) := rfl
  rw [hcut]
  split
  · exact Lib.strlcpy_eq_self h.metric h.metric_lt
  · rfl

theorem reloadRule_id (h : RuleFits rule) : (reloadRule V rule).id = rule.id :=
  Lib.strlcpy_eq_self h.id rule.id_lt

theorem reloadRule_name (h : RuleFits rule) :
    (reloadRule V rule).name = if isUtf8 rule.name then rule.name else rule.id := by
  have hcut : (reloadRule V rule).name = strlcpy ALERT_NAME_MAX
      ((if isUtf8 rule.name then some rule.name else none).getD rule.id) := rfl
  rw [hcut]
  split
  · exact Lib.strlcpy_eq_self h.name h.name_lt
  · exact Lib.strlcpy_eq_self h.id (rule.id_lt.trans (by decide))

theorem reloadRule_op (rule : AlertRule T) : (reloadRule V rule).op = rule.op := by
  have hop : ∀ op : AlertOp, opFrom (some (opName op)) = op := by
    intro op
    cases op <;> decide
  exact hop rule.op

/-- A rule that is kept may change its name, and nothing else. -/
theorem reloadRule_config (h : RuleFits rule) (hkept : isKept rule = true) :
    (reloadRule V rule).config =
      { rule.config with name := if isUtf8 rule.name then rule.name else rule.id } := by
  have hutf8 : isUtf8 rule.metric = true := by
    simp only [isKept, Bool.and_eq_true] at hkept
    exact hkept.1.2
  rw [AlertRule.config, reloadRule_id h, reloadRule_name h, reloadRule_metric h, if_pos hutf8,
    reloadRule_op, show (reloadRule V rule).durationS = rule.durationS from gint_emod h.durationS]
  rfl

/-- The rules after a restart, in their order. -/
theorem reload_rules (h : RulesFit alerts) (events : Bool) :
    (reload V events alerts).rules = (alerts.rules.filter isKept).map (reloadRule V) := by
  have hfile : loadableRules V (savedRules V (saveRules alerts)) =
      (alerts.rules.filter isKept).map (reloadRule V) := by
    rw [loadableRules, savedRules_saveRules, List.map_map, List.filter_map, List.filter_filter]
    refine congrArg (List.map (reloadRule V)) (List.filter_congr fun rule hrule => ?_)
    have hmetric : (reloadRule V rule).metric ≠ [] ↔
        isUtf8 rule.metric = true ∧ rule.metric ≠ [] := by
      rw [reloadRule_metric (h rule hrule)]
      split <;> simp_all
    rw [isKept, Bool.eq_iff_iff]
    simp only [Function.comp_apply, Bool.and_eq_true, decide_eq_true_eq, bne_iff_ne]
    rw [show loadRule V (writtenRule rule) = reloadRule V rule from rfl, hmetric]
    tauto
  have hids : ((alerts.rules.filter isKept).map (reloadRule V)).map AlertRule.id =
      (alerts.rules.filter isKept).map AlertRule.id := by
    rw [List.map_map]
    exact List.map_congr_left fun rule hrule =>
      reloadRule_id (h rule (List.mem_of_mem_filter hrule))
  refine (loadRules_rules ?_ ?_).trans (congrArg ([] ++ ·) hfile)
  · rw [hfile, hids]
    exact alerts.nodup.sublist (List.filter_sublist.map _)
  · have hlength := (List.length_filter_le isKept alerts.rules).trans alerts.count_le
    rw [hfile, List.length_map]
    exact (Nat.zero_add _).trans_le hlength

/-- The rules file can hold the rule. -/
structure RuleStorable (rule : AlertRule T) : Prop where
  group : isGroupName rule.id = true
  name : isUtf8 rule.name = true ∨ rule.name = rule.id
  metric : isUtf8 rule.metric = true
  metric_ne : rule.metric ≠ []

/-- A restart gives the same rules in the same order. -/
def SurvivesRestart (V : Type) [AlertArith V T] (alerts : Alerts T) : Prop :=
  (reload V alerts.events alerts).rules.map AlertRule.config = alerts.rules.map AlertRule.config

theorem survivesRestart_iff (h : RulesFit alerts) :
    SurvivesRestart V alerts ↔ ∀ rule ∈ alerts.rules, RuleStorable rule := by
  rw [SurvivesRestart, reload_rules h]
  constructor
  · intro hsame rule hrule
    have hlength : (alerts.rules.filter isKept).length = alerts.rules.length := by
      simpa using congrArg List.length hsame
    have hall := List.length_filter_eq_length_iff.mp hlength
    rw [List.filter_eq_self.mpr hall, List.map_map] at hsame
    have hconfig := List.map_inj_left.mp hsame rule hrule
    rw [Function.comp_apply, reloadRule_config (h rule hrule) (hall rule hrule)] at hconfig
    have hname := congrArg RuleConfig.name hconfig
    have hkept := hall rule hrule
    simp only [isKept, Bool.and_eq_true, bne_iff_ne] at hkept
    refine ⟨hkept.1.1, ?_, hkept.1.2, hkept.2⟩
    by_cases hutf8 : isUtf8 rule.name = true
    · exact Or.inl hutf8
    · exact Or.inr ((if_neg hutf8).symm.trans hname).symm
  · intro hall
    have hkept : ∀ rule ∈ alerts.rules, isKept rule = true := fun rule hrule => by
      obtain ⟨hgroup, -, hmetric, hne⟩ := hall rule hrule
      simp [isKept, hgroup, hmetric, hne]
    rw [List.filter_eq_self.mpr hkept, List.map_map]
    refine List.map_congr_left fun rule hrule => ?_
    rw [Function.comp_apply, reloadRule_config (h rule hrule) (hkept rule hrule)]
    have hname : (if isUtf8 rule.name then rule.name else rule.id) = rule.name := by
      split
      · rfl
      · next hnot => exact ((hall rule hrule).name.resolve_left hnot).symm
    rw [hname]
    rfl

end Reload

end AxisMetrics
