import AxisMetrics.Alerts.Firing
import AxisMetrics.Alerts.Restart
import AxisMetrics.Collect.Registry

/-!
# Retuned built-in rules

A start of the process and a rebuild for new storage make the table from the rules file, and what
they leave is saved. A built-in rule without its metric is pruned, and the file forgets it, so the
settings of a retuned rule last exactly as long as the rule is expected (`settings_last_iff`).
-/

namespace AxisMetrics

open Lib (Bytes ascii strlcpy runFrom)

variable {V T : Type} [AlertArith V T] {alerts alerts' : Alerts T} {rule : AlertRule T}

/-- What a process finds when the rules are made: the metrics, whether there is an event handler,
and the declarations it gives. -/
structure Boot where
  registry : MetricRegistry
  events : Bool
  declare : Bytes → Bytes → ℕ

/-- A start of the process or `rebuild_for_new_storage`, after the table that was saved last. -/
def bootAlerts (V : Type) [AlertArith V T] (alerts : Alerts T) (boot : Boot) : Alerts T :=
  alertsNew V boot.registry boot.events boot.declare (savedRules V (saveRules alerts))

/-- What happens to the rules while no one edits them. -/
inductive UptimeEvent (V : Type) where
  | boot (boot : Boot)
  | evaluate (registry : MetricRegistry) (now : ℤ) (values : Fin registry.count → V)

def uptimeStep (alerts : Alerts T) : UptimeEvent V → Alerts T
  | .boot boot => bootAlerts V alerts boot
  | .evaluate _ now values => (alertsEvaluate alerts now values).1

/-- What a user tunes of a built-in rule. -/
structure RuleSettings (T : Type) where
  op : AlertOp
  threshold : T
  durationS : ℕ
  enabled : Bool
  deriving DecidableEq

def RuleConfig.settings (config : RuleConfig T) : RuleSettings T :=
  ⟨config.op, config.threshold, config.durationS, config.enabled⟩

def AlertRule.settings (rule : AlertRule T) : RuleSettings T := rule.config.settings

/-- The built-in rule of that id is one of the device. -/
def IsExpected (registry : MetricRegistry) (id : Bytes) : Prop :=
  id ∈ (expectedRules registry).map BuiltinRule.id

/-- A boot finds the rule in the file, and the device still has its metric. -/
def KeepsRule (rule : AlertRule T) : UptimeEvent V → Prop
  | .boot boot => isKept rule = true ∧ IsExpected boot.registry rule.id
  | .evaluate _ _ _ => True

/-- The settings are not the ones that a boot gives a new rule of that id. -/
def IsRetuned (V : Type) [AlertArith V T] (rule : AlertRule T) : UptimeEvent V → Prop
  | .boot boot => ∀ expected ∈ expectedRules boot.registry,
      (builtinRule V expected).id = rule.id → (builtinRule V expected).settings ≠ rule.settings
  | .evaluate _ _ _ => True

/-- The table has the rule with its settings. -/
def HasSettings (rule : AlertRule T) (alerts : Alerts T) : Prop :=
  ∃ rule' ∈ alerts.rules, rule'.id = rule.id ∧ rule'.settings = rule.settings

/-- The table has the rule, as a boot can keep it. -/
def HoldsRule (rule : AlertRule T) (alerts : Alerts T) : Prop :=
  ∃ rule' ∈ alerts.rules, rule'.id = rule.id ∧ rule'.settings = rule.settings ∧
    rule'.metric = rule.metric ∧ rule'.builtin = true

section Boot

theorem declareRule_settings (boot : Boot) (rule : AlertRule T) :
    (declareRule boot.events boot.declare rule).settings = rule.settings :=
  congrArg RuleConfig.settings (declareRule_config boot.events rule)

theorem reloadRule_settings (hfit : RuleFits rule) (hkept : isKept rule = true) :
    (reloadRule V rule).settings = rule.settings :=
  (congrArg RuleConfig.settings (reloadRule_config hfit hkept)).trans rfl

/-- Where the rules of a table after a boot come from: the table before, or the code. -/
theorem mem_bootAlerts {boot : Boot} (hfit : RulesFit alerts)
    (h : rule ∈ (bootAlerts V alerts boot).rules) :
    (∃ old ∈ alerts.rules, isKept old = true ∧ old.id = rule.id ∧ old.settings = rule.settings ∧
      (old.builtin = true → IsExpected boot.registry old.id)) ∨
    ∃ expected ∈ expectedRules boot.registry, (builtinRule V expected).id = rule.id ∧
      (builtinRule V expected).settings = rule.settings := by
  obtain ⟨kept, rfl, hfrom, hexpected⟩ := mem_alertsNew h
  rw [declareRule_id, declareRule_settings]
  rcases hfrom with hloaded | ⟨expected, hmem, rfl⟩
  · obtain ⟨old, hold, rfl⟩ := List.mem_map.mp (reload_rules (V := V) hfit boot.events ▸ hloaded)
    obtain ⟨hmem, hkept⟩ := List.mem_filter.mp hold
    have hid := reloadRule_id (V := V) (hfit old hmem)
    refine Or.inl ⟨old, hmem, hkept, hid.symm, (reloadRule_settings (hfit old hmem) hkept).symm, ?_⟩
    exact fun hbuiltin => hid ▸ hexpected hbuiltin
  · exact Or.inr ⟨expected, hmem, rfl, rfl⟩

/-- A rule that the file holds and the device has is in the table after a boot. -/
theorem mem_bootAlerts_of_mem {boot : Boot} (hfit : RulesFit alerts) (h : rule ∈ alerts.rules)
    (hkept : isKept rule = true) (hexpected : IsExpected boot.registry rule.id) :
    declareRule boot.events boot.declare (reloadRule V rule) ∈
      (bootAlerts V alerts boot).rules := by
  have hmem : reloadRule V rule ∈ (reload V boot.events alerts).rules := by
    rw [reload_rules hfit]
    exact List.mem_map_of_mem (List.mem_filter.mpr ⟨h, hkept⟩)
  exact mem_alertsNew_iff.mpr ⟨_, mem_addBuiltins_of_mem hmem,
    fun _ => (reloadRule_id (V := V) (hfit rule h)).symm ▸ hexpected, rfl⟩

end Boot

section Uptime

variable {event : UptimeEvent V} {events : List (UptimeEvent V)}

theorem evaluateRule_config {registry : MetricRegistry} (notifies notify : Bool) (now : ℤ)
    (values : Fin registry.count → V) (rule : AlertRule T) :
    (evaluateRule notifies notify now values rule).1.config = rule.config := by
  obtain ⟨hid, hname, hmetric, hop, hthreshold, hduration, henabled, hbuiltin, -⟩ :=
    evaluateRule_sameConfig notifies notify now values rule
  rw [AlertRule.config, hid, hname, hmetric, hop, hthreshold, hduration, henabled, hbuiltin]
  rfl

theorem RulesFit.uptimeStep (h : RulesFit alerts) (event : UptimeEvent V) :
    RulesFit (uptimeStep alerts event) := by
  cases event with
  | boot boot => exact rulesFit_alertsNew boot.registry boot.events _
  | evaluate registry now values =>
    intro rule' hrule'
    obtain ⟨rule, hrule, rfl⟩ := List.mem_map.mp hrule'
    exact (h rule hrule).congr (evaluateRule_config alerts.events alerts.notify now values rule)

/-- A step that keeps the rule keeps its settings. -/
theorem HoldsRule.step (h : HoldsRule rule alerts) (hfit : RulesFit alerts)
    (hkeep : KeepsRule rule event) : HoldsRule rule (uptimeStep alerts event) := by
  obtain ⟨old, hold, hid, hsettings, hmetric, hbuiltin⟩ := h
  cases event with
  | boot boot =>
    obtain ⟨hkept, hexpected⟩ := hkeep
    have hsame : isKept old = true := by
      rw [← hkept, isKept, isKept, hid, hmetric]
    have hmem := mem_bootAlerts_of_mem (V := V) hfit hold hsame (hid.symm ▸ hexpected)
    have hdeclared : (declareRule boot.events boot.declare (reloadRule V old)).config =
        (reloadRule V old).config := declareRule_config boot.events _
    have hconfig := hdeclared.trans (reloadRule_config (hfit old hold) hsame)
    refine ⟨_, hmem, ?_, ?_, ?_, ?_⟩
    · exact (congrArg RuleConfig.id hconfig).trans hid
    · exact (congrArg RuleConfig.settings hconfig).trans hsettings
    · exact (congrArg RuleConfig.metric hconfig).trans hmetric
    · exact (congrArg RuleConfig.builtin hconfig).trans hbuiltin
  | evaluate registry now values =>
    have hconfig := evaluateRule_config alerts.events alerts.notify now values old
    refine ⟨_, List.mem_map_of_mem hold, ?_, ?_, ?_, ?_⟩
    · exact (congrArg RuleConfig.id hconfig).trans hid
    · exact (congrArg RuleConfig.settings hconfig).trans hsettings
    · exact (congrArg RuleConfig.metric hconfig).trans hmetric
    · exact (congrArg RuleConfig.builtin hconfig).trans hbuiltin

/-- Settings that are lost do not come back. -/
theorem not_hasSettings_step (h : ¬ HasSettings rule alerts) (hfit : RulesFit alerts)
    (hretuned : IsRetuned V rule event) : ¬ HasSettings rule (uptimeStep alerts event) := by
  rintro ⟨rule', hrule', hid, hsettings⟩
  cases event with
  | boot boot =>
    rcases mem_bootAlerts hfit hrule' with ⟨old, hold, -, holdId, holdSettings, -⟩ |
      ⟨expected, hexpected, hexpectedId, hdefault⟩
    · exact h ⟨old, hold, holdId.trans hid, holdSettings.trans hsettings⟩
    · exact hretuned expected hexpected (hexpectedId.trans hid) (hdefault.trans hsettings)
  | evaluate registry now values =>
    obtain ⟨old, hold, rfl⟩ := List.mem_map.mp hrule'
    have hconfig := evaluateRule_config alerts.events alerts.notify now values old
    exact h ⟨old, hold, (congrArg RuleConfig.id hconfig).symm.trans hid,
      (congrArg RuleConfig.settings hconfig).symm.trans hsettings⟩

/-- A boot that does not keep the rule loses its settings. -/
theorem HoldsRule.lost (h : HoldsRule rule alerts) (hfit : RulesFit alerts)
    (hretuned : IsRetuned V rule event) (hnot : ¬ KeepsRule rule event) :
    ¬ HasSettings rule (uptimeStep alerts event) := by
  obtain ⟨held, hheld, hid, hsettings, hmetric, hbuiltin⟩ := h
  rintro ⟨rule', hrule', hid', hsettings'⟩
  cases event with
  | boot boot =>
    rcases mem_bootAlerts hfit hrule' with ⟨old, hold, hkept, holdId, holdSettings, hexpected⟩ |
      ⟨expected, hexpected, hexpectedId, hdefault⟩
    · -- ids are distinct, so what was read is the rule that was held
      obtain rfl : old = held := eq_of_id hold hheld (holdId.trans (hid'.trans hid.symm))
      refine hnot ⟨?_, hid ▸ hexpected hbuiltin⟩
      rw [← hkept, isKept, isKept, hid, hmetric]
    · exact hretuned expected hexpected (hexpectedId.trans hid') (hdefault.trans hsettings')
  | evaluate registry now values => exact hnot trivial

theorem not_hasSettings_foldl (h : ¬ HasSettings rule alerts) (hfit : RulesFit alerts)
    (hretuned : ∀ event ∈ events, IsRetuned V rule event) :
    ¬ HasSettings rule (events.foldl uptimeStep alerts) := by
  induction events generalizing alerts with
  | nil => exact h
  | cons event events ih =>
    obtain ⟨hevent, hevents⟩ := List.forall_mem_cons.mp hretuned
    exact ih (not_hasSettings_step h hfit hevent) (hfit.uptimeStep event) hevents

theorem hasSettings_foldl_iff (h : HoldsRule rule alerts) (hfit : RulesFit alerts)
    (hretuned : ∀ event ∈ events, IsRetuned V rule event) :
    HasSettings rule (events.foldl uptimeStep alerts) ↔
      ∀ event ∈ events, KeepsRule rule event := by
  induction events generalizing alerts with
  | nil =>
    obtain ⟨held, hheld, hid, hsettings, -⟩ := h
    exact iff_of_true ⟨held, hheld, hid, hsettings⟩ (by simp)
  | cons event events ih =>
    obtain ⟨hevent, hevents⟩ := List.forall_mem_cons.mp hretuned
    rw [List.foldl_cons, List.forall_mem_cons]
    by_cases hkeep : KeepsRule rule event
    · rw [ih (h.step hfit hkeep) (hfit.uptimeStep event) hevents]
      exact ⟨fun hrest => ⟨hkeep, hrest⟩, And.right⟩
    · exact iff_of_false
        (not_hasSettings_foldl (h.lost hfit hevent hkeep) (hfit.uptimeStep event) hevents)
        fun hall => hkeep hall.1

/-- The settings of a retuned built-in rule last through boots and evaluations exactly as long as
each boot keeps the rule. -/
theorem settings_last_iff (registry : MetricRegistry) (hasEvents : Bool)
    (declare : Bytes → Bytes → ℕ) (file : List (SavedRule T)) (requests : List Bytes)
    (hrun : runFrom (applyStep V declare) (alertsNew V registry hasEvents declare file) requests =
      some alerts)
    (hrule : rule ∈ alerts.rules) (hbuiltin : rule.builtin = true)
    (hretuned : ∀ event ∈ events, IsRetuned V rule event) :
    HasSettings rule (events.foldl uptimeStep alerts) ↔
      ∀ event ∈ events, KeepsRule rule event :=
  hasSettings_foldl_iff ⟨rule, hrule, rfl, rfl, rfl, hbuiltin⟩
    (rulesFit_runFrom (rulesFit_alertsNew registry hasEvents file) hrun) hretuned

end Uptime

section Example

/-- A boot with the card mounted, and how the device boots while it is not. -/
def cardBoot : Boot :=
  ⟨(tableMachine (ascii "/dev/mmcblk0p1 /var/spool/storage/SD_DISK ext4 rw 0 0\n")).registry, true,
    fun _ _ => 1⟩

def cardlessBoot : Boot := ⟨(tableMachine []).registry, true, fun _ _ => 1⟩

/-- The first table of the device. -/
def cardTable : Alerts ℤ := alertsNew (Option ℤ) cardBoot.registry true cardBoot.declare []

/-- The user wants to hear of the card later and sooner after that. -/
def cardTuned : Bytes := ascii "action=save&id=storage_full_SD_DISK&threshold=97&duration=60"

/-- The table after that. -/
def tunedTable : Alerts ℤ :=
  (applyStep (Option ℤ) cardBoot.declare cardTable cardTuned).getD cardTable

/-- The rule after that. -/
def tunedRule : AlertRule ℤ :=
  { builtinRule (Option ℤ) ⟨ascii "storage_full_SD_DISK", ascii "SD_DISK almost full",
      ascii "fs.SD_DISK.usage", 97, 60⟩ with declaration := 1 }

/-- The card is mounted too late for one boot, and in time for the next. -/
def lateBoots : List (UptimeEvent (Option ℤ)) := [.boot cardlessBoot, .boot cardBoot]

/-- What the tables hold. It is one evaluation, since each makes the registries anew. -/
theorem cardTables :
    (applyStep (Option ℤ) cardBoot.declare cardTable cardTuned).isSome ∧
    tunedRule ∈ tunedTable.rules ∧
    (∀ expected ∈ expectedRules cardBoot.registry,
      (builtinRule (Option ℤ) expected).id = tunedRule.id →
        (builtinRule (Option ℤ) expected).settings ≠ tunedRule.settings) ∧
    (∀ rule ∈ (lateBoots.foldl uptimeStep tunedTable).rules, rule.id = tunedRule.id →
      rule.settings ≠ tunedRule.settings) ∧
    ∃ rule ∈ (lateBoots.foldl uptimeStep tunedTable).rules,
      rule.id = tunedRule.id ∧ rule.threshold = 90 ∧ rule.durationS = 300 := by
  decide +kernel

theorem runFrom_cardTuned :
    runFrom (applyStep (Option ℤ) cardBoot.declare) cardTable [cardTuned] = some tunedTable := by
  obtain ⟨alerts, halerts⟩ := Option.isSome_iff_exists.mp cardTables.1
  rw [runFrom, tunedTable, halerts]
  rfl

/-- A day of the device: a sample, and a reboot after the card was mounted. -/
def mountedBoots : List (UptimeEvent (Option ℤ)) :=
  [.evaluate cardBoot.registry 1000 (fun _ => some 50), .boot cardBoot]

end Example

theorem settings_last_iff_reboot : HasSettings tunedRule (mountedBoots.foldl uptimeStep tunedTable) ↔
    ∀ event ∈ mountedBoots, KeepsRule tunedRule event := by
  obtain ⟨-, hmem, hretuned, -⟩ := cardTables
  refine settings_last_iff cardBoot.registry true cardBoot.declare [] [cardTuned] runFrom_cardTuned
    hmem rfl fun event hevent => ?_
  obtain rfl | hboot := List.mem_cons.mp hevent
  · trivial
  · rw [List.mem_singleton.mp hboot]
    exact hretuned

/-- A rule that was retuned has the settings of the code again after them. -/
theorem not_settings_last :
    runFrom (applyStep (Option ℤ) cardBoot.declare) cardTable [cardTuned] = some tunedTable ∧
      tunedRule ∈ tunedTable.rules ∧ tunedRule.builtin = true ∧
      ¬ HasSettings tunedRule (lateBoots.foldl uptimeStep tunedTable) ∧
      ∃ rule ∈ (lateBoots.foldl uptimeStep tunedTable).rules,
        rule.id = tunedRule.id ∧ rule.threshold = 90 ∧ rule.durationS = 300 := by
  obtain ⟨-, hmem, -, hlost, hdefault⟩ := cardTables
  refine ⟨runFrom_cardTuned, hmem, rfl, ?_, hdefault⟩
  rintro ⟨rule, hrule, hid, hsettings⟩
  exact hlost rule hrule hid hsettings

end AxisMetrics
