import AxisMetrics.Alerts.Saved
import AxisMetrics.Lib.Runs

/-!
# Requests and restarts

`alerts_apply` checks no field, and the rules file cannot hold every rule. A request leaves a table
that survives a restart exactly when the fields it sets can be read back, so a run of requests keeps
such a table exactly when each of them does (`requests_survive_iff`).
-/

namespace AxisMetrics

open Lib (Bytes ascii strlcpy isGroupName isUtf8 runFrom Always Throughout)

variable {V T : Type} [AlertArith V T] {alerts alerts' : Alerts T} {rule : AlertRule T}
variable {declare : Bytes → Bytes → ℕ} {body id : Bytes} {changed : Bool}

/-- The name in a request can be read back from the group of the id. -/
def NameStorable (body id : Bytes) : Prop :=
  ∀ name, apiQueryParam body (ascii "name") = some name →
    isUtf8 (strlcpy ALERT_NAME_MAX name) = true ∨ strlcpy ALERT_NAME_MAX name = id

/-- The metric in a request can be read back. -/
def MetricStorable (metric : Bytes) : Prop :=
  isUtf8 (strlcpy METRIC_ID_MAX metric) = true ∧ strlcpy METRIC_ID_MAX metric ≠ []

/-- A save sets the fields of a rule to values that can be read back. Without such a rule, one is
added if there is room and its id fits. -/
def RequestStorable (alerts : Alerts T) (body : Bytes) : Prop :=
  ∀ id, apiQueryParam body (ascii "action") = some (ascii "save") →
    apiQueryParam body (ascii "id") = some id →
    match findRule alerts id with
    | some rule => NameStorable body id ∧ (rule.builtin = false → ∀ metric,
        apiQueryParam body (ascii "metric") = some metric → MetricStorable metric)
    | none => alerts.rules.length < MAX_RULES → id.length < ALERT_ID_MAX →
        isGroupName id = true ∧ NameStorable body id ∧
          ∃ metric, apiQueryParam body (ascii "metric") = some metric ∧ MetricStorable metric

/-- One request; `none` where the code crashes. -/
def applyStep (V : Type) [AlertArith V T] (declare : Bytes → Bytes → ℕ) (alerts : Alerts T)
    (body : Bytes) : Option (Alerts T) :=
  (alertsApply V declare alerts body).map Prod.fst

/-- A parameter is a C string. -/
theorem zero_notMem_apiQueryParam {query name value : Bytes}
    (h : apiQueryParam query name = some value) : 0 ∉ value := by
  obtain ⟨part, -, hpart⟩ := List.exists_of_findSome?_eq_some h
  split at hpart
  · obtain rfl := Option.some.inj hpart
    exact Lib.zero_notMem_cString _
  · cases hpart

omit [AlertArith V T] in
theorem RuleStorable.congr {rule' : AlertRule T} (h : rule'.config = rule.config)
    (hrule : RuleStorable rule) : RuleStorable rule' := by
  have hid : rule'.id = rule.id := congrArg RuleConfig.id h
  have hname : rule'.name = rule.name := congrArg RuleConfig.name h
  have hmetric : rule'.metric = rule.metric := congrArg RuleConfig.metric h
  exact ⟨hid ▸ hrule.group, by rw [hid, hname]; exact hrule.name, hmetric ▸ hrule.metric,
    hmetric ▸ hrule.metric_ne⟩

theorem saveRule_config (events : Bool) (rule : AlertRule T) :
    (saveRule V events declare body rule).config = (saveFields V body rule).config :=
  declareRule_config events _

theorem ruleStorable_saveRule (events : Bool) : RuleStorable (saveRule V events declare body rule) ↔
    RuleStorable (saveFields V body rule) :=
  ⟨RuleStorable.congr (saveRule_config events rule).symm,
    RuleStorable.congr (saveRule_config events rule)⟩

/-- The name after a save; an empty one is replaced by the id. -/
theorem nameStorable_iff (body : Bytes) (hfits : RuleFits rule)
    (hold : isUtf8 rule.name = true ∨ rule.name = rule.id) :
    (isUtf8 (saveFields V body rule).name = true ∨ (saveFields V body rule).name = rule.id) ↔
      NameStorable body rule.id := by
  have hid : strlcpy ALERT_NAME_MAX rule.id = rule.id :=
    Lib.strlcpy_eq_self hfits.id (rule.id_lt.trans (by decide))
  have hsaved : ∀ name, ((apiQueryParam body (ascii "name")).map (strlcpy ALERT_NAME_MAX)).getD
      rule.name = name → (saveFields V body rule).name = if name = [] then rule.id else name := by
    rintro name rfl
    rw [saveFields, hid]
  unfold NameStorable
  cases hname : apiQueryParam body (ascii "name") with
  | none =>
    rw [hsaved rule.name (by rw [hname]; rfl)]
    refine iff_of_true ?_ (by simp)
    split
    · exact Or.inr rfl
    · exact hold
  | some name =>
    rw [hsaved (strlcpy ALERT_NAME_MAX name) (by rw [hname]; rfl)]
    simp only [Option.some.injEq, forall_eq']
    by_cases hempty : strlcpy ALERT_NAME_MAX name = []
    · rw [if_pos hempty, hempty]
      exact iff_of_true (Or.inr rfl) (Or.inl rfl)
    · rw [if_neg hempty]

theorem saveFields_metric (rule : AlertRule T) : (saveFields V body rule).metric =
    if rule.builtin then rule.metric
    else ((apiQueryParam body (ascii "metric")).map (strlcpy METRIC_ID_MAX)).getD rule.metric := rfl

/-- A save of a rule that the file can hold. -/
theorem ruleStorable_saveFields (hfits : RuleFits rule) (hrule : RuleStorable rule) :
    RuleStorable (saveFields V body rule) ↔ NameStorable body rule.id ∧
      (rule.builtin = false → ∀ metric, apiQueryParam body (ascii "metric") = some metric →
        MetricStorable metric) := by
  have hmetric : (isUtf8 (saveFields V body rule).metric = true ∧
      (saveFields V body rule).metric ≠ []) ↔ (rule.builtin = false → ∀ metric,
        apiQueryParam body (ascii "metric") = some metric → MetricStorable metric) := by
    rw [saveFields_metric]
    cases rule.builtin with
    | true => exact iff_of_true ⟨hrule.metric, hrule.metric_ne⟩ nofun
    | false =>
      cases apiQueryParam body (ascii "metric") with
      | none => exact iff_of_true ⟨hrule.metric, hrule.metric_ne⟩ fun _ => nofun
      | some metric => simp [MetricStorable]
  rw [← nameStorable_iff (V := V) body hfits hrule.name, ← hmetric]
  constructor
  · exact fun h => ⟨h.name, h.metric, h.metric_ne⟩
  · exact fun h => ⟨hrule.group, h.1, h.2.1, h.2.2⟩

/-- The first save of a rule. -/
theorem ruleStorable_saveFields_cleared (hid : (clearedRule V id).id = id) :
    RuleStorable (saveFields V body (clearedRule V id)) ↔ isGroupName id = true ∧
      NameStorable body id ∧
        ∃ metric, apiQueryParam body (ascii "metric") = some metric ∧ MetricStorable metric := by
  have hmetric : (isUtf8 (saveFields V body (clearedRule V id)).metric = true ∧
      (saveFields V body (clearedRule V id)).metric ≠ []) ↔
        ∃ metric, apiQueryParam body (ascii "metric") = some metric ∧ MetricStorable metric := by
    have hsaved : (saveFields V body (clearedRule V id)).metric =
        ((apiQueryParam body (ascii "metric")).map (strlcpy METRIC_ID_MAX)).getD [] := rfl
    rw [hsaved]
    cases apiQueryParam body (ascii "metric") with
    | none => exact iff_of_false (fun h => h.2 rfl) (by simp)
    | some metric => simp [MetricStorable]
  have hname := nameStorable_iff (V := V) body (ruleFits_clearedRule (V := V) id)
    (Or.inl rfl)
  have hsaved : (saveFields V body (clearedRule V id)).id = id := hid
  rw [hid] at hname
  rw [← hname, ← hmetric]
  constructor
  · intro h
    have hgroup := h.group
    have hnameOk := h.name
    rw [hsaved] at hgroup hnameOk
    exact ⟨hgroup, hnameOk, h.metric, h.metric_ne⟩
  · intro h
    refine ⟨?_, ?_, h.2.2.1, h.2.2.2⟩
    · rw [hsaved]
      exact h.1
    · rw [hsaved]
      exact h.2.1

/-- A save that finds its rule changes it. -/
theorem alertsApply_save (declare : Bytes → Bytes → ℕ)
    (haction : apiQueryParam body (ascii "action") = some (ascii "save"))
    (hid : apiQueryParam body (ascii "id") = some rule.id) (hrule : rule ∈ alerts.rules) :
    ∃ alerts', alertsApply V declare alerts body = some (alerts', true) ∧
      alerts'.rules = alerts.rules.map fun other =>
        if other.id = rule.id then saveRule V alerts.events declare body other else other := by
  refine ⟨updateRule alerts rule.id (saveRule V alerts.events declare body)
    fun _ => declareRule_id _ _ _, ?_, rfl⟩
  unfold alertsApply
  rw [haction, hid]
  dsimp only
  rw [if_neg (by decide +kernel), if_pos rfl, applySave, findRule_of_mem hrule,
    Option.isSome_some, if_pos rfl]
  dsimp only
  rw [findRule_of_mem hrule]

/-- A save that finds no rule adds one, where there is room and the id fits. -/
theorem alertsApply_save_new (declare : Bytes → Bytes → ℕ)
    (haction : apiQueryParam body (ascii "action") = some (ascii "save"))
    (hid : apiQueryParam body (ascii "id") = some id) (hnone : findRule alerts id = none)
    (hroom : alerts.rules.length < MAX_RULES) (hfits : (clearedRule V id).id = id) :
    ∃ alerts', alertsApply V declare alerts body = some (alerts', true) ∧
      saveRule V alerts.events declare body (clearedRule V id) ∈ alerts'.rules := by
  obtain ⟨added, hadd⟩ : ∃ added, addRule alerts (clearedRule V id) = some added := by
    rw [addRule, dif_pos ⟨hroom, by rw [hfits]; exact hnone⟩]
    exact ⟨_, rfl⟩
  obtain ⟨-, hrules, hevents, -⟩ := addRule_rules hadd
  have hmem : clearedRule V id ∈ added.rules := by simp [hrules]
  have hfind := findRule_of_mem hmem
  rw [hfits] at hfind
  refine ⟨updateRule added id (saveRule V added.events declare body)
    fun _ => declareRule_id _ _ _, ?_, ?_⟩
  · unfold alertsApply
    rw [haction, hid]
    dsimp only
    rw [if_neg (by decide +kernel), if_pos rfl, applySave, hnone, Option.isSome_none,
      if_neg Bool.false_ne_true, hadd]
    dsimp only
    rw [hfind]
  · rw [← hevents]
    exact List.mem_map.mpr ⟨clearedRule V id, hmem, if_pos hfits⟩

/-- A request that sets readable fields leaves a table that the rules file can hold. -/
theorem RequestStorable.apply (h : RequestStorable alerts body) (hfit : RulesFit alerts)
    (hrules : ∀ rule ∈ alerts.rules, RuleStorable rule)
    (happly : alertsApply V declare alerts body = some (alerts', changed)) :
    ∀ rule ∈ alerts'.rules, RuleStorable rule := by
  intro rule' hrule'
  rcases alertsApply_cases happly with rfl | ⟨rule, -, -, -, -, hafter, -⟩ |
    ⟨id, haction, hid, hsome, hafter, -⟩ | ⟨id, haction, hid, ⟨hnone, hroom, hfits⟩, hafter, -⟩
  · exact hrules rule' hrule'
  · rw [hafter] at hrule'
    exact hrules rule' (List.mem_of_mem_eraseP hrule')
  · rw [hafter] at hrule'
    obtain ⟨rule, hrule, rfl⟩ := List.mem_map.mp hrule'
    by_cases hsame : rule.id = id
    · have hrequest := h id haction hid
      rw [← hsame, findRule_of_mem hrule] at hrequest
      rw [if_pos hsame, ruleStorable_saveRule,
        ruleStorable_saveFields (hfit rule hrule) (hrules rule hrule)]
      exact hrequest
    · rw [if_neg hsame]
      exact hrules rule hrule
  · rw [hafter] at hrule'
    obtain ⟨rule, hrule, rfl⟩ := List.mem_map.mp hrule'
    rcases List.mem_append.mp hrule with hold | hnew
    · have hsame : rule.id ≠ id := by
        rintro rfl
        rw [findRule_of_mem hold] at hnone
        cases hnone
      rw [if_neg hsame]
      exact hrules rule hold
    · obtain rfl := List.mem_singleton.mp hnew
      have hrequest := h id haction hid
      rw [hnone] at hrequest
      rw [if_pos hfits, ruleStorable_saveRule, ruleStorable_saveFields_cleared hfits]
      exact hrequest hroom (hfits ▸ (clearedRule V id).id_lt)

/-- A request that does not leaves one that it cannot hold. -/
theorem not_storable_of_request (declare : Bytes → Bytes → ℕ)
    (h : ¬ RequestStorable alerts body) (hfit : RulesFit alerts)
    (hrules : ∀ rule ∈ alerts.rules, RuleStorable rule) :
    ∃ alerts', applyStep V declare alerts body = some alerts' ∧
      ¬ ∀ rule ∈ alerts'.rules, RuleStorable rule := by
  unfold RequestStorable at h
  push Not at h
  obtain ⟨id, haction, hid, hbad⟩ := h
  cases hfind : findRule alerts id with
  | some rule =>
    rw [hfind] at hbad
    obtain ⟨hrule, rfl⟩ := findRule_eq_some hfind
    obtain ⟨alerts', happly, hafter⟩ := alertsApply_save (V := V) declare haction hid hrule
    have hmem : saveRule V alerts.events declare body rule ∈ alerts'.rules := by
      rw [hafter]
      exact List.mem_map.mpr ⟨rule, hrule, if_pos rfl⟩
    refine ⟨alerts', by rw [applyStep, happly]; rfl, fun hall => hbad ?_⟩
    have hsaved := ruleStorable_saveRule alerts.events |>.mp (hall _ hmem)
    exact (ruleStorable_saveFields (hfit rule hrule) (hrules rule hrule)).mp hsaved
  | none =>
    rw [hfind] at hbad
    push Not at hbad
    obtain ⟨hroom, hlt, hbad⟩ := hbad
    have hfits : (clearedRule V id).id = id :=
      Lib.strlcpy_eq_self (zero_notMem_apiQueryParam hid) hlt
    obtain ⟨alerts', happly, hmem⟩ :=
      alertsApply_save_new (V := V) declare haction hid hfind hroom hfits
    refine ⟨alerts', by rw [applyStep, happly]; rfl, fun hall => ?_⟩
    have hsaved := ruleStorable_saveRule alerts.events |>.mp (hall _ hmem)
    obtain ⟨hgroup, hname, metric, hmetric, hstorable⟩ :=
      (ruleStorable_saveFields_cleared hfits).mp hsaved
    exact hbad hgroup hname metric hmetric hstorable

theorem RulesFit.applyStep (hfit : RulesFit alerts)
    (hstep : applyStep V declare alerts body = some alerts') : RulesFit alerts' := by
  obtain ⟨⟨_, changed⟩, happly, rfl⟩ := Option.map_eq_some_iff.mp hstep
  exact hfit.alertsApply happly

/-- The rules fit their buffers after any requests. -/
theorem rulesFit_runFrom {requests : List Bytes} (hfit : RulesFit alerts)
    (hrun : runFrom (applyStep V declare) alerts requests = some alerts') : RulesFit alerts' := by
  induction requests generalizing alerts with
  | nil => exact Option.some.inj hrun ▸ hfit
  | cons body requests ih =>
    obtain ⟨next, hstep, hrest⟩ := Option.bind_eq_some_iff.mp hrun
    exact ih (hfit.applyStep hstep) hrest

/-- In a run of requests, every table survives a restart exactly if the first one does and each
request sets fields that can be read back. -/
theorem requests_survive_iff (registry : MetricRegistry) (events : Bool)
    (declare : Bytes → Bytes → ℕ) (file : List (SavedRule T)) (requests : List Bytes) :
    Always (applyStep V declare) (alertsNew V registry events declare file) requests
        (SurvivesRestart V) ↔
      (∀ rule ∈ (alertsNew V registry events declare file).rules, RuleStorable rule) ∧
        Throughout (applyStep V declare) (alertsNew V registry events declare file) requests
          RequestStorable := by
  have hfit : RulesFit (alertsNew V registry events declare file) :=
    rulesFit_alertsNew registry events file
  have hrun : SurvivesRestart V (alertsNew V registry events declare file) →
      (Always (applyStep V declare) (alertsNew V registry events declare file) requests
        (SurvivesRestart V) ↔ Throughout (applyStep V declare)
          (alertsNew V registry events declare file) requests RequestStorable) := by
    intro hstart
    refine Lib.always_iff_throughout RulesFit hfit hstart ?_ ?_ ?_
    · exact fun alerts body alerts' hfit hstep => hfit.applyStep hstep
    · intro alerts body alerts' hfit hsurvives hrequest hstep
      obtain ⟨⟨_, changed⟩, happly, rfl⟩ := Option.map_eq_some_iff.mp hstep
      exact (survivesRestart_iff (hfit.alertsApply happly)).mpr
        (hrequest.apply hfit ((survivesRestart_iff hfit).mp hsurvives) happly)
    · intro alerts body hfit hsurvives hbad
      obtain ⟨alerts', hstep, hnot⟩ := not_storable_of_request (V := V) declare hbad
        hfit ((survivesRestart_iff hfit).mp hsurvives)
      exact ⟨alerts', hstep, fun h => hnot ((survivesRestart_iff (hfit.applyStep hstep)).mp h)⟩
  constructor
  · intro h
    have hstart := h [] _ List.nil_prefix rfl
    exact ⟨(survivesRestart_iff hfit).mp hstart, (hrun hstart).mp h⟩
  · rintro ⟨hstart, hall⟩
    exact (hrun ((survivesRestart_iff hfit).mpr hstart)).mpr hall

/-- A request without a metric is accepted, and a restart drops its rule. -/
theorem not_survivesRestart_noMetric : ∃ alerts' : Alerts ℤ,
    alertsApply (Option ℤ) (fun _ _ => 0)
      (alertsNew (Option ℤ) ⟨[]⟩ true (fun _ _ => 0) []) (ascii "action=save&id=door") =
        some (alerts', true) ∧
    ¬ SurvivesRestart (Option ℤ) alerts' := by
  have haction : apiQueryParam (ascii "action=save&id=door") (ascii "action") =
      some (ascii "save") := by decide +kernel
  have hid : apiQueryParam (ascii "action=save&id=door") (ascii "id") = some (ascii "door") := by
    decide +kernel
  have hnone : findRule (alertsNew (Option ℤ) ⟨[]⟩ true (fun _ _ => 0) []) (ascii "door") = none := by
    decide +kernel
  obtain ⟨alerts', happly, hmem⟩ := alertsApply_save_new (V := Option ℤ) (fun _ _ => 0) haction hid
    hnone (by decide +kernel) (by decide +kernel)
  refine ⟨alerts', happly, fun hsurvives => ?_⟩
  have hfit := (rulesFit_alertsNew (V := Option ℤ) _ _ _).alertsApply happly
  have hstorable := (survivesRestart_iff hfit).mp hsurvives _ hmem
  exact hstorable.metric_ne (by decide +kernel)

end AxisMetrics
