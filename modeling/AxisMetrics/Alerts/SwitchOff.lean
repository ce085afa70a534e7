import AxisMetrics.Alerts.Document
import AxisMetrics.Alerts.Frame

/-!
# Rules that are switched off

An evaluation skips a rule that is off, whatever its flag. So no rule fires that is off just as long
as no save switches off a rule while it fires (`offIsSilent_iff`); after such a save the rule goes on
firing, and nothing is sent about it.
-/

namespace AxisMetrics

open Lib (Bytes ascii runFrom Always Throughout)

variable {V T : Type} [AlertArith V T] {registry : MetricRegistry} {alerts alerts' : Alerts T}
variable {rule : AlertRule T} {declare : Bytes → Bytes → ℕ} {body : Bytes} {now : ℤ}
variable {values : Fin registry.count → V}

/-- No rule fires that is off. -/
def OffRulesRest (alerts : Alerts T) : Prop :=
  ∀ rule ∈ alerts.rules, rule.enabled = false → rule.firing = false

/-- The rule as it would be shown if it did not fire while it is off. -/
def silenced (rule : AlertRule T) : AlertRule T :=
  { rule with firing := rule.enabled && rule.firing }

/-- That a rule no longer fires is sent to the device and to the listener, where there are any. -/
structure ClearingSent (alerts : Alerts T) (rule : AlertRule T) (sent : List (AlertOutput T)) :
    Prop where
  event : alerts.events = true → rule.declaration ≠ 0 → .event rule.declaration false ∈ sent
  notify : alerts.notify = true → ∃ rule', rule'.id = rule.id ∧ .notify rule' false ∈ sent

/-- An evaluation that comes now leaves no rule firing that is off, and has sent the clearing of
those that were; and the document shows none. -/
structure OffIsSilent (V : Type) {T : Type} [AlertArith V T] [RenderArith V T]
    (registry : MetricRegistry) (alerts : Alerts T) : Prop where
  evaluated : ∀ now (values : Fin registry.count → V),
    OffRulesRest (alertsEvaluate alerts now values).1
  cleared : ∀ now (values : Fin registry.count → V), ∀ rule ∈ alerts.rules, rule.enabled = false →
    rule.firing = true → ClearingSent alerts rule (alertsEvaluate alerts now values).2
  listed : ∀ rule ∈ alerts.rules, rule.firing = true → rule.enabled = true
  document : alertsJson V alerts = alertsJson V (alerts.mapRules silenced fun _ => rfl)

/-- The event switches no rule off while it fires. -/
def KeepsFiringOn (alerts : Alerts T) : TableEvent V registry → Prop
  | .evaluate _ _ => True
  | .apply body => ∀ rule ∈ alerts.rules, rule.firing = true →
      apiQueryParam body (ascii "action") = some (ascii "save") →
      apiQueryParam body (ascii "id") = some rule.id →
      ∀ enabled, apiQueryParam body (ascii "enabled") = some enabled → enabled = ascii "yes"

/-- A turn of a rule that is off leaves its flag and sends nothing. -/
theorem evaluateRule_of_off (events notify : Bool) (now : ℤ) (values : Fin registry.count → V)
    (hoff : rule.enabled = false) :
    evaluateRule events notify now values rule = ({ rule with breachSince := 0 }, []) := by
  rw [evaluateRule]
  split
  · rfl
  · rw [if_pos hoff]

/-- An evaluation does not change which rules that are off fire. -/
theorem offRulesRest_evaluate (now : ℤ) (values : Fin registry.count → V) :
    OffRulesRest (alertsEvaluate alerts now values).1 ↔ OffRulesRest alerts := by
  constructor
  · intro h rule hrule hoff
    have hafter := h _ (List.mem_map_of_mem hrule)
    rw [evaluateRule_of_off _ _ _ _ hoff] at hafter
    exact hafter hoff
  · intro h rule' hrule' hoff
    obtain ⟨rule, hrule, rfl⟩ := List.mem_map.mp hrule'
    have hconfig := evaluateRule_sameConfig alerts.events alerts.notify now values rule
    have hwas : rule.enabled = false := hconfig.enabled.symm.trans hoff
    rw [evaluateRule_of_off _ _ _ _ hwas]
    exact h rule hrule hwas

omit [AlertArith V T] in
/-- Where no rule fires that is off, the document shows none. -/
theorem mapRules_silenced (h : OffRulesRest alerts) :
    alerts.mapRules silenced (fun _ => rfl) = alerts := by
  have hsame : ∀ rule ∈ alerts.rules, silenced rule = id rule := by
    intro rule hrule
    have hflag : (rule.enabled && rule.firing) = rule.firing := by
      cases henabled : rule.enabled with
      | true => rfl
      | false => exact (h rule hrule henabled).symm
    rw [silenced, hflag]
    rfl
  have hrules : (alerts.mapRules silenced fun _ => rfl).rules = alerts.rules := by
    change alerts.rules.map silenced = alerts.rules
    rw [List.map_congr_left hsame, List.map_id]
  exact Alerts.ext hrules rfl rfl

theorem offIsSilent_iff_rest [RenderArith V T] :
    OffIsSilent V registry alerts ↔ OffRulesRest alerts := by
  constructor
  · intro h rule hrule hoff
    cases hfiring : rule.firing with
    | false => rfl
    | true =>
      rw [h.listed rule hrule hfiring] at hoff
      cases hoff
  · intro h
    refine ⟨fun now values => (offRulesRest_evaluate now values).mpr h, ?_, ?_, ?_⟩
    · intro now values rule hrule hoff hfiring
      rw [h rule hrule hoff] at hfiring
      cases hfiring
    · intro rule hrule hfiring
      cases henabled : rule.enabled with
      | true => rfl
      | false =>
        rw [h rule hrule henabled] at hfiring
        cases hfiring
    · rw [mapRules_silenced h]

theorem saveRule_enabled (declare : Bytes → Bytes → ℕ) (events : Bool) (body : Bytes)
    (rule : AlertRule T) : (saveRule V events declare body rule).enabled =
      ((apiQueryParam body (ascii "enabled")).map fun e => decide (e = ascii "yes")).getD
        rule.enabled :=
  congrArg RuleConfig.enabled (saveRule_config (V := V) events rule)

/-- A save that says nothing else than yes does not switch a rule off. -/
theorem saveRule_enabled_of_yes (declare : Bytes → Bytes → ℕ) (events : Bool)
    (hyes : ∀ enabled, apiQueryParam body (ascii "enabled") = some enabled → enabled = ascii "yes")
    (hon : rule.enabled = true) : (saveRule V events declare body rule).enabled = true := by
  rw [saveRule_enabled]
  cases henabled : apiQueryParam body (ascii "enabled") with
  | none => exact hon
  | some enabled => exact decide_eq_true (hyes enabled henabled)

/-- Steps that switch off no rule while it fires. -/
theorem OffRulesRest.step {event : TableEvent V registry} (h : OffRulesRest alerts)
    (hkeeps : KeepsFiringOn alerts event) (hstep : tableStep declare alerts event = some alerts') :
    OffRulesRest alerts' := by
  cases event with
  | evaluate now values =>
    obtain rfl := Option.some.inj hstep
    exact (offRulesRest_evaluate now values).mpr h
  | apply body =>
    obtain ⟨⟨_, changed⟩, happly, rfl⟩ := Option.map_eq_some_iff.mp hstep
    intro rule' hrule' hoff
    rcases mem_alertsApply happly hrule' with hold | ⟨rule, hrule, haction, hid, rfl⟩ | ⟨hrest, -⟩
    · exact h rule' hold hoff
    · rw [(saveRule_runtime declare body _ rule).2.1]
      cases hfiring : rule.firing with
      | false => rfl
      | true =>
        have hon : rule.enabled = true := by
          cases henabled : rule.enabled with
          | true => rfl
          | false =>
            rw [h rule hrule henabled] at hfiring
            cases hfiring
        rw [saveRule_enabled_of_yes declare _ (hkeeps rule hrule hfiring haction hid) hon] at hoff
        cases hoff
    · exact hrest

/-- A save that switches off a rule while it fires leaves it firing. -/
theorem not_offRulesRest_step (declare : Bytes → Bytes → ℕ) {event : TableEvent V registry}
    (h : ¬ KeepsFiringOn alerts event) :
    ∃ alerts', tableStep declare alerts event = some alerts' ∧ ¬ OffRulesRest alerts' := by
  cases event with
  | evaluate now values => exact absurd trivial h
  | apply body =>
    unfold KeepsFiringOn at h
    push Not at h
    obtain ⟨rule, hrule, hfiring, haction, hid, enabled, henabled, hno⟩ := h
    obtain ⟨alerts', happly, hafter⟩ := alertsApply_save (V := V) declare haction hid hrule
    refine ⟨alerts', by rw [tableStep, applyStep, happly]; rfl, fun hrest => ?_⟩
    have hmem : saveRule V alerts.events declare body rule ∈ alerts'.rules := by
      rw [hafter]
      exact List.mem_map.mpr ⟨rule, hrule, if_pos rfl⟩
    have hoff : (saveRule V alerts.events declare body rule).enabled = false := by
      rw [saveRule_enabled, henabled]
      exact decide_eq_false hno
    have hrests := hrest _ hmem hoff
    rw [(saveRule_runtime declare body _ rule).2.1, hfiring] at hrests
    cases hrests

/-- In a run, evaluations leave no rule firing that is off, and the document never shows one, exactly
if no save switches off a rule while it fires. -/
theorem offIsSilent_iff [RenderArith V T] (registry : MetricRegistry) (events : Bool)
    (declare : Bytes → Bytes → ℕ) (file : List (SavedRule T)) (run : List (TableEvent V registry)) :
    Always (tableStep declare) (alertsSetNotify (alertsNew V registry events declare file)) run
        (OffIsSilent V registry) ↔
      Throughout (tableStep declare) (alertsSetNotify (alertsNew V registry events declare file)) run
        KeepsFiringOn := by
  have hstart : OffRulesRest (alertsSetNotify (alertsNew V registry events declare file)) :=
    fun rule hrule _ => (atRest_alertsNew registry events file rule hrule).1
  refine Lib.always_iff_throughout (fun _ => True) trivial (offIsSilent_iff_rest.mpr hstart)
    (fun _ _ _ _ _ => trivial) ?_ ?_
  · intro alerts event alerts' _ hsilent hkeeps hstep
    exact offIsSilent_iff_rest.mpr ((offIsSilent_iff_rest.mp hsilent).step hkeeps hstep)
  · intro alerts event _ _ hbad
    obtain ⟨alerts', hstep, hnot⟩ := not_offRulesRest_step declare hbad
    exact ⟨alerts', hstep, fun hsilent => hnot (offIsSilent_iff_rest.mp hsilent)⟩

/-- A rule for a busy processor is saved, fires at once, and is switched off; then the processor is
read again. -/
abbrev switchOffRun : List (TableEvent (Option ℤ) cpuRegistry) :=
  [.apply (ascii "action=save&id=busy&metric=cpu.usage&threshold=90&enabled=yes"),
    .evaluate 1000 (fun _ => some 95), .apply (ascii "action=save&id=busy&enabled=no"),
    .evaluate 1001 (fun _ => some 5)]

/-- It is off and fires, after an evaluation of an idle processor. -/
theorem not_offIsSilent_busy : ∃ alerts : Alerts ℤ,
    runFrom (tableStep fun _ _ => 0)
      (alertsSetNotify (alertsNew (Option ℤ) cpuRegistry false (fun _ _ => 0) [])) switchOffRun =
        some alerts ∧
    ¬ OffRulesRest alerts ∧ ¬ OffIsSilent (Option ℤ) cpuRegistry alerts := by
  have hend : (runFrom (tableStep fun _ _ => 0)
      (alertsSetNotify (alertsNew (Option ℤ) cpuRegistry false (fun _ _ => 0) []))
      switchOffRun).map (fun alerts =>
        alerts.rules.any fun rule => !rule.enabled && rule.firing) = some true := by
    decide +kernel
  obtain ⟨alerts, hrun, hany⟩ := Option.map_eq_some_iff.mp hend
  obtain ⟨rule, hrule, hfires⟩ := List.any_eq_true.mp hany
  rw [Bool.and_eq_true, Bool.not_eq_true'] at hfires
  have hnot : ¬ OffRulesRest alerts := by
    intro hrest
    rw [hrest rule hrule hfires.1] at hfires
    cases hfires.2
  exact ⟨alerts, hrun, hnot, fun hsilent => hnot (offIsSilent_iff_rest.mp hsilent)⟩

end AxisMetrics
