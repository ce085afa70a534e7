import AxisMetrics.Alerts.Firing
import AxisMetrics.Alerts.Table

/-!
# Rules that are edited while they are evaluated

A save writes over a rule's metric, comparison and threshold and leaves its timer alone. The
timer belongs to the condition it was started for as long as no save changes the condition
of a rule that is about to fire, and in such runs a rule fires on its own condition only.
-/

namespace AxisMetrics

open Lib (Bytes ascii strlcpy)

variable {V T : Type} [AlertArith V T] {registry : MetricRegistry}

/-- One evaluation of a run, with the rules as they were configured. -/
structure Evaluation (V T : Type) (registry : MetricRegistry) where
  now : ℤ
  values : Fin registry.count → V
  rules : List (AlertRule T)

/-- The fields of a save leave a rule's condition as it is. -/
def KeepsCondition (V : Type) [AlertArith V T] (body : Bytes) (rule : AlertRule T) : Prop :=
  (∀ metric, apiQueryParam body (ascii "metric") = some metric →
    rule.builtin = true ∨ strlcpy METRIC_ID_MAX metric = rule.metric) ∧
  (∀ op, apiQueryParam body (ascii "op") = some op → opFrom (some op) = rule.op) ∧
  (∀ threshold, apiQueryParam body (ascii "threshold") = some threshold →
    AlertArith.strtod V threshold = rule.threshold)

theorem KeepsCondition.saveFields {body : Bytes} {rule : AlertRule T}
    (h : KeepsCondition V body rule) :
    (saveFields V body rule).metric = rule.metric ∧ (saveFields V body rule).op = rule.op ∧
      (saveFields V body rule).threshold = rule.threshold := by
  obtain ⟨hmetric, hop, hthreshold⟩ := h
  refine ⟨?_, ?_, ?_⟩
  · cases hm : apiQueryParam body (ascii "metric") with
    | none => simp [AxisMetrics.saveFields, hm]
    | some metric =>
      rcases hmetric metric hm with hbuiltin | hsame
      · simp [AxisMetrics.saveFields, hbuiltin]
      · simp [AxisMetrics.saveFields, hm, hsame]
  · cases ho : apiQueryParam body (ascii "op") with
    | none => simp [AxisMetrics.saveFields, ho]
    | some op => simp [AxisMetrics.saveFields, ho, hop op ho]
  · cases ht : apiQueryParam body (ascii "threshold") with
    | none => simp [AxisMetrics.saveFields, ht]
    | some threshold => simp [AxisMetrics.saveFields, ht, hthreshold threshold ht]

/-- A change saves no new condition to a rule whose timer runs towards its firing. -/
def EditSafe (V : Type) [AlertArith V T] (alerts : Alerts T) (body : Bytes) : Prop :=
  ∀ rule ∈ alerts.rules, rule.firing = false → rule.breachSince ≠ 0 →
    apiQueryParam body (ascii "action") = some (ascii "save") →
    apiQueryParam body (ascii "id") = some rule.id → KeepsCondition V body rule

/-- The runs of a table whose changes meet a condition: evaluations at a clock that never goes
back and changes through the API, in any order, with the evaluations so far. -/
inductive AlertsRun (declare : Bytes → Bytes → ℕ) (allowed : Alerts T → Bytes → Prop)
    (start : Alerts T) : List (Evaluation V T registry) → Alerts T → Prop where
  | start : AlertsRun declare allowed start [] start
  | evaluate {log : List (Evaluation V T registry)} {alerts : Alerts T} (now : ℤ)
      (values : Fin registry.count → V) :
      AlertsRun declare allowed start log alerts → (∀ past ∈ log, past.now ≤ now) →
      AlertsRun declare allowed start (log ++ [⟨now, values, alerts.rules⟩])
        (alertsEvaluate alerts now values).1
  | apply {log : List (Evaluation V T registry)} {alerts alerts' : Alerts T} {changed : Bool}
      (body : Bytes) :
      AlertsRun declare allowed start log alerts → allowed alerts body →
      alertsApply V declare alerts body = some (alerts', changed) →
      AlertsRun declare allowed start log alerts'

/-- The rule was configured with the same condition at an evaluation, and it was breached. -/
def BreachedAt (rule : AlertRule T) (past : Evaluation V T registry) : Prop :=
  ∃ then' ∈ past.rules, then'.id = rule.id ∧ then'.metric = rule.metric ∧ then'.op = rule.op ∧
    then'.threshold = rule.threshold ∧ readingSignal past.values then' = .hold

/-- From the evaluation at clock `since` on, all found the rule's condition breached. -/
def BreachedSince (log : List (Evaluation V T registry)) (rule : AlertRule T) (since : ℤ) : Prop :=
  ∃ earlier first later, log = earlier ++ first :: later ∧ first.now = since ∧
    ∀ past ∈ first :: later, BreachedAt rule past

/-- The timer of a rule that does not fire belongs to its condition. -/
def TimerSound (log : List (Evaluation V T registry)) (rule : AlertRule T) : Prop :=
  rule.firing = false → rule.breachSince ≠ 0 → BreachedSince log rule rule.breachSince

variable {log : List (Evaluation V T registry)} {rule : AlertRule T} {alerts alerts' : Alerts T}
variable {declare : Bytes → Bytes → ℕ} {start : Alerts T} {now : ℤ}
variable {values : Fin registry.count → V}

theorem BreachedSince.congr {rule' : AlertRule T} {since : ℤ} (h : BreachedSince log rule since)
    (hid : rule'.id = rule.id) (hmetric : rule'.metric = rule.metric) (hop : rule'.op = rule.op)
    (hthreshold : rule'.threshold = rule.threshold) : BreachedSince log rule' since := by
  unfold BreachedSince BreachedAt at *
  rw [hid, hmetric, hop, hthreshold]
  exact h

/-- A breaching evaluation extends the run of a timer, or starts one. -/
theorem TimerSound.evaluate (now : ℤ) (h : TimerSound log rule) (hrule : rule ∈ alerts.rules)
    (hfiring : rule.firing = false) (hhold : readingSignal values rule = .hold) :
    BreachedSince (log ++ [⟨now, values, alerts.rules⟩]) rule
      (evaluateRule alerts.events alerts.notify now values rule).1.breachSince := by
  have hhere : BreachedAt rule (⟨now, values, alerts.rules⟩ : Evaluation V T registry) :=
    ⟨rule, hrule, rfl, rfl, rfl, rfl, hhold⟩
  rw [evaluateRule_breachSince, if_pos hhold]
  split
  · exact ⟨log, _, [], rfl, rfl, fun past hpast => List.mem_singleton.mp hpast ▸ hhere⟩
  · next hsince =>
    obtain ⟨earlier, first, later, rfl, hfirst, hall⟩ := h hfiring hsince
    refine ⟨earlier, first, later ++ [⟨now, values, alerts.rules⟩],
      by rw [List.append_assoc, List.cons_append], hfirst, fun past hpast => ?_⟩
    rw [← List.cons_append, List.mem_append, List.mem_singleton] at hpast
    rcases hpast with hold | rfl
    · exact hall past hold
    · exact hhere

theorem timerSound_evaluate (h : ∀ rule ∈ alerts.rules, TimerSound log rule) :
    ∀ rule ∈ (alertsEvaluate alerts now values).1.rules,
      TimerSound (log ++ [⟨now, values, alerts.rules⟩]) rule := by
  intro rule' hrule'
  obtain ⟨rule, hrule, rfl⟩ := List.mem_map.mp hrule'
  intro hoff hsince
  have hconfig := evaluateRule_sameConfig alerts.events alerts.notify now values rule
  have hflag := evaluateRule_firing alerts.events alerts.notify now values rule
  -- only a breach leaves the timer running
  have hhold : readingSignal values rule = .hold := by
    by_contra hne
    exact hsince (by rw [evaluateRule_breachSince, if_neg hne])
  have hfiring : rule.firing = false := by
    rw [hoff, hhold] at hflag
    cases hf : rule.firing with
    | false => rfl
    | true =>
      rw [hf] at hflag
      exact absurd hflag (by simp)
  exact ((h rule hrule).evaluate now hrule hfiring hhold).congr hconfig.id hconfig.metric hconfig.op
    hconfig.threshold

/-- A save that keeps the condition keeps what the timer stands for. -/
theorem timerSound_apply {body : Bytes} {changed : Bool}
    (h : ∀ rule ∈ alerts.rules, TimerSound log rule) (hsafe : EditSafe V alerts body)
    (happly : alertsApply V declare alerts body = some (alerts', changed)) :
    ∀ rule ∈ alerts'.rules, TimerSound log rule := by
  intro rule' hrule' hoff hsince
  rcases mem_alertsApply happly hrule' with hold | ⟨rule, hrule, haction, hid, rfl⟩ | ⟨-, hzero⟩
  · exact h rule' hold hoff hsince
  · obtain ⟨hsame, hflag, hsameId⟩ := saveRule_runtime (V := V) declare body alerts.events rule
    obtain ⟨hmetric, hop, hthreshold⟩ :=
      saveRule_condition (V := V) declare body alerts.events rule
    rw [hflag] at hoff
    rw [hsame] at hsince ⊢
    obtain ⟨hkeepMetric, hkeepOp, hkeepThreshold⟩ :=
      (hsafe rule hrule hoff hsince haction hid).saveFields
    exact (h rule hrule hoff hsince).congr hsameId (hmetric.trans hkeepMetric)
      (hop.trans hkeepOp) (hthreshold.trans hkeepThreshold)
  · exact absurd hzero hsince

/-- In every run of safe changes, every timer belongs to the condition of its rule. -/
theorem AlertsRun.timerSound (hstart : AtRest start)
    (hrun : AlertsRun declare (EditSafe V) start log alerts) :
    ∀ rule ∈ alerts.rules, TimerSound log rule := by
  induction hrun with
  | start => exact fun rule hrule _ hsince => absurd (hstart rule hrule).2 hsince
  | evaluate now values _ _ ih => exact timerSound_evaluate ih
  | apply body _ hsafe happly ih => exact timerSound_apply ih hsafe happly

/-- The clock of a run never goes back. -/
theorem AlertsRun.pairwise {allowed : Alerts T → Bytes → Prop}
    (hrun : AlertsRun declare allowed start log alerts) :
    log.Pairwise fun past past' => past.now ≤ past'.now := by
  induction hrun with
  | start => exact List.Pairwise.nil
  | evaluate now values _ hclock ih =>
    rw [List.pairwise_append]
    exact ⟨ih, List.pairwise_singleton _ _, fun past hpast past' hpast' =>
      List.mem_singleton.mp hpast' ▸ hclock past hpast⟩
  | apply body _ _ _ ih => exact ih

/-- A rule turns to firing for its own condition: an evaluation at least its duration ago found
that condition breached, and so did every evaluation since and every one within the duration. -/
structure FiresOnOwnCondition (log : List (Evaluation V T registry)) (rule : AlertRule T)
    (now : ℤ) : Prop where
  breached : ∃ since, (rule.durationS : ℤ) ≤ now - since ∧ BreachedSince log rule since
  recent : ∀ past ∈ log, now - past.now < rule.durationS → BreachedAt rule past

/-- What is within the duration comes after what is not. -/
theorem BreachedSince.recent {since : ℤ} (h : BreachedSince log rule since)
    (hclock : log.Pairwise fun past past' => past.now ≤ past'.now)
    (hdue : (rule.durationS : ℤ) ≤ now - since) :
    ∀ past ∈ log, now - past.now < rule.durationS → BreachedAt rule past := by
  obtain ⟨earlier, first, later, rfl, hfirst, hall⟩ := h
  intro past hpast hwithin
  rcases List.mem_append.mp hpast with hearlier | hlater
  · have hle := (List.pairwise_append.mp hclock).2.2 past hearlier first List.mem_cons_self
    omega
  · exact hall past hlater

/-- While no save changes the condition of a rule that is about to fire, a rule that fires has
met its own condition for its duration. -/
theorem fires_on_own_condition (events : Bool) (file : List (SavedRule T))
    (hrun : AlertsRun declare (EditSafe V)
      (alertsSetNotify (alertsNew V registry events declare file)) log alerts)
    (hclock : ∀ past ∈ log, past.now ≤ now) (values : Fin registry.count → V)
    (hrule : rule ∈ alerts.rules) (hbefore : rule.firing = false)
    (hafter : (evaluateRule alerts.events alerts.notify now values rule).1.firing = true) :
    FiresOnOwnCondition (log ++ [⟨now, values, alerts.rules⟩]) rule now := by
  have hstart : AtRest (alertsSetNotify (alertsNew V registry events declare file)) :=
    atRest_alertsNew registry events file
  have hflag := evaluateRule_firing alerts.events alerts.notify now values rule
  rw [hafter, hbefore] at hflag
  have hhold : readingSignal values rule = .hold := by
    cases hs : readingSignal values rule with
    | hold => rfl
    | unknown => rw [hs] at hflag; cases hflag
    | clear => rw [hs] at hflag; cases hflag
  rw [hhold, Bool.false_or, eq_comm, decide_eq_true_eq] at hflag
  have hsince := ((hrun.timerSound hstart) rule hrule).evaluate now hrule hbefore hhold
  exact ⟨⟨_, hflag, hsince⟩, hsince.recent (hrun.evaluate now values hclock).pairwise hflag⟩

/-- The alerts of a device that only has the processor metric, without an event handler. -/
abbrev startAlerts : Alerts ℤ :=
  alertsSetNotify (alertsNew (Option ℤ) cpuRegistry false (fun _ _ => 0) [])

theorem startAlerts_rules : startAlerts.rules = [cpuHigh] := by decide +kernel

/-- The alerts after a change that is accepted. -/
abbrev changedAlerts (alerts : Alerts ℤ) (body : Bytes) : Alerts ℤ :=
  ((alertsApply (Option ℤ) (fun _ _ => 0) alerts body).map Prod.fst).getD alerts

theorem alertsApply_changedAlerts {alerts : Alerts ℤ} {body : Bytes}
    (haccepted : (alertsApply (Option ℤ) (fun _ _ => 0) alerts body).map Prod.snd = some true) :
    alertsApply (Option ℤ) (fun _ _ => 0) alerts body = some (changedAlerts alerts body, true) := by
  cases happly : alertsApply (Option ℤ) (fun _ _ => 0) alerts body with
  | none =>
    rw [happly] at haccepted
    cases haccepted
  | some result =>
    rw [happly] at haccepted
    rw [changedAlerts, happly, ← Option.some.inj haccepted]
    rfl

/-- A save that turns the rule into one for an idle processor. -/
abbrev idleBody : Bytes := ascii "action=save&id=cpu_high&op=below&threshold=10"

/-- The rule for an idle processor, saved before anything was read, once 5 percent have been. -/
abbrev idleAlerts : Alerts ℤ :=
  (alertsEvaluate (changedAlerts startAlerts idleBody) 1000
    fun _ : Fin cpuRegistry.count => some (5 : ℤ)).1

/-- A save of a shorter duration, with the threshold as it is. -/
abbrev shorterBody : Bytes := ascii "action=save&id=cpu_high&threshold=10&duration=200"

abbrev shorterRule : AlertRule ℤ :=
  { cpuHigh with op := .below, threshold := 10, durationS := 200, breachSince := 1000, lastValue := 5 }

theorem editSafe_idleBody : EditSafe (Option ℤ) startAlerts idleBody := by
  intro rule hrule _ hsince
  rw [startAlerts_rules] at hrule
  obtain rfl := List.mem_singleton.mp hrule
  exact absurd rfl hsince

theorem editSafe_shorterBody : EditSafe (Option ℤ) idleAlerts shorterBody := by
  have hrules : idleAlerts.rules =
      [{ cpuHigh with op := .below, threshold := 10, breachSince := 1000, lastValue := 5 }] := by
    decide +kernel
  have hmetric : apiQueryParam shorterBody (ascii "metric") = none := by decide +kernel
  have hop : apiQueryParam shorterBody (ascii "op") = none := by decide +kernel
  have hthreshold : apiQueryParam shorterBody (ascii "threshold") = some (ascii "10") := by
    decide +kernel
  intro rule hrule _ _ _ _
  rw [hrules] at hrule
  obtain rfl := List.mem_singleton.mp hrule
  refine ⟨fun metric h => ?_, fun op h => ?_, fun threshold h => ?_⟩
  · rw [hmetric] at h
    cases h
  · rw [hop] at h
    cases h
  · rw [hthreshold] at h
    obtain rfl := Option.some.inj h
    decide +kernel

/-- The rule is given another condition before its timer runs, and another duration while it does.
It fires for the condition that it then has. -/
theorem fires_on_own_condition_cpuHigh : FiresOnOwnCondition
    [⟨1000, fun _ : Fin cpuRegistry.count => some (5 : ℤ), (changedAlerts startAlerts idleBody).rules⟩,
      ⟨1200, fun _ => some 5, (changedAlerts idleAlerts shorterBody).rules⟩] shorterRule 1200 :=
  fires_on_own_condition false []
    (.apply shorterBody (.evaluate 1000 _
      (.apply idleBody .start editSafe_idleBody (alertsApply_changedAlerts (by decide +kernel)))
      fun _ h => absurd h List.not_mem_nil)
      editSafe_shorterBody (alertsApply_changedAlerts (by decide +kernel)))
    (fun past hpast => List.mem_singleton.mp hpast ▸ by decide) (fun _ => some 5)
    (show shorterRule ∈ (changedAlerts idleAlerts shorterBody).rules by decide +kernel) rfl
    (by decide +kernel)

/-- The same alerts once 95 percent have been read at 1000 seconds. -/
abbrev breachedAlerts : Alerts ℤ :=
  (alertsEvaluate startAlerts 1000 fun _ : Fin cpuRegistry.count => some (95 : ℤ)).1

abbrev idleRule : AlertRule ℤ :=
  { cpuHigh with op := .below, threshold := 10, breachSince := 1000, lastValue := 95 }

theorem alertsApply_idleBody : ∃ alerts, alertsApply (Option ℤ) (fun _ _ => 0) breachedAlerts idleBody =
    some (alerts, true) ∧ alerts.rules = [idleRule] :=
  ⟨changedAlerts breachedAlerts idleBody, alertsApply_changedAlerts (by decide +kernel),
    by decide +kernel⟩

/-- Saved while the timer runs, it fires on the first idle reading, five minutes of load ago. -/
theorem not_fires_on_own_condition_idle :
    ∃ alerts : Alerts ℤ, AlertsRun (fun _ _ => 0) (fun _ _ => True) startAlerts
        [(⟨1000, fun _ => some 95, startAlerts.rules⟩ : Evaluation (Option ℤ) ℤ cpuRegistry)] alerts ∧
      idleRule ∈ alerts.rules ∧
      (evaluateRule alerts.events alerts.notify 1300
        (fun _ : Fin cpuRegistry.count => some (5 : ℤ)) idleRule).1.firing = true ∧
      ¬ FiresOnOwnCondition
        ([(⟨1000, fun _ => some 95, startAlerts.rules⟩ : Evaluation (Option ℤ) ℤ cpuRegistry)] ++
          [⟨1300, fun _ => some 5, alerts.rules⟩]) idleRule 1300 := by
  obtain ⟨alerts, happly, hrules⟩ := alertsApply_idleBody
  have hrun : AlertsRun (fun _ _ => 0) (fun _ _ => True) startAlerts
      [(⟨1000, fun _ => some 95, startAlerts.rules⟩ : Evaluation (Option ℤ) ℤ cpuRegistry)]
      breachedAlerts :=
    .evaluate 1000 _ .start fun _ h => absurd h List.not_mem_nil
  refine ⟨alerts, hrun.apply idleBody trivial happly, hrules ▸ List.mem_cons_self, ?_, ?_⟩
  · rw [evaluateRule_firing, evaluateRule_breachSince]
    decide +kernel
  · rintro ⟨⟨since, hdue, earlier, first, later, hlog, rfl, hall⟩, -⟩
    have hfirst : first ∈ ([⟨1000, fun _ => some 95, startAlerts.rules⟩] ++
        [⟨1300, fun _ => some 5, alerts.rules⟩] : List (Evaluation (Option ℤ) ℤ cpuRegistry)) := by
      rw [hlog]
      exact List.mem_append_right _ List.mem_cons_self
    simp only [List.cons_append, List.nil_append, List.mem_cons, List.not_mem_nil, or_false] at hfirst
    rcases hfirst with rfl | rfl
    · -- the rule of that evaluation was for load, not for idleness
      obtain ⟨then', hthen, -, -, hop, -⟩ := hall _ List.mem_cons_self
      rw [startAlerts_rules] at hthen
      obtain rfl := List.mem_singleton.mp hthen
      exact absurd hop (by decide)
    · exact absurd hdue (show ¬ ((300 : ℕ) : ℤ) ≤ 1300 - 1300 by decide)

end AxisMetrics
