import AxisMetrics.Alerts.Firing
import AxisMetrics.Alerts.Restart

/-!
# One request, one rule

`alerts_apply` looks its rule up by the id of the request. A save that has to add the rule looks it
up again, and finds it just if the id fits (`saveFinds_iff`). With ids that fit, a run of requests and
evaluations never crashes, keeps the table in order and touches one rule with each request
(`ruleTable_run`).
-/

namespace AxisMetrics

open Lib (Bytes ascii strlcpy runFrom Always)

variable {V T : Type} [AlertArith V T] {registry : MetricRegistry} {alerts alerts' : Alerts T}
variable {rule : AlertRule T} {declare : Bytes → Bytes → ℕ} {body id : Bytes} {changed : Bool}

-- ════════════════════════════════════════════════════════════════════════
-- Saves that add a rule
-- ════════════════════════════════════════════════════════════════════════

/-- A save finds the rule that it has just added, and no request follows a null pointer. -/
structure SaveFinds (V : Type) [AlertArith V T] (declare : Bytes → Bytes → ℕ) (alerts : Alerts T)
    (body : Bytes) : Prop where
  found : ∀ id added, apiQueryParam body (ascii "action") = some (ascii "save") →
    apiQueryParam body (ascii "id") = some id → findRule alerts id = none →
    addRule alerts (clearedRule V id) = some added → findRule added id = some (clearedRule V id)
  survives : (alertsApply V declare alerts body).isSome = true

/-- A save is of an id that fits, or it adds no rule: the table is full or has the id that is left
after it was cut. -/
def SaveFits (alerts : Alerts T) (body : Bytes) : Prop :=
  ∀ id, apiQueryParam body (ascii "action") = some (ascii "save") →
    apiQueryParam body (ascii "id") = some id →
    id.length < ALERT_ID_MAX ∨ alerts.rules.length = MAX_RULES ∨
      strlcpy ALERT_ID_MAX id ∈ alerts.rules.map AlertRule.id

omit [AlertArith V T] in
/-- No rule has an id that does not fit. -/
theorem findRule_of_long (alerts : Alerts T) (hlong : ALERT_ID_MAX ≤ id.length) :
    findRule alerts id = none := by
  rw [findRule_eq_none]
  intro hmem
  obtain ⟨rule, -, rfl⟩ := List.mem_map.mp hmem
  exact absurd rule.id_lt (not_lt.mpr hlong)

omit [AlertArith V T] in
/-- When a rule is added. -/
theorem addRule_isSome_iff {source : AlertRule T} : (addRule alerts source).isSome = true ↔
    alerts.rules.length < MAX_RULES ∧ findRule alerts source.id = none := by
  unfold addRule
  split
  · next h => exact iff_of_true rfl h
  · next h => exact iff_of_false Bool.false_ne_true h

/-- A request that is no save, or is one that finds its rule, does not crash. -/
theorem alertsApply_isSome (declare : Bytes → Bytes → ℕ)
    (hfound : ∀ id added, apiQueryParam body (ascii "action") = some (ascii "save") →
      apiQueryParam body (ascii "id") = some id → findRule alerts id = none →
      addRule alerts (clearedRule V id) = some added → (findRule added id).isSome = true) :
    (alertsApply V declare alerts body).isSome = true := by
  unfold alertsApply
  cases haction : apiQueryParam body (ascii "action") with
  | none => rfl
  | some action =>
    cases hid : apiQueryParam body (ascii "id") with
    | none => rfl
    | some id =>
      dsimp only
      split_ifs with hdelete hsave
      · rfl
      · unfold applySave
        cases hfind : findRule alerts id with
        | some rule => simp [hfind]
        | none =>
          cases hadd : addRule alerts (clearedRule V id) with
          | none => rfl
          | some added =>
            have hagain := hfound id added (by rw [haction, hsave]) hid hfind hadd
            obtain ⟨rule, hrule⟩ := Option.isSome_iff_exists.mp hagain
            simp [hrule]
      · rfl

/-- Saves find what they add, and no request crashes, exactly if each save is of an id that fits or
adds no rule. -/
theorem saveFinds_iff (declare : Bytes → Bytes → ℕ) (alerts : Alerts T) (body : Bytes) :
    SaveFinds V declare alerts body ↔ SaveFits alerts body := by
  constructor
  · intro h id haction hid
    by_contra hbad
    push Not at hbad
    obtain ⟨hlong, hroom, hnew⟩ := hbad
    have hadd : (addRule alerts (clearedRule V id)).isSome = true :=
      addRule_isSome_iff.mpr ⟨lt_of_le_of_ne alerts.count_le hroom, findRule_eq_none.mpr hnew⟩
    obtain ⟨added, hadded⟩ := Option.isSome_iff_exists.mp hadd
    have hfound := h.found id added haction hid (findRule_of_long alerts hlong) hadded
    rw [findRule_of_long added hlong] at hfound
    cases hfound
  · intro h
    have hfound : ∀ id added, apiQueryParam body (ascii "action") = some (ascii "save") →
        apiQueryParam body (ascii "id") = some id → findRule alerts id = none →
        addRule alerts (clearedRule V id) = some added →
        findRule added id = some (clearedRule V id) := by
      intro id added haction hid _ hadd
      obtain ⟨⟨hroom, hnew⟩, hrules, -⟩ := addRule_rules hadd
      rcases h id haction hid with hfits | hfull | hcut
      · have hself : (clearedRule V id).id = id :=
          Lib.strlcpy_eq_self (zero_notMem_apiQueryParam hid) hfits
        have hmem : clearedRule V id ∈ added.rules := by
          rw [hrules]
          exact List.mem_append_right _ (List.mem_singleton.mpr rfl)
        have hfind := findRule_of_mem hmem
        rwa [hself] at hfind
      · omega
      · exact absurd hcut (findRule_eq_none.mp hnew)
    refine ⟨hfound, alertsApply_isSome declare fun id added haction hid hfind hadd => ?_⟩
    rw [hfound id added haction hid hfind hadd]
    rfl

/-- An id of one byte more than a rule can hold. -/
abbrev longIdBody : Bytes := ascii "action=save&id=door_controller_of_the_loading_bay_at_the_south2"

/-- A save of such an id crashes. -/
theorem not_saveFinds_longId : ¬ SaveFinds (Option ℤ) (fun _ _ => 0)
    (alertsNew (Option ℤ) cpuRegistry false (fun _ _ => 0) []) longIdBody := by
  intro h
  have hsurvives := h.survives
  revert hsurvives
  decide +kernel

-- ════════════════════════════════════════════════════════════════════════
-- Runs
-- ════════════════════════════════════════════════════════════════════════

/-- What is done to a table: an evaluation at a clock reading, or a request. -/
inductive TableEvent (V : Type) (registry : MetricRegistry) where
  | evaluate (now : ℤ) (values : Fin registry.count → V)
  | apply (body : Bytes)

/-- One of them; `none` where the code crashes. -/
def tableStep (declare : Bytes → Bytes → ℕ) (alerts : Alerts T) :
    TableEvent V registry → Option (Alerts T)
  | .evaluate now values => some (alertsEvaluate alerts now values).1
  | .apply body => applyStep V declare alerts body

/-- The id in a request fits. -/
def ShortId (body : Bytes) : Prop :=
  ∀ id, apiQueryParam body (ascii "id") = some id → id.length < ALERT_ID_MAX

/-- The table has no id twice and not too many rules, and every built-in rule it began with, for the
same metric. -/
structure TableKept (start alerts : Alerts T) : Prop where
  distinct : (alerts.rules.map AlertRule.id).Nodup
  count : alerts.rules.length ≤ MAX_RULES
  builtin : ∀ rule ∈ start.rules, rule.builtin = true → ∃ rule' ∈ alerts.rules,
    rule'.id = rule.id ∧ rule'.metric = rule.metric ∧ rule'.builtin = true

/-- A request leaves all rules but the one of its id as they are, in their order, and one that
changes nothing says so. -/
structure ApplyFrame (alerts : Alerts T) (body : Bytes) (alerts' : Alerts T) (changed : Bool) :
    Prop where
  others : alerts'.rules.filter (fun rule => some rule.id ≠ apiQueryParam body (ascii "id")) =
    alerts.rules.filter fun rule => some rule.id ≠ apiQueryParam body (ascii "id")
  refused : changed = false → alerts' = alerts

/-- A run does not crash, keeps the table, and each of its requests has its frame. -/
structure RuleTableRun (declare : Bytes → Bytes → ℕ) (start : Alerts T)
    (run : List (TableEvent V registry)) : Prop where
  survives : (runFrom (tableStep declare) start run).isSome = true
  kept : Always (tableStep declare) start run (TableKept start)
  frame : ∀ done body alerts, done ++ [.apply body] <+: run →
    runFrom (tableStep declare) start done = some alerts →
    ∃ alerts' changed, alertsApply V declare alerts body = some (alerts', changed) ∧
      ApplyFrame alerts body alerts' changed

/-- Removing an element that is filtered out anyway. -/
theorem filter_eraseP {A : Type} {p q : A → Bool} (h : ∀ a, p a = true → q a = false) (l : List A) :
    (l.eraseP p).filter q = l.filter q := by
  induction l with
  | nil => rfl
  | cons a l ih =>
    by_cases hp : p a = true
    · rw [List.eraseP_cons_of_pos hp, List.filter_cons_of_neg (by simp [h a hp])]
    · rw [List.eraseP_cons_of_neg hp, List.filter_cons, List.filter_cons, ih]

/-- Changing elements that are filtered out anyway. -/
theorem filter_map_of_fixed {A : Type} {f : A → A} {q : A → Bool} (hkeeps : ∀ a, q (f a) = q a)
    (hfixed : ∀ a, q a = true → f a = a) (l : List A) : (l.map f).filter q = l.filter q := by
  induction l with
  | nil => rfl
  | cons a l ih =>
    rw [List.map_cons, List.filter_cons, List.filter_cons, ih, hkeeps]
    split
    · next ha => rw [hfixed a ha]
    · rfl

/-- Saving the rule of one id leaves the others as they are. -/
theorem filter_saved (declare : Bytes → Bytes → ℕ) (events : Bool) (body id : Bytes)
    (rules : List (AlertRule T)) :
    (rules.map fun rule => if rule.id = id then saveRule V events declare body rule else rule).filter
        (fun rule => some rule.id ≠ some id) =
      rules.filter fun rule => some rule.id ≠ some id := by
  refine filter_map_of_fixed (fun rule => ?_) (fun rule hother => ?_) rules
  · split
    · rw [(saveRule_runtime declare body events rule).2.2]
    · rfl
  · refine if_neg fun hid => ?_
    exact of_decide_eq_true hother (congrArg some hid)

/-- A refused request leaves the table as it is. -/
theorem alertsApply_refused (h : alertsApply V declare alerts body = some (alerts', false)) :
    alerts' = alerts := by
  have hunchanged : ∀ result : Alerts T × Bool, result.2 = true →
      some result ≠ some (alerts', false) := by
    rintro result htrue hsome
    rw [Option.some.inj hsome] at htrue
    cases htrue
  unfold alertsApply at h
  split at h
  · next action id haction hid =>
    split_ifs at h with hdelete hsave
    · unfold applyDelete at h
      split at h
      · exact (congrArg Prod.fst (Option.some.inj h)).symm
      · split_ifs at h with hbuiltin
        · exact (congrArg Prod.fst (Option.some.inj h)).symm
        · exact absurd h (hunchanged _ rfl)
    · unfold applySave at h
      split at h
      · exact (congrArg Prod.fst (Option.some.inj h)).symm
      · split at h
        · cases h
        · exact absurd h (hunchanged _ rfl)
    · exact (congrArg Prod.fst (Option.some.inj h)).symm
  · exact (congrArg Prod.fst (Option.some.inj h)).symm

/-- Each request touches the rule of its id only. -/
theorem applyFrame_alertsApply (h : alertsApply V declare alerts body = some (alerts', changed)) :
    ApplyFrame alerts body alerts' changed := by
  refine ⟨?_, fun hrefused => alertsApply_refused (hrefused ▸ h)⟩
  rcases alertsApply_cases h with rfl | ⟨rule, -, -, hid, -, hrules, -⟩ |
    ⟨id, -, hid, -, hrules, -⟩ | ⟨id, -, hid, ⟨-, -, hfits⟩, hrules, -⟩
  · rfl
  · rw [hrules, hid]
    refine filter_eraseP (fun other hother => ?_) alerts.rules
    simpa using hother
  · rw [hrules, hid]
    exact filter_saved declare alerts.events body id alerts.rules
  · rw [hrules, hid, filter_saved, List.filter_append]
    have hnew : [clearedRule V id].filter (fun rule => decide (some rule.id ≠ some id)) = [] := by
      simp [hfits]
    rw [hnew, List.append_nil]

omit [AlertArith V T] in
theorem tableKept_self (alerts : Alerts T) : TableKept alerts alerts :=
  ⟨alerts.nodup, alerts.count_le, fun rule hrule hbuiltin => ⟨rule, hrule, rfl, rfl, hbuiltin⟩⟩

theorem saveRule_builtin (declare : Bytes → Bytes → ℕ) (events : Bool) (body : Bytes)
    (rule : AlertRule T) : (saveRule V events declare body rule).builtin = rule.builtin :=
  congrArg RuleConfig.builtin (saveRule_config (V := V) events rule)

theorem saveRule_metric_of_builtin (declare : Bytes → Bytes → ℕ) (events : Bool) (body : Bytes)
    {rule : AlertRule T} (hbuiltin : rule.builtin = true) :
    (saveRule V events declare body rule).metric = rule.metric := by
  rw [(saveRule_condition declare body events rule).1, saveFields_metric, if_pos hbuiltin]

/-- A request keeps a built-in rule, with its metric. -/
theorem exists_builtin_alertsApply (h : alertsApply V declare alerts body = some (alerts', changed))
    (hrule : rule ∈ alerts.rules) (hbuiltin : rule.builtin = true) : ∃ rule' ∈ alerts'.rules,
      rule'.id = rule.id ∧ rule'.metric = rule.metric ∧ rule'.builtin = true := by
  have hsaved : ∀ (rules : List (AlertRule T)) (id : Bytes), rule ∈ rules →
      ∃ rule' ∈ rules.map (fun rule =>
          if rule.id = id then saveRule V alerts.events declare body rule else rule),
        rule'.id = rule.id ∧ rule'.metric = rule.metric ∧ rule'.builtin = true := by
    intro rules id hmem
    refine ⟨_, List.mem_map_of_mem hmem, ?_⟩
    split
    · exact ⟨(saveRule_runtime declare body _ rule).2.2,
        saveRule_metric_of_builtin declare _ body hbuiltin,
        (saveRule_builtin declare _ body rule).trans hbuiltin⟩
    · exact ⟨rfl, rfl, hbuiltin⟩
  rcases alertsApply_cases h with rfl | ⟨deleted, hdeleted, -, -, hcustom, hrules, -⟩ |
    ⟨id, -, -, -, hrules, -⟩ | ⟨id, -, -, -, hrules, -⟩
  · exact ⟨rule, hrule, rfl, rfl, hbuiltin⟩
  · refine ⟨rule, ?_, rfl, rfl, hbuiltin⟩
    rw [hrules]
    refine (List.mem_eraseP_of_neg ?_).mpr hrule
    -- the deleted rule is another one, for it is not built in
    intro hid
    rw [eq_of_id hrule hdeleted (of_decide_eq_true hid), hcustom] at hbuiltin
    cases hbuiltin
  · rw [hrules]
    exact hsaved alerts.rules id hrule
  · rw [hrules]
    exact hsaved _ id (List.mem_append_left _ hrule)

/-- Every step keeps the table. -/
theorem TableKept.step {start : Alerts T} {event : TableEvent V registry}
    (h : TableKept start alerts) (hstep : tableStep declare alerts event = some alerts') :
    TableKept start alerts' := by
  refine ⟨alerts'.nodup, alerts'.count_le, fun rule hrule hbuiltin => ?_⟩
  obtain ⟨kept, hkept, hid, hmetric, hflag⟩ := h.builtin rule hrule hbuiltin
  cases event with
  | evaluate now values =>
    obtain rfl := Option.some.inj hstep
    have hconfig := evaluateRule_sameConfig alerts.events alerts.notify now values kept
    exact ⟨_, List.mem_map_of_mem hkept, hconfig.id.trans hid, hconfig.metric.trans hmetric,
      hconfig.builtin.trans hflag⟩
  | apply body =>
    obtain ⟨⟨_, changed⟩, happly, rfl⟩ := Option.map_eq_some_iff.mp hstep
    obtain ⟨rule', hrule', hid', hmetric', hflag'⟩ :=
      exists_builtin_alertsApply happly hkept hflag
    exact ⟨rule', hrule', hid'.trans hid, hmetric'.trans hmetric, hflag'⟩

/-- A request with an id that fits does not crash. -/
theorem alertsApply_isSome_of_shortId (declare : Bytes → Bytes → ℕ) (alerts : Alerts T)
    (h : ShortId body) : (alertsApply V declare alerts body).isSome = true := by
  refine alertsApply_isSome declare fun id added _ hid _ hadd => ?_
  have hself : (clearedRule V id).id = id :=
    Lib.strlcpy_eq_self (zero_notMem_apiQueryParam hid) (h id hid)
  have hmem : clearedRule V id ∈ added.rules := by
    rw [(addRule_rules hadd).2.1]
    exact List.mem_append_right _ (List.mem_singleton.mpr rfl)
  have hfind := findRule_of_mem hmem
  rw [hself] at hfind
  rw [hfind]
  rfl

/-- A run whose ids fit does not crash. -/
theorem runFrom_tableStep_isSome (declare : Bytes → Bytes → ℕ) (alerts : Alerts T)
    {run : List (TableEvent V registry)} (hshort : ∀ body, .apply body ∈ run → ShortId body) :
    (runFrom (tableStep declare) alerts run).isSome = true := by
  induction run generalizing alerts with
  | nil => rfl
  | cons event run ih =>
    have hstep : ∃ next, tableStep declare alerts event = some next := by
      cases event with
      | evaluate now values => exact ⟨_, rfl⟩
      | apply body =>
        obtain ⟨result, happly⟩ := Option.isSome_iff_exists.mp (alertsApply_isSome_of_shortId
          (V := V) declare alerts (hshort body (List.mem_cons_self ..)))
        exact ⟨result.1, by rw [tableStep, applyStep, happly]; rfl⟩
    obtain ⟨next, hnext⟩ := hstep
    rw [runFrom, hnext]
    exact ih next fun body hbody => hshort body (List.mem_cons_of_mem _ hbody)

/-- From a new table on, every run of evaluations and of requests whose ids fit keeps the table and
touches one rule with each request. -/
theorem ruleTable_run (registry : MetricRegistry) (events : Bool) (declare : Bytes → Bytes → ℕ)
    (file : List (SavedRule T)) (run : List (TableEvent V registry))
    (hshort : ∀ body, .apply body ∈ run → ShortId body) :
    RuleTableRun declare (alertsSetNotify (alertsNew V registry events declare file)) run where
  survives := runFrom_tableStep_isSome declare _ hshort
  kept := by
    have hall : Lib.Throughout (tableStep declare)
        (alertsSetNotify (alertsNew V registry events declare file)) run fun _ _ => True :=
      fun _ _ _ _ _ => trivial
    exact Lib.always_of_step (tableKept_self _) (fun _ _ _ hkept _ hstep => hkept.step hstep) hall
  frame done body alerts hdone _ := by
    have hmem : TableEvent.apply body ∈ run :=
      hdone.subset (List.mem_append_right _ (List.mem_singleton.mpr rfl))
    obtain ⟨⟨alerts', changed⟩, happly⟩ := Option.isSome_iff_exists.mp
      (alertsApply_isSome_of_shortId (V := V) declare alerts (hshort body hmem))
    exact ⟨alerts', changed, happly, applyFrame_alertsApply happly⟩

/-- The processor rule is read, and a user tries to delete it. -/
theorem ruleTable_run_cpuHigh : RuleTableRun (fun _ _ => 0)
    (alertsSetNotify (alertsNew (Option ℤ) cpuRegistry false (fun _ _ => 0) []))
    [.evaluate 1000 (fun _ : Fin cpuRegistry.count => some (95 : ℤ)),
      .apply (ascii "action=delete&id=cpu_high")] := by
  refine ruleTable_run cpuRegistry false _ [] _ fun body hbody => ?_
  simp only [List.mem_cons, reduceCtorEq, TableEvent.apply.injEq, List.not_mem_nil, or_false,
    false_or] at hbody
  subst hbody
  intro id hid
  have hnamed : apiQueryParam (ascii "action=delete&id=cpu_high") (ascii "id") =
      some (ascii "cpu_high") := by decide +kernel
  obtain rfl := Option.some.inj (hnamed.symm.trans hid)
  decide

end AxisMetrics
