import AxisMetrics.Alerts.Announce

/-!
# Evaluation one rule at a time

The threads of other clients can run between two turns of the loop of `alertsEvaluate`, so a
turn is a step of its own: an evaluation is the turns of all rules, one after another.
-/

namespace AxisMetrics

open Lib (Bytes Tells)

variable {V T : Type} [AlertArith V T] {registry : MetricRegistry} {alerts : Alerts T}

/-- The turn of the rule of an id, in the loop of `alerts_evaluate`. -/
def evaluateTurn (alerts : Alerts T) (now : ℤ) (values : Fin registry.count → V) (id : Bytes) :
    Alerts T × List (AlertOutput T) :=
  (updateRule alerts id (fun rule => (evaluateRule alerts.events alerts.notify now values rule).1)
      (evaluated_id alerts now values),
    match findRule alerts id with
    | none => []
    | some rule => (evaluateRule alerts.events alerts.notify now values rule).2)

/-- The turns of several rules. -/
def evaluateTurns (alerts : Alerts T) (now : ℤ) (values : Fin registry.count → V) :
    List Bytes → Alerts T × List (AlertOutput T)
  | [] => (alerts, [])
  | id :: ids =>
    let (alerts, sent) := evaluateTurn alerts now values id
    let (alerts, sent') := evaluateTurns alerts now values ids
    (alerts, sent ++ sent')

omit [AlertArith V T] in
theorem findRule_updateRule {id id' : Bytes} (h : id' ≠ id) (f : AlertRule T → AlertRule T)
    (hf : ∀ rule, (f rule).id = rule.id) :
    findRule (updateRule alerts id f hf) id' = findRule alerts id' := by
  rw [updateRule, findRule_mapRules]
  cases hfind : findRule alerts id' with
  | none => rfl
  | some rule =>
    have hid := (findRule_eq_some hfind).2
    exact congrArg some (if_neg (hid ▸ h))

omit [AlertArith V T] in
theorem findRule_updateRule_self (id : Bytes) (f : AlertRule T → AlertRule T)
    (hf : ∀ rule, (f rule).id = rule.id) :
    findRule (updateRule alerts id f hf) id = (findRule alerts id).map f := by
  rw [updateRule, findRule_mapRules]
  cases hfind : findRule alerts id with
  | none => rfl
  | some rule => exact congrArg some (if_pos (findRule_eq_some hfind).2)

/-- Turns of distinct rules do not disturb each other. -/
theorem evaluateTurns_eq (now : ℤ) (values : Fin registry.count → V) {ids : List Bytes}
    (hids : ids.Nodup) (alerts : Alerts T) :
    (evaluateTurns alerts now values ids).1 = alerts.mapRules (fun rule =>
      if rule.id ∈ ids then (evaluateRule alerts.events alerts.notify now values rule).1 else rule)
      (fun rule => by split <;> simp [evaluateRule_id]) ∧
    (evaluateTurns alerts now values ids).2 = ids.flatMap fun id =>
      match findRule alerts id with
      | none => []
      | some rule => (evaluateRule alerts.events alerts.notify now values rule).2 := by
  induction ids generalizing alerts with
  | nil => exact ⟨Alerts.ext (by simp [evaluateTurns, Alerts.mapRules]) rfl rfl, rfl⟩
  | cons id ids ih =>
    obtain ⟨hid, hids⟩ := List.nodup_cons.mp hids
    obtain ⟨hrules, hsent⟩ := ih hids (evaluateTurn alerts now values id).1
    refine ⟨?_, ?_⟩
    · rw [evaluateTurns]
      dsimp only
      rw [hrules]
      refine Alerts.ext ?_ rfl rfl
      change (alerts.rules.map _).map _ = alerts.rules.map _
      rw [List.map_map]
      refine List.map_congr_left fun rule _ => ?_
      dsimp only [Function.comp_apply]
      by_cases hrule : rule.id = id
      · rw [if_pos hrule, evaluateRule_id, if_neg (hrule ▸ hid),
          if_pos (hrule ▸ List.mem_cons_self)]
      · rw [if_neg hrule]
        exact if_congr (by simp [hrule]) rfl rfl
    · rw [evaluateTurns, List.flatMap_cons]
      dsimp only
      rw [hsent]
      congr 1
      refine List.flatMap_congr fun id' hid' => ?_
      have hne : id' ≠ id := fun heq => hid (heq ▸ hid')
      rw [evaluateTurn, findRule_updateRule hne]
      rfl

/-- An evaluation is the turns of the rules in table order. -/
theorem alertsEvaluate_eq_evaluateTurns (alerts : Alerts T) (now : ℤ)
    (values : Fin registry.count → V) :
    alertsEvaluate alerts now values =
      evaluateTurns alerts now values (alerts.rules.map AlertRule.id) := by
  obtain ⟨hrules, hsent⟩ := evaluateTurns_eq now values alerts.nodup alerts
  refine Prod.ext ?_ ?_
  · rw [hrules]
    refine Alerts.ext (List.map_congr_left fun rule hrule => ?_) rfl rfl
    exact (if_pos (List.mem_map_of_mem hrule)).symm
  · rw [hsent, List.flatMap_map]
    refine List.flatMap_congr fun rule hrule => ?_
    rw [findRule_of_mem hrule]

/-- After a turn its rule fires as the turn left it, and the other rules as before. -/
theorem isFiring_evaluateTurn (alerts : Alerts T) (now : ℤ) (values : Fin registry.count → V)
    (id id' : Bytes) :
    isFiring (evaluateTurn alerts now values id).1 id' =
      if id' = id then (findRule alerts id).any fun rule =>
        (evaluateRule alerts.events alerts.notify now values rule).1.firing
      else isFiring alerts id' := by
  unfold isFiring evaluateTurn
  dsimp only
  by_cases hid : id' = id
  · rw [if_pos hid, hid, findRule_updateRule_self, Option.any_map]
  · rw [if_neg hid, findRule_updateRule hid]

/-- A turn announces a change of its rule's state, and nothing else. -/
theorem announcedFor_evaluateTurn (hnotify : alerts.notify = true) (now : ℤ)
    (values : Fin registry.count → V) (id id' : Bytes) :
    announcedFor id' (evaluateTurn alerts now values id).2 =
      if isFiring (evaluateTurn alerts now values id).1 id' = isFiring alerts id' then []
      else [isFiring (evaluateTurn alerts now values id).1 id'] := by
  unfold isFiring evaluateTurn
  by_cases hid : id' = id
  · subst hid
    dsimp only
    rw [findRule_updateRule_self]
    cases hfind : findRule alerts id' with
    | none => exact (if_pos rfl).symm
    | some rule =>
      obtain ⟨-, rfl⟩ := findRule_eq_some hfind
      rw [hnotify]
      exact announcedFor_evaluateRule _ _ _ _
  · dsimp only
    rw [findRule_updateRule hid, if_pos rfl]
    cases hfind : findRule alerts id with
    | none => rfl
    | some rule =>
      obtain ⟨hmem, hrule⟩ := findRule_eq_some hfind
      exact announcedFor_eq_nil alerts fun output ho =>
        aboutOther_of_turn _ _ _ hmem (fun heq => hid (heq.symm.trans hrule)) ho

end AxisMetrics
