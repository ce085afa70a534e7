import AxisMetrics.Alerts.Firing
import AxisMetrics.Alerts.Table
import AxisMetrics.Lib.Runs

/-!
# What the listener is told

`AlertNotify` is called from the loop of `alertsEvaluate` only. Two other operations end the
firing of a rule without a call: a delete takes the rule away, and a rebuild for new storage
replaces the table by one at rest. In a run that does neither to a firing rule the listener
knows the state of every rule, and in no other run (`announced_iff`).
-/

namespace AxisMetrics

open Lib (Bytes ascii Tells runFrom Always Throughout)

variable {V T : Type} [AlertArith V T] {registry : MetricRegistry}
variable {declare : Bytes → Bytes → ℕ} {alerts alerts' : Alerts T} {id : Bytes}

/-- The alerts over the current registry, and what they have sent so far. -/
structure AlertsWorld (T : Type) where
  registry : MetricRegistry
  alerts : Alerts T
  sent : List (AlertOutput T)

inductive AlertsEvent (V T : Type) where
  /-- An evaluation at a clock reading, of a sample buffer. -/
  | evaluate (now : ℤ) (sample : ℕ → V)
  /-- A request body through the API. -/
  | apply (body : Bytes)
  /-- `rebuild_for_new_storage`: the metrics found now, whether there is an event handler, and
  the rules file. -/
  | rebuild (registry : MetricRegistry) (events : Bool) (file : List (SavedRule T))

/-- The alerts part of `rebuild_for_new_storage`, which is also how they are made at the start. -/
def rebuildAlerts (V : Type) [AlertArith V T] (declare : Bytes → Bytes → ℕ)
    (registry : MetricRegistry) (events : Bool) (file : List (SavedRule T)) : Alerts T :=
  alertsSetNotify (alertsNew V registry events declare file)

/-- One operation on the alerts; `none` where the code crashes. -/
def alertsStep (declare : Bytes → Bytes → ℕ) (world : AlertsWorld T) :
    AlertsEvent V T → Option (AlertsWorld T)
  | .evaluate now sample =>
    let (alerts, sent) := alertsEvaluate world.alerts now fun i : Fin world.registry.count =>
      sample i
    some { world with alerts := alerts, sent := world.sent ++ sent }
  | .apply body =>
    (alertsApply V declare world.alerts body).map fun result =>
      { world with alerts := result.1 }
  | .rebuild registry events file =>
    some { world with
      registry := registry
      alerts := rebuildAlerts V declare registry events file }

/-- The alerts as the application starts them. -/
def alertsStart (V : Type) [AlertArith V T] (declare : Bytes → Bytes → ℕ)
    (registry : MetricRegistry) (events : Bool) (file : List (SavedRule T)) : AlertsWorld T where
  registry := registry
  alerts := rebuildAlerts V declare registry events file
  sent := []

/-- The states that `AlertNotify` was passed for a rule id. -/
def announcedFor (id : Bytes) (sent : List (AlertOutput T)) : List Bool :=
  sent.filterMap fun
    | .event _ _ => none
    | .notify rule firing => if rule.id = id then some firing else none

/-- A rule of that id exists and is firing. -/
def isFiring (alerts : Alerts T) (id : Bytes) : Bool := (findRule alerts id).any AlertRule.firing

/-- For every rule id the notifications alternate, beginning with firing, and the last one says
firing exactly when a rule of that id is. -/
def Announced (world : AlertsWorld T) : Prop :=
  ∀ id, Tells (announcedFor id world.sent) (isFiring world.alerts id)

/-- The event does not take a firing rule away. -/
def KeepsFiring (world : AlertsWorld T) : AlertsEvent V T → Prop
  | .evaluate _ _ => True
  | .apply body => ∀ rule ∈ world.alerts.rules, rule.firing = true → rule.builtin = false →
      apiQueryParam body (ascii "action") = some (ascii "delete") →
      apiQueryParam body (ascii "id") ≠ some rule.id
  | .rebuild _ _ _ => ∀ rule ∈ world.alerts.rules, rule.firing = false

omit [AlertArith V T] in
theorem isFiring_iff : isFiring alerts id = true ↔
    ∃ rule ∈ alerts.rules, rule.id = id ∧ rule.firing = true := by
  unfold isFiring
  rw [Option.any_eq_true]
  constructor
  · rintro ⟨rule, hfind, hfiring⟩
    obtain ⟨hmem, hid⟩ := findRule_eq_some hfind
    exact ⟨rule, hmem, hid, hfiring⟩
  · rintro ⟨rule, hmem, rfl, hfiring⟩
    exact ⟨rule, findRule_of_mem hmem, hfiring⟩

omit [AlertArith V T] in
theorem isFiring_eq_false (h : ∀ rule ∈ alerts.rules, rule.firing = false) :
    isFiring alerts id = false := by
  cases hfiring : isFiring alerts id with
  | false => rfl
  | true =>
    obtain ⟨rule, hmem, -, hon⟩ := isFiring_iff.mp hfiring
    rw [h rule hmem] at hon
    cases hon

omit [AlertArith V T] in
/-- Two tables in which the same ids fire. -/
theorem isFiring_congr (h : ∀ id, (∃ rule ∈ alerts'.rules, rule.id = id ∧ rule.firing = true) ↔
      ∃ rule ∈ alerts.rules, rule.id = id ∧ rule.firing = true) (id : Bytes) :
    isFiring alerts' id = isFiring alerts id := by
  rw [Bool.eq_iff_iff, isFiring_iff, isFiring_iff]
  exact h id

omit [AlertArith V T] in
/-- A change that keeps the ids changes the rule that is found. -/
theorem findRule_mapRules (alerts : Alerts T) (f : AlertRule T → AlertRule T)
    (hf : ∀ rule, (f rule).id = rule.id) (id : Bytes) :
    findRule (alerts.mapRules f hf) id = (findRule alerts id).map f := by
  unfold findRule
  change (alerts.rules.map f).find? _ = _
  rw [List.find?_map]
  congr 2
  funext rule
  simp [hf]

omit [AlertArith V T] in
theorem announcedFor_append (sent sent' : List (AlertOutput T)) :
    announcedFor id (sent ++ sent') = announcedFor id sent ++ announcedFor id sent' :=
  List.filterMap_append

omit [AlertArith V T] in
theorem announcedFor_sendState (events : Bool) (rule : AlertRule T) :
    announcedFor id (sendState events rule) = [] := by
  unfold sendState
  split <;> rfl

omit [AlertArith V T] in
/-- Messages about other rules announce nothing. -/
theorem announcedFor_eq_nil (alerts : Alerts T) {sent : List (AlertOutput T)}
    (h : ∀ output ∈ sent, AboutOther alerts id output) : announcedFor id sent = [] := by
  unfold announcedFor
  rw [List.filterMap_eq_nil_iff]
  intro output ho
  cases output with
  | event declaration state => rfl
  | notify rule firing => exact if_neg (h _ ho)

/-- The turn of a rule announces a change of its state. -/
theorem announcedFor_evaluateRule (events : Bool) (now : ℤ) (values : Fin registry.count → V)
    (rule : AlertRule T) :
    announcedFor rule.id (evaluateRule events true now values rule).2 =
      if (evaluateRule events true now values rule).1.firing = rule.firing then []
      else [(evaluateRule events true now values rule).1.firing] := by
  rw [evaluateRule_outputs]
  split
  · rfl
  · rw [announcedFor_append, announcedFor_sendState, List.nil_append]
    simp [callNotify, announcedFor, evaluateRule_id]

/-- An evaluation announces a change of a rule's state, and nothing else. -/
theorem announcedFor_alertsEvaluate (hnotify : alerts.notify = true) (now : ℤ)
    (values : Fin registry.count → V) (id : Bytes) :
    announcedFor id (alertsEvaluate alerts now values).2 =
      if isFiring (alertsEvaluate alerts now values).1 id = isFiring alerts id then []
      else [isFiring (alertsEvaluate alerts now values).1 id] := by
  have hfound := findRule_mapRules alerts _
    (evaluateRule_id alerts.events alerts.notify now values) id
  unfold isFiring
  rw [show findRule (alertsEvaluate alerts now values).1 id = _ from hfound]
  cases hfind : findRule alerts id with
  | none =>
    refine (announcedFor_eq_nil alerts fun output ho => ?_).trans (if_pos rfl).symm
    obtain ⟨other, hother, hout⟩ := List.mem_flatMap.mp ho
    refine aboutOther_of_turn _ _ _ hother (fun heq => ?_) hout
    exact findRule_eq_none.mp hfind (heq ▸ List.mem_map_of_mem hother)
  | some rule =>
    obtain ⟨hmem, rfl⟩ := findRule_eq_some hfind
    obtain ⟨front, back, hsplit, hother⟩ := alertsEvaluate_split now values hmem
    rw [hsplit, announcedFor_append, announcedFor_append,
      announcedFor_eq_nil alerts fun output ho => hother output (List.mem_append_left _ ho),
      announcedFor_eq_nil alerts fun output ho => hother output (List.mem_append_right _ ho),
      List.nil_append, List.append_nil, hnotify]
    exact announcedFor_evaluateRule _ _ _ _

/-- A change of the table that takes no firing rule away leaves the firing rules as they are. -/
theorem isFiring_alertsApply {body : Bytes} {changed : Bool}
    (hkeeps : ∀ rule ∈ alerts.rules, rule.firing = true → rule.builtin = false →
      apiQueryParam body (ascii "action") = some (ascii "delete") →
      apiQueryParam body (ascii "id") ≠ some rule.id)
    (h : alertsApply V declare alerts body = some (alerts', changed)) (id : Bytes) :
    isFiring alerts' id = isFiring alerts id := by
  refine isFiring_congr (fun id => ?_) id
  -- a save changes neither the id of a rule nor whether it fires
  have hsave : ∀ (saved : Bytes) (rule : AlertRule T),
      (if rule.id = saved then saveRule V alerts.events declare body rule else rule).id = rule.id ∧
      (if rule.id = saved then saveRule V alerts.events declare body rule else rule).firing =
        rule.firing := by
    intro saved rule
    obtain ⟨-, hfiring, hid⟩ := saveRule_runtime (V := V) declare body alerts.events rule
    split
    · exact ⟨hid, hfiring⟩
    · exact ⟨rfl, rfl⟩
  rcases alertsApply_cases h with rfl | ⟨gone, hgone, haction, hid, hbuiltin, hrules, -⟩ |
    ⟨saved, -, -, -, hrules, -⟩ | ⟨saved, -, -, -, hrules, -⟩
  · exact Iff.rfl
  · have hoff : gone.firing = false := by
      by_contra hon
      exact hkeeps gone hgone (Bool.eq_true_of_not_eq_false hon) hbuiltin haction hid
    rw [hrules]
    constructor
    · rintro ⟨rule, hmem, hrule⟩
      exact ⟨rule, List.mem_of_mem_eraseP hmem, hrule⟩
    · rintro ⟨rule, hmem, rfl, hfiring⟩
      refine ⟨rule, (List.mem_eraseP_of_neg fun heq => ?_).mpr hmem, rfl, hfiring⟩
      have hsame : rule = gone := by
        have hfind := findRule_of_mem hmem
        rw [of_decide_eq_true heq, findRule_of_mem hgone] at hfind
        exact (Option.some.inj hfind).symm
      rw [hsame, hoff] at hfiring
      cases hfiring
  · rw [hrules]
    simp only [List.mem_map, exists_exists_and_eq_and, (hsave _ _).1, (hsave _ _).2]
  · rw [hrules]
    simp only [List.mem_map, exists_exists_and_eq_and, (hsave _ _).1, (hsave _ _).2,
      List.mem_append, List.mem_singleton]
    constructor
    · rintro ⟨rule, hmem | rfl, hid, hfiring⟩
      · exact ⟨rule, hmem, hid, hfiring⟩
      · cases hfiring
    · rintro ⟨rule, hmem, hrule⟩
      exact ⟨rule, Or.inl hmem, hrule⟩

/-- A delete of a custom rule succeeds, and the rule is gone. -/
theorem alertsApply_delete (declare : Bytes → Bytes → ℕ) {body : Bytes} {rule : AlertRule T}
    (hmem : rule ∈ alerts.rules) (hbuiltin : rule.builtin = false)
    (haction : apiQueryParam body (ascii "action") = some (ascii "delete"))
    (hid : apiQueryParam body (ascii "id") = some rule.id) :
    ∃ alerts', alertsApply V declare alerts body = some (alerts', true) ∧
      isFiring alerts' rule.id = false := by
  refine ⟨alerts.sublist (alerts.rules.eraseP fun other => other.id = rule.id)
    List.eraseP_sublist, ?_, ?_⟩
  · unfold alertsApply applyDelete
    rw [haction, hid]
    dsimp only
    rw [if_pos rfl, findRule_of_mem hmem]
    dsimp only
    rw [hbuiltin]
    rfl
  · cases hfiring : isFiring (alerts.sublist (alerts.rules.eraseP fun other => other.id = rule.id)
      List.eraseP_sublist) rule.id with
    | false => rfl
    | true =>
      obtain ⟨other, hother, hsame, -⟩ := isFiring_iff.mp hfiring
      -- ids are distinct, so the rule that was erased was the only one
      obtain ⟨gone, front, back, -, hgone, hsplit, herase⟩ :=
        List.exists_of_eraseP (p := fun other : AlertRule T => decide (other.id = rule.id)) hmem
          (decide_eq_true rfl)
      have hnodup := alerts.nodup
      rw [hsplit, List.map_append, List.map_cons, List.nodup_middle, List.nodup_cons,
        of_decide_eq_true hgone, ← hsame, ← List.map_append, ← herase] at hnodup
      exact absurd (List.mem_map_of_mem hother) hnodup.1

theorem isFiring_rebuildAlerts (declare : Bytes → Bytes → ℕ) (registry : MetricRegistry)
    (events : Bool) (file : List (SavedRule T)) (id : Bytes) :
    isFiring (rebuildAlerts V declare registry events file) id = false :=
  isFiring_eq_false fun rule hrule => (atRest_alertsNew registry events file rule hrule).1

/-- An evaluation keeps the listener informed. -/
theorem announced_evaluate {world : AlertsWorld T} (hnotify : world.alerts.notify = true)
    (h : Announced world) (now : ℤ) (values : Fin world.registry.count → V) :
    Announced { world with
      alerts := (alertsEvaluate world.alerts now values).1
      sent := world.sent ++ (alertsEvaluate world.alerts now values).2 } := by
  intro id
  rw [announcedFor_append, announcedFor_alertsEvaluate hnotify]
  exact (h id).update _

/-- Someone always listens. -/
theorem alertsStep_notify {world world' : AlertsWorld T} {event : AlertsEvent V T}
    (hnotify : world.alerts.notify = true) (h : alertsStep declare world event = some world') :
    world'.alerts.notify = true := by
  cases event with
  | evaluate now sample =>
    obtain rfl := Option.some.inj h
    exact hnotify
  | apply body =>
    obtain ⟨⟨alerts', changed⟩, happly, rfl⟩ := Option.map_eq_some_iff.mp h
    rcases alertsApply_cases happly with rfl | ⟨-, -, -, -, -, -, hsame⟩ |
      ⟨-, -, -, -, -, hsame⟩ | ⟨-, -, -, -, -, hsame⟩
    · exact hnotify
    all_goals exact hsame.trans hnotify
  | rebuild registry events file =>
    obtain rfl := Option.some.inj h
    rfl

/-- A step that takes no firing rule away keeps the listener informed. -/
theorem announced_step {world world' : AlertsWorld T} {event : AlertsEvent V T}
    (hnotify : world.alerts.notify = true) (hannounced : Announced world)
    (hkeeps : KeepsFiring world event) (h : alertsStep declare world event = some world') :
    Announced world' := by
  cases event with
  | evaluate now sample =>
    obtain rfl := Option.some.inj h
    exact announced_evaluate hnotify hannounced now _
  | apply body =>
    obtain ⟨⟨alerts', changed⟩, happly, rfl⟩ := Option.map_eq_some_iff.mp h
    intro id
    have hid := hannounced id
    rwa [← isFiring_alertsApply hkeeps happly] at hid
  | rebuild registry events file =>
    obtain rfl := Option.some.inj h
    intro id
    have hid := hannounced id
    rw [isFiring_eq_false hkeeps] at hid
    rwa [← isFiring_rebuildAlerts (V := V) declare registry events file id] at hid

/-- A step that takes a firing rule away leaves the listener with a rule that fires. -/
theorem not_announced_step {world : AlertsWorld T} {event : AlertsEvent V T}
    (hannounced : Announced world) (htakes : ¬ KeepsFiring world event) :
    ∃ world', alertsStep declare world event = some world' ∧ ¬ Announced world' := by
  -- what was last announced was true, and it is no longer
  have hstale : ∀ {rule : AlertRule T} {world' : AlertsWorld T}, rule ∈ world.alerts.rules →
      rule.firing = true → world'.sent = world.sent → isFiring world'.alerts rule.id = false →
      ¬ Announced world' := by
    intro rule world' hmem hfiring hsent hoff hannounced'
    have hlast := (hannounced rule.id).last.mpr (isFiring_iff.mpr ⟨rule, hmem, rfl, hfiring⟩)
    rw [← hsent] at hlast
    rw [(hannounced' rule.id).last.mp hlast] at hoff
    cases hoff
  cases event with
  | evaluate now sample => exact absurd trivial htakes
  | apply body =>
    unfold KeepsFiring at htakes
    push Not at htakes
    obtain ⟨rule, hmem, hfiring, hbuiltin, haction, hid⟩ := htakes
    obtain ⟨alerts', happly, hoff⟩ :=
      alertsApply_delete (V := V) declare hmem hbuiltin haction hid
    refine ⟨{ world with alerts := alerts' }, ?_, hstale hmem hfiring rfl hoff⟩
    rw [alertsStep, happly]
    rfl
  | rebuild registry events file =>
    unfold KeepsFiring at htakes
    push Not at htakes
    obtain ⟨rule, hmem, hfiring⟩ := htakes
    exact ⟨_, rfl, hstale hmem (Bool.eq_true_of_not_eq_false hfiring) rfl
      (isFiring_rebuildAlerts declare registry events file rule.id)⟩

/-- In exactly the runs that neither delete a firing rule nor rebuild while one fires, what was
announced matches what is true at every point. -/
theorem announced_iff (declare : Bytes → Bytes → ℕ) (registry : MetricRegistry) (events : Bool)
    (file : List (SavedRule T)) (run : List (AlertsEvent V T)) :
    Always (alertsStep declare) (alertsStart V declare registry events file) run Announced ↔
      Throughout (alertsStep declare) (alertsStart V declare registry events file) run
        KeepsFiring := by
  refine Lib.always_iff_throughout (fun world => world.alerts.notify = true) rfl ?_
    (fun _ _ _ => alertsStep_notify) (fun _ _ _ => announced_step)
    (fun _ _ _ => not_announced_step)
  intro id
  have hoff := isFiring_rebuildAlerts (V := V) declare registry events file id
  exact hoff.symm ▸ Lib.tells_nil

/-- A custom rule for a busy processor is saved, fires at once, and is deleted. -/
abbrev deleteRun : List (AlertsEvent (Option ℤ) ℤ) :=
  [.apply (ascii "action=save&id=busy&metric=cpu.usage&threshold=90&enabled=yes"),
    .evaluate 1000 (fun _ => some 95), .apply (ascii "action=delete&id=busy")]

/-- The listener still holds the deleted rule for firing. -/
theorem not_announced_deleteRun :
    ¬ Always (alertsStep fun _ _ => 0) (alertsStart (Option ℤ) (fun _ _ => 0) cpuRegistry false [])
      deleteRun Announced := by
  intro h
  have hend : (runFrom (alertsStep fun _ _ => 0)
      (alertsStart (Option ℤ) (fun _ _ => 0) cpuRegistry false []) deleteRun).map (fun world =>
        ((announcedFor (ascii "busy") world.sent).getLast?,
          isFiring world.alerts (ascii "busy"))) = some (some true, false) := by
    decide +kernel
  obtain ⟨world, hrun, hworld⟩ := Option.map_eq_some_iff.mp hend
  obtain ⟨hlast, hoff⟩ := Prod.mk.inj hworld
  have hon := (h deleteRun world List.prefix_rfl hrun (ascii "busy")).last.mp hlast
  rw [hoff] at hon
  cases hon

end AxisMetrics
