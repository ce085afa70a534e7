import AxisMetrics.Alerts.Defs
import AxisMetrics.Lib.Keyed

/-!
# What a change does to the rule table

One lemma for each operation that replaces rules: what `alertsApply` can turn a table into,
and that every rule of a new table starts at rest.
-/

namespace AxisMetrics

open Lib (Bytes ascii)

variable {V T : Type} [AlertArith V T] {registry : MetricRegistry}
variable {declare : Bytes → Bytes → ℕ} {alerts alerts' : Alerts T} {body : Bytes} {changed : Bool}

omit [AlertArith V T] in
theorem addRule_rules {source : AlertRule T} (h : addRule alerts source = some alerts') :
    (alerts.rules.length < MAX_RULES ∧ findRule alerts source.id = none) ∧
      alerts'.rules = alerts.rules ++ [source] ∧
      alerts'.events = alerts.events ∧ alerts'.notify = alerts.notify := by
  unfold addRule at h
  split at h
  · next hroom =>
    obtain rfl := Option.some.inj h
    exact ⟨hroom, rfl, rfl, rfl⟩
  · cases h

omit [AlertArith V T] in
theorem findRule_eq_some {id : Bytes} {rule : AlertRule T} (h : findRule alerts id = some rule) :
    rule ∈ alerts.rules ∧ rule.id = id :=
  ⟨List.mem_of_find?_eq_some h, by simpa using List.find?_some h⟩

omit [AlertArith V T] in
/-- With distinct ids, a rule of the table is the one its id finds. -/
theorem findRule_of_mem {rule : AlertRule T} (hrule : rule ∈ alerts.rules) :
    findRule alerts rule.id = some rule := Lib.find?_key alerts.nodup hrule

omit [AlertArith V T] in
theorem eq_of_id {rule rule' : AlertRule T} (h : rule ∈ alerts.rules) (h' : rule' ∈ alerts.rules)
    (hid : rule.id = rule'.id) : rule = rule' :=
  Option.some.inj ((findRule_of_mem h).symm.trans (hid ▸ findRule_of_mem h'))

omit [AlertArith V T] in
/-- A delete of a rule that is there and not built in takes it out; others change nothing. -/
theorem applyDelete_cases (alerts : Alerts T) (id : Bytes) :
    (applyDelete alerts id).1 = alerts ∨
    ∃ rule ∈ alerts.rules, rule.id = id ∧ rule.builtin = false ∧
      (applyDelete alerts id).1.rules = alerts.rules.eraseP (fun other => other.id = rule.id) ∧
      (applyDelete alerts id).1.notify = alerts.notify := by
  unfold applyDelete
  cases hfind : findRule alerts id with
  | none => exact Or.inl rfl
  | some rule =>
    obtain ⟨hmem, rfl⟩ := findRule_eq_some hfind
    dsimp only
    cases hbuiltin : rule.builtin with
    | true => exact Or.inl rfl
    | false => exact Or.inr ⟨rule, hmem, rfl, hbuiltin, rfl, rfl⟩

/-- A save changes the rule of its id, which it adds first where there is none and room is left. -/
theorem applySave_cases {id : Bytes}
    (h : applySave V declare alerts body id = some (alerts', changed)) :
    alerts' = alerts ∨
    ((findRule alerts id).isSome ∧
      alerts'.rules = alerts.rules.map (fun rule =>
        if rule.id = id then saveRule V alerts.events declare body rule else rule) ∧
      alerts'.notify = alerts.notify) ∨
    ((findRule alerts id = none ∧ alerts.rules.length < MAX_RULES ∧ (clearedRule V id).id = id) ∧
      alerts'.rules = (alerts.rules ++ [clearedRule V id]).map (fun rule =>
        if rule.id = id then saveRule V alerts.events declare body rule else rule) ∧
      alerts'.notify = alerts.notify) := by
  unfold applySave at h
  cases hfind : findRule alerts id with
  | some rule =>
    simp only [hfind, Option.isSome_some, if_true] at h
    obtain rfl := congrArg Prod.fst (Option.some.inj h)
    exact Or.inr (Or.inl ⟨rfl, rfl, rfl⟩)
  | none =>
    simp only [hfind, Option.isSome_none, Bool.false_eq_true, if_false] at h
    cases hadd : addRule alerts (clearedRule V id) with
    | none =>
      rw [hadd] at h
      exact Or.inl (congrArg Prod.fst (Option.some.inj h)).symm
    | some added =>
      rw [hadd] at h
      dsimp only at h
      obtain ⟨⟨hroom, -⟩, hrules, hevents, hnotify⟩ := addRule_rules hadd
      cases hagain : findRule added id with
      | none =>
        rw [hagain] at h
        cases h
      | some rule =>
        rw [hagain] at h
        obtain rfl := congrArg Prod.fst (Option.some.inj h)
        have hfits : (clearedRule V id).id = id := by
          obtain ⟨hmem, hsame⟩ := findRule_eq_some hagain
          rw [hrules] at hmem
          rcases List.mem_append.mp hmem with hold | hnew
          · exact absurd (List.mem_map.mpr ⟨rule, hold, hsame⟩) (findRule_eq_none.mp hfind)
          · rw [← List.mem_singleton.mp hnew]
            exact hsame
        refine Or.inr (Or.inr ⟨⟨rfl, hroom, hfits⟩, ?_, hnotify⟩)
        rw [← hrules, ← hevents]
        rfl

/-- The four things a change can do: nothing, delete a rule, save one, or add one and save it. -/
theorem alertsApply_cases (h : alertsApply V declare alerts body = some (alerts', changed)) :
    alerts' = alerts ∨
    (∃ rule ∈ alerts.rules, apiQueryParam body (ascii "action") = some (ascii "delete") ∧
      apiQueryParam body (ascii "id") = some rule.id ∧ rule.builtin = false ∧
      alerts'.rules = alerts.rules.eraseP (fun other => other.id = rule.id) ∧
      alerts'.notify = alerts.notify) ∨
    (∃ id, apiQueryParam body (ascii "action") = some (ascii "save") ∧
      apiQueryParam body (ascii "id") = some id ∧ (findRule alerts id).isSome ∧
      alerts'.rules = alerts.rules.map (fun rule =>
        if rule.id = id then saveRule V alerts.events declare body rule else rule) ∧
      alerts'.notify = alerts.notify) ∨
    (∃ id, apiQueryParam body (ascii "action") = some (ascii "save") ∧
      apiQueryParam body (ascii "id") = some id ∧
      (findRule alerts id = none ∧ alerts.rules.length < MAX_RULES ∧
        (clearedRule V id).id = id) ∧
      alerts'.rules = (alerts.rules ++ [clearedRule V id]).map (fun rule =>
        if rule.id = id then saveRule V alerts.events declare body rule else rule) ∧
      alerts'.notify = alerts.notify) := by
  unfold alertsApply at h
  cases haction : apiQueryParam body (ascii "action") with
  | none =>
    rw [haction] at h
    exact Or.inl (congrArg Prod.fst (Option.some.inj h)).symm
  | some action =>
    cases hid : apiQueryParam body (ascii "id") with
    | none =>
      rw [haction, hid] at h
      exact Or.inl (congrArg Prod.fst (Option.some.inj h)).symm
    | some id =>
      rw [haction, hid] at h
      dsimp only at h
      split_ifs at h with hdelete hsave
      · subst hdelete
        obtain rfl := congrArg Prod.fst (Option.some.inj h)
        rcases applyDelete_cases alerts id with hsame | ⟨rule, hmem, rfl, hdeleted⟩
        · exact Or.inl hsame
        · exact Or.inr (Or.inl ⟨rule, hmem, rfl, rfl, hdeleted⟩)
      · subst hsave
        rcases applySave_cases h with hsame | hsaved | hadded
        · exact Or.inl hsame
        · exact Or.inr (Or.inr (Or.inl ⟨id, rfl, rfl, hsaved⟩))
        · exact Or.inr (Or.inr (Or.inr ⟨id, rfl, rfl, hadded⟩))
      · exact Or.inl (congrArg Prod.fst (Option.some.inj h)).symm

theorem saveRule_runtime (declare : Bytes → Bytes → ℕ) (body : Bytes) (events : Bool)
    (rule : AlertRule T) :
    (saveRule V events declare body rule).breachSince = rule.breachSince ∧
      (saveRule V events declare body rule).firing = rule.firing ∧
      (saveRule V events declare body rule).id = rule.id := by
  unfold saveRule declareRule
  split <;> exact ⟨rfl, rfl, rfl⟩

theorem saveRule_condition (declare : Bytes → Bytes → ℕ) (body : Bytes) (events : Bool)
    (rule : AlertRule T) :
    (saveRule V events declare body rule).metric = (saveFields V body rule).metric ∧
      (saveRule V events declare body rule).op = (saveFields V body rule).op ∧
      (saveRule V events declare body rule).threshold = (saveFields V body rule).threshold := by
  unfold saveRule declareRule
  split <;> exact ⟨rfl, rfl, rfl⟩

/-- Where the rules of a changed table come from: an old rule as it was, an old rule saved, or a
new rule at rest. -/
theorem mem_alertsApply (h : alertsApply V declare alerts body = some (alerts', changed))
    {rule' : AlertRule T} (hmem : rule' ∈ alerts'.rules) :
    rule' ∈ alerts.rules ∨
    (∃ rule ∈ alerts.rules, apiQueryParam body (ascii "action") = some (ascii "save") ∧
      apiQueryParam body (ascii "id") = some rule.id ∧
      rule' = saveRule V alerts.events declare body rule) ∨
    (rule'.firing = false ∧ rule'.breachSince = 0) := by
  rcases alertsApply_cases h with rfl | ⟨rule, -, -, -, -, hrules, -⟩ |
    ⟨id, haction, hid, -, hrules, -⟩ | ⟨id, haction, hid, -, hrules, -⟩
  · exact Or.inl hmem
  · rw [hrules] at hmem
    exact Or.inl (List.mem_of_mem_eraseP hmem)
  · rw [hrules] at hmem
    obtain ⟨rule, hrule, rfl⟩ := List.mem_map.mp hmem
    split
    · next heq => exact Or.inr (Or.inl ⟨rule, hrule, haction, heq ▸ hid, rfl⟩)
    · exact Or.inl hrule
  · rw [hrules] at hmem
    obtain ⟨rule, hrule, rfl⟩ := List.mem_map.mp hmem
    obtain ⟨hsince, hfiring, -⟩ := saveRule_runtime (V := V) declare body alerts.events rule
    rcases List.mem_append.mp hrule with hold | hnew
    · split
      · next heq => exact Or.inr (Or.inl ⟨rule, hold, haction, heq ▸ hid, rfl⟩)
      · exact Or.inl hold
    · obtain rfl := List.mem_singleton.mp hnew
      refine Or.inr (Or.inr ?_)
      split
      · exact ⟨hfiring, hsince⟩
      · exact ⟨rfl, rfl⟩

omit [AlertArith V T] in
theorem mem_tryAddRule {source rule : AlertRule T} (h : rule ∈ (tryAddRule alerts source).rules) :
    rule ∈ alerts.rules ∨ rule = source := by
  unfold tryAddRule at h
  cases hadd : addRule alerts source with
  | none =>
    rw [hadd] at h
    exact Or.inl h
  | some added =>
    rw [hadd, Option.getD_some, (addRule_rules hadd).2.1] at h
    exact (List.mem_append.mp h).imp_right List.mem_singleton.mp

/-- Where the rules of a loaded table come from. -/
theorem mem_loadRules {file : List (SavedRule T)} {rule : AlertRule T}
    (h : rule ∈ (loadRules V alerts file).rules) :
    rule ∈ alerts.rules ∨ ∃ saved ∈ file, rule = loadRule V saved ∧ rule.metric ≠ [] := by
  unfold loadRules at h
  induction file generalizing alerts with
  | nil => exact Or.inl h
  | cons saved file ih =>
    rw [List.foldl_cons] at h
    rcases ih h with hhere | ⟨other, hother, hrule⟩
    · split at hhere
      · exact Or.inl hhere
      · next hmetric =>
        rcases mem_tryAddRule hhere with hold | rfl
        · exact Or.inl hold
        · exact Or.inr ⟨saved, List.mem_cons_self .., rfl, hmetric⟩
    · exact Or.inr ⟨other, List.mem_cons_of_mem _ hother, hrule⟩

/-- Where the rules of a table come from to which built-in rules were added. -/
theorem mem_addBuiltins {rules : List BuiltinRule} {rule : AlertRule T}
    (h : rule ∈ (rules.foldl (addBuiltin V) alerts).rules) :
    rule ∈ alerts.rules ∨ ∃ expected ∈ rules, rule = builtinRule V expected := by
  induction rules generalizing alerts with
  | nil => exact Or.inl h
  | cons expected rules ih =>
    rw [List.foldl_cons] at h
    rcases ih h with hhere | ⟨other, hother, hrule⟩
    · rw [addBuiltin] at hhere
      split at hhere
      · exact Or.inl hhere
      · rcases mem_tryAddRule hhere with hold | rfl
        · exact Or.inl hold
        · exact Or.inr ⟨expected, List.mem_cons_self .., rfl⟩
    · exact Or.inr ⟨other, List.mem_cons_of_mem _ hother, hrule⟩

/-- No rules yet. -/
def noAlerts (T : Type) (events : Bool) : Alerts T :=
  ⟨[], events, false, Nat.zero_le _, List.nodup_nil⟩

/-- The rules that are read are all in the table to which built-in rules are added. -/
theorem mem_addBuiltins_of_mem {rules : List BuiltinRule} {rule : AlertRule T}
    (h : rule ∈ alerts.rules) : rule ∈ (rules.foldl (addBuiltin V) alerts).rules := by
  induction rules generalizing alerts with
  | nil => exact h
  | cons expected rules ih =>
    rw [List.foldl_cons]
    refine ih ?_
    rw [addBuiltin]
    split
    · exact h
    · rw [tryAddRule]
      cases hadd : addRule alerts (builtinRule V expected) with
      | none => exact h
      | some added =>
        rw [Option.getD_some, (addRule_rules hadd).2.1]
        exact List.mem_append_left _ h

/-- A new table is what was read and added, without the built-in rules that are stale. -/
theorem mem_alertsNew_iff {events : Bool} {file : List (SavedRule T)} {rule : AlertRule T} :
    rule ∈ (alertsNew V registry events declare file).rules ↔
      ∃ kept ∈ ((expectedRules registry).foldl (addBuiltin V)
          (loadRules V (noAlerts T events) file)).rules,
        (kept.builtin = true → kept.id ∈ (expectedRules registry).map BuiltinRule.id) ∧
          rule = declareRule events declare kept := by
  have hstale : ∀ kept : AlertRule T,
      (!kept.builtin || ((expectedRules registry).map BuiltinRule.id).contains kept.id) = true ↔
        (kept.builtin = true → kept.id ∈ (expectedRules registry).map BuiltinRule.id) := by
    intro kept
    cases kept.builtin <;> simp
  constructor
  · intro h
    obtain ⟨kept, hkept, rfl⟩ := List.mem_map.mp h
    obtain ⟨hmem, hexpected⟩ := List.mem_filter.mp hkept
    exact ⟨kept, hmem, (hstale kept).mp hexpected, rfl⟩
  · rintro ⟨kept, hmem, hexpected, rfl⟩
    exact List.mem_map.mpr
      ⟨kept, List.mem_filter.mpr ⟨hmem, (hstale kept).mpr hexpected⟩, rfl⟩

/-- Where the rules of a new table come from: the rules file, or what the device is expected to
have. -/
theorem mem_alertsNew {events : Bool} {file : List (SavedRule T)} {rule : AlertRule T}
    (h : rule ∈ (alertsNew V registry events declare file).rules) :
    ∃ kept, rule = declareRule events declare kept ∧
      (kept ∈ (loadRules V (noAlerts T events) file).rules ∨
        ∃ expected ∈ expectedRules registry, kept = builtinRule V expected) ∧
      (kept.builtin = true → kept.id ∈ (expectedRules registry).map BuiltinRule.id) := by
  obtain ⟨kept, hmem, hexpected, hrule⟩ := mem_alertsNew_iff.mp h
  exact ⟨kept, hrule, mem_addBuiltins hmem, hexpected⟩

/-- What holds of every rule that is read and of every built-in rule holds of a new table. -/
theorem forall_alertsNew {p : AlertRule T → Prop} (events : Bool) (file : List (SavedRule T))
    (hload : ∀ saved, p (loadRule V saved))
    (hbuiltin : ∀ expected ∈ expectedRules registry, p (builtinRule V expected))
    (hdeclare : ∀ rule, p rule → p (declareRule events declare rule)) :
    ∀ rule ∈ (alertsNew V registry events declare file).rules, p rule := by
  intro rule hrule
  obtain ⟨kept, rfl, hloaded | ⟨expected, hexpected, rfl⟩, -⟩ := mem_alertsNew hrule
  · obtain ⟨saved, -, rfl, -⟩ := (mem_loadRules hloaded).resolve_left List.not_mem_nil
    exact hdeclare _ (hload saved)
  · exact hdeclare _ (hbuiltin expected hexpected)

/-- No rule of the table fires or has its timer running. -/
def AtRest (alerts : Alerts T) : Prop :=
  ∀ rule ∈ alerts.rules, rule.firing = false ∧ rule.breachSince = 0

/-- A new table is at rest, whatever the rules file holds. -/
theorem atRest_alertsNew (registry : MetricRegistry) (events : Bool) (file : List (SavedRule T)) :
    AtRest (alertsNew V registry events declare file) := by
  refine forall_alertsNew events file (fun _ => ⟨rfl, rfl⟩) (fun _ _ => ⟨rfl, rfl⟩) ?_
  intro rule hrest
  unfold declareRule
  split <;> exact hrest

end AxisMetrics
