import AxisMetrics.Alerts.Saved
import AxisMetrics.Collect.Registry
import Mathlib.Data.Finset.Card
import Mathlib.Data.Finset.Dedup

/-!
# Default cover

`alerts_new` loads the rules file, adds what the device should have, and prunes what is stale, in
this order and in one bounded table. `completeCover_iff` says for which files and registries every
custom rule and every applicable built-in rule is in the table afterwards.
-/

namespace AxisMetrics

open Lib (Bytes ascii strlcpy)

variable {V T : Type} [AlertArith V T] {alerts alerts' : Alerts T} {registry : MetricRegistry}

/-- The space metric of a mounted area. -/
def storageMetric (area : Bytes) : Bytes := ascii "fs." ++ area ++ ascii ".usage"

/-- The space rule of a mounted area. -/
def areaRule (area : Bytes) : BuiltinRule :=
  ⟨ascii "storage_full_" ++ area, area ++ ascii " almost full", storageMetric area, 90, 300⟩

/-- The ids of the registered metrics. -/
def MetricRegistry.ids (registry : MetricRegistry) : List Bytes := registry.defs.map MetricDef.id

deriving instance DecidableEq for BuiltinRule

/-- What `alerts_new` is for: the table has every custom rule of the file, a rule for every
built-in whose metric is registered and for every registered area, and no other built-in rule. -/
structure CompleteCover (V : Type) [AlertArith V T] (registry : MetricRegistry)
    (file : List (SavedRule T)) (alerts : Alerts T) : Prop where
  custom : ∀ saved ∈ file, saved.builtin = false →
    ∃ rule ∈ alerts.rules, rule.config = (loadRule V saved).config
  builtin : ∀ expected ∈ BUILTIN, (registry.metricsFind expected.metric).isSome →
    ∃ rule ∈ alerts.rules, rule.builtin = true ∧ rule.id = expected.id ∧
      rule.metric = expected.metric
  storage : ∀ area, storageMetric area ∈ registry.ids →
    ∃ rule ∈ alerts.rules, rule.builtin = true ∧
      rule.id = strlcpy ALERT_ID_MAX (areaRule area).id ∧ rule.metric = storageMetric area
  applicable : ∀ rule ∈ alerts.rules, rule.builtin = true →
    (∃ expected ∈ BUILTIN, (registry.metricsFind expected.metric).isSome ∧
      rule.id = expected.id) ∨
    ∃ area, storageMetric area ∈ registry.ids ∧ rule.id = strlcpy ALERT_ID_MAX (areaRule area).id

/-- The first rule of a file with an id, of those with a metric. -/
def firstRule (V : Type) [AlertArith V T] (file : List (SavedRule T)) (id : Bytes) :
    Option (AlertRule T) :=
  (loadableRules V file).find? fun rule => rule.id = id

/-- The files and registries for which the cover is complete. -/
structure CoverFits (V : Type) [AlertArith V T] (registry : MetricRegistry)
    (file : List (SavedRule T)) : Prop where
  /-- Every custom rule has a metric, and no other rule in front of it has its id. -/
  custom : ∀ saved ∈ file, saved.builtin = false → (loadRule V saved).metric ≠ [] ∧
    ∀ rule, firstRule V file (loadRule V saved).id = some rule →
      rule.config = (loadRule V saved).config
  /-- The ids of the built-in rules fit. -/
  ids : ∀ expected ∈ expectedRules registry, expected.id.length < ALERT_ID_MAX
  /-- A rule of the file with the id of a built-in rule is that rule. -/
  own : ∀ expected ∈ expectedRules registry, ∀ rule, firstRule V file expected.id = some rule →
    rule.builtin = true ∧ rule.metric = expected.metric
  /-- There is room for the rules of the file, stale ones too, and the built-in rules. -/
  room : ((loadableRules V file).map AlertRule.id ++
    (expectedRules registry).map BuiltinRule.id).toFinset.card ≤ MAX_RULES

section Expected

theorem storageRule_storageMetric (area : Bytes) :
    storageRule (storageMetric area) = some (areaRule area) := by
  have hstart : ascii "fs." <+: storageMetric area :=
    ⟨area ++ ascii ".usage", by rw [storageMetric, List.append_assoc]⟩
  have hsuffix : ascii ".usage" <:+ storageMetric area := List.suffix_append _ _
  have harea : ((storageMetric area).drop 3).take ((storageMetric area).length - 9) = area := by
    have hdrop : (storageMetric area).drop 3 = area ++ ascii ".usage" := by
      rw [storageMetric, List.append_assoc]
      rfl
    have hlength : (storageMetric area).length - 9 = area.length := by
      have hends : (ascii "fs.").length = 3 ∧ (ascii ".usage").length = 6 := by decide
      rw [storageMetric, List.length_append, List.length_append, hends.1, hends.2]
      omega
    rw [hdrop, hlength, List.take_left]
  rw [storageRule, if_pos ⟨hstart, hsuffix⟩, harea]
  rfl

/-- Only `fs.usage` begins and ends like the metric of an area without being one. -/
theorem exists_area {metric : Bytes} (hstart : ascii "fs." <+: metric)
    (hsuffix : ascii ".usage" <:+ metric) (hne : metric ≠ ascii "fs.usage") :
    ∃ area, metric = storageMetric area := by
  obtain ⟨rest, rfl⟩ := hstart
  have hrest : rest <:+ ascii "fs." ++ rest := List.suffix_append _ _
  rcases Nat.lt_or_ge rest.length (ascii ".usage").length with hshort | hlong
  · exfalso
    have htail : rest ∈ (ascii ".usage").tails :=
      (List.mem_tails _ _).mpr (List.suffix_of_suffix_length_le hrest hsuffix hshort.le)
    have hall : ∀ tail ∈ (ascii ".usage").tails, tail.length < (ascii ".usage").length →
        ascii ".usage" <:+ ascii "fs." ++ tail → ascii "fs." ++ tail = ascii "fs.usage" := by
      decide
    exact hne (hall rest htail hshort hsuffix)
  · obtain ⟨area, rfl⟩ := List.suffix_of_suffix_length_le hsuffix hrest hlong
    exact ⟨area, by rw [storageMetric, List.append_assoc]⟩

/-- The built-in rules of a device. -/
theorem mem_expectedRules (hareas : ascii "fs.usage" ∉ registry.ids) {expected : BuiltinRule} :
    expected ∈ expectedRules registry ↔
      (∃ area, storageMetric area ∈ registry.ids ∧ expected = areaRule area) ∨
        expected ∈ BUILTIN ∧ (registry.metricsFind expected.metric).isSome := by
  rw [expectedRules, List.mem_append, List.mem_filter, List.mem_filterMap]
  refine or_congr ?_ Iff.rfl
  constructor
  · rintro ⟨d, hd, hrule⟩
    have hid : d.id ∈ registry.ids := List.mem_map_of_mem hd
    have hends : ascii "fs." <+: d.id ∧ ascii ".usage" <:+ d.id := by
      by_contra hnot
      rw [storageRule, if_neg hnot] at hrule
      cases hrule
    obtain ⟨area, harea⟩ := exists_area hends.1 hends.2 fun h => hareas (h ▸ hid)
    rw [harea, storageRule_storageMetric] at hrule
    exact ⟨area, harea ▸ hid, (Option.some.inj hrule).symm⟩
  · rintro ⟨area, harea, rfl⟩
    obtain ⟨d, hd, hid⟩ := List.mem_map.mp harea
    exact ⟨d, hd, by rw [hid, storageRule_storageMetric]⟩

/-- A built-in rule of a device is known by its id, and by its metric. -/
theorem expectedRules_inj (hareas : ascii "fs.usage" ∉ registry.ids)
    {expected expected' : BuiltinRule} (h : expected ∈ expectedRules registry)
    (h' : expected' ∈ expectedRules registry)
    (hsame : expected.id = expected'.id ∨ expected.metric = expected'.metric) :
    expected = expected' := by
  have hstorage : ∀ rule ∈ BUILTIN, ¬ ascii "storage_full_" <+: rule.id ∧
      ¬ ascii "fs." <+: rule.metric := by decide
  have hid : ∀ area, ascii "storage_full_" <+: (areaRule area).id :=
    fun area => List.prefix_append _ _
  have hmetric : ∀ area, ascii "fs." <+: (areaRule area).metric :=
    fun area => ⟨area ++ ascii ".usage", by rw [areaRule, storageMetric, List.append_assoc]⟩
  rcases (mem_expectedRules hareas).mp h with ⟨area, -, rfl⟩ | ⟨hbuiltin, -⟩ <;>
    rcases (mem_expectedRules hareas).mp h' with ⟨area', -, rfl⟩ | ⟨hbuiltin', -⟩
  · rcases hsame with hsame | hsame
    · rw [List.append_cancel_left hsame]
    · rw [List.append_cancel_left (List.append_cancel_right hsame)]
  · rcases hsame with hsame | hsame
    · exact absurd (hsame ▸ hid area) (hstorage _ hbuiltin').1
    · exact absurd (hsame ▸ hmetric area) (hstorage _ hbuiltin').2
  · rcases hsame with hsame | hsame
    · exact absurd (hsame ▸ hid area') (hstorage _ hbuiltin).1
    · exact absurd (hsame ▸ hmetric area') (hstorage _ hbuiltin).2
  · have hall : ∀ rule ∈ BUILTIN, ∀ rule' ∈ BUILTIN,
        rule.id = rule'.id ∨ rule.metric = rule'.metric → rule = rule' := by decide
    exact hall _ hbuiltin _ hbuiltin' hsame

/-- The metric of a built-in rule fits. -/
theorem builtinRule_metric (hareas : ascii "fs.usage" ∉ registry.ids) {expected : BuiltinRule}
    (h : expected ∈ expectedRules registry) :
    (builtinRule V expected).metric = expected.metric := by
  have hcopy : (builtinRule V expected).metric = strlcpy METRIC_ID_MAX expected.metric := rfl
  rw [hcopy]
  rcases (mem_expectedRules hareas).mp h with ⟨area, harea, rfl⟩ | ⟨hbuiltin, -⟩
  · obtain ⟨d, -, hid⟩ := List.mem_map.mp harea
    have hfits := d.id_lt
    have hzero := d.zero_notMem_id
    rw [hid] at hfits hzero
    exact Lib.strlcpy_eq_self hzero hfits
  · have hall : ∀ rule ∈ BUILTIN, strlcpy METRIC_ID_MAX rule.metric = rule.metric := by
      decide
    exact hall _ hbuiltin

end Expected

section Load

omit [AlertArith V T] in
theorem tryAddRule_of_mem {source : AlertRule T}
    (h : source.id ∈ alerts.rules.map AlertRule.id) : tryAddRule alerts source = alerts := by
  have hfound : ¬ (alerts.rules.length < MAX_RULES ∧ findRule alerts source.id = none) :=
    fun hadd => findRule_eq_none.mp hadd.2 h
  rw [tryAddRule, addRule, dif_neg hfound]
  rfl

/-- With room for all, the first rule of each id is loaded. -/
theorem mem_loadRules_iff {file : List (SavedRule T)} {rule : AlertRule T}
    (hroom : alerts.rules.length + (loadableRules V file).length ≤ MAX_RULES) :
    rule ∈ (loadRules V alerts file).rules ↔ rule ∈ alerts.rules ∨
      (rule.id ∉ alerts.rules.map AlertRule.id ∧
        (loadableRules V file).find? (fun other => other.id = rule.id) = some rule) := by
  induction file generalizing alerts with
  | nil => simp [loadRules, loadableRules]
  | cons saved file ih =>
    rw [loadableRules_cons] at hroom ⊢
    rw [loadRules_cons]
    by_cases hmetric : (loadRule V saved).metric = []
    · rw [if_pos hmetric] at hroom ⊢
      rw [if_pos hmetric]
      exact ih hroom
    · rw [if_neg hmetric, List.length_cons] at hroom
      rw [if_neg hmetric, if_neg hmetric]
      by_cases hknown : (loadRule V saved).id ∈ alerts.rules.map AlertRule.id
      · rw [tryAddRule_of_mem hknown, ih (by omega)]
        refine or_congr Iff.rfl (and_congr_right fun hfresh => ?_)
        have hne : (loadRule V saved).id ≠ rule.id := fun h => hfresh (h ▸ hknown)
        rw [List.find?_cons_of_neg (by simpa using hne)]
      · have hadd := tryAddRule_of_fresh (by omega) hknown
        rw [ih (by rw [hadd, List.length_append, List.length_singleton]; omega), hadd,
          List.mem_append, List.mem_singleton, List.map_append, List.map_singleton,
          List.mem_append, List.mem_singleton, not_or]
        by_cases hid : (loadRule V saved).id = rule.id
        · rw [List.find?_cons_of_pos (by simpa using hid), Option.some.injEq]
          constructor
          · rintro ((hold | rfl) | ⟨⟨-, hne⟩, -⟩)
            · exact Or.inl hold
            · exact Or.inr ⟨hknown, rfl⟩
            · exact absurd hid.symm hne
          · rintro (hold | ⟨-, rfl⟩)
            · exact Or.inl (Or.inl hold)
            · exact Or.inl (Or.inr rfl)
        · rw [List.find?_cons_of_neg (by simpa using hid)]
          have hne : rule ≠ loadRule V saved := fun h => hid (h ▸ rfl)
          have hids : rule.id ≠ (loadRule V saved).id := Ne.symm hid
          simp [hne, hids]

end Load

section Add

theorem addBuiltin_of_mem {expected : BuiltinRule}
    (h : expected.id ∈ alerts.rules.map AlertRule.id) : addBuiltin V alerts expected = alerts := by
  have hsome : (findRule alerts expected.id).isSome := by
    by_contra hnone
    exact findRule_eq_none.mp (Option.not_isSome_iff_eq_none.mp hnone) h
  rw [addBuiltin, if_pos hsome]

theorem addBuiltin_of_notMem {expected : BuiltinRule}
    (h : expected.id ∉ alerts.rules.map AlertRule.id)
    (hid : (builtinRule V expected).id = expected.id) (hroom : alerts.rules.length < MAX_RULES) :
    (addBuiltin V alerts expected).rules = alerts.rules ++ [builtinRule V expected] := by
  have hnone : ¬ (findRule alerts expected.id).isSome := by
    rw [findRule_eq_none.mpr h]
    exact Bool.false_ne_true
  rw [addBuiltin, if_neg hnone]
  exact tryAddRule_of_fresh hroom (by rw [hid]; exact h)

omit [AlertArith V T] in
theorem card_ids (alerts : Alerts T) :
    (alerts.rules.map AlertRule.id).toFinset.card = alerts.rules.length := by
  rw [List.toFinset_card_of_nodup alerts.nodup, List.length_map]

/-- With room for all, every built-in rule whose id fits has its id in the table. -/
theorem mem_ids_addBuiltins {rules : List BuiltinRule}
    (hids : ∀ expected ∈ rules, (builtinRule V expected).id = expected.id)
    (hroom : (alerts.rules.map AlertRule.id ++ rules.map BuiltinRule.id).toFinset.card ≤ MAX_RULES) :
    ∀ expected ∈ rules, expected.id ∈
      (rules.foldl (addBuiltin V) alerts).rules.map AlertRule.id := by
  induction rules generalizing alerts with
  | nil => simp
  | cons first rules ih =>
    obtain ⟨hfirst, hrest⟩ := List.forall_mem_cons.mp hids
    rw [List.foldl_cons]
    have hkeep : ∀ next : Alerts T, first.id ∈ next.rules.map AlertRule.id → first.id ∈
        (rules.foldl (addBuiltin V) next).rules.map AlertRule.id := by
      intro next hmem
      obtain ⟨rule, hrule, hid⟩ := List.mem_map.mp hmem
      exact List.mem_map.mpr ⟨rule, mem_addBuiltins_of_mem hrule, hid⟩
    by_cases hknown : first.id ∈ alerts.rules.map AlertRule.id
    · rw [addBuiltin_of_mem hknown]
      refine List.forall_mem_cons.mpr ⟨hkeep alerts hknown, ih hrest ?_⟩
      refine (Finset.card_le_card fun id hid => ?_).trans hroom
      simp only [List.mem_toFinset, List.mem_append, List.map_cons, List.mem_cons] at hid ⊢
      tauto
    · have hlength : alerts.rules.length < MAX_RULES := by
        have hsub : insert first.id (alerts.rules.map AlertRule.id).toFinset ⊆
            (alerts.rules.map AlertRule.id ++ (first :: rules).map BuiltinRule.id).toFinset := by
          intro id hid
          simp only [Finset.mem_insert, List.mem_toFinset, List.mem_append, List.map_cons,
            List.mem_cons] at hid ⊢
          tauto
        have hcard := (Finset.card_le_card hsub).trans hroom
        rw [Finset.card_insert_of_notMem (by rwa [List.mem_toFinset]), card_ids] at hcard
        omega
      have hadd := addBuiltin_of_notMem (V := V) hknown hfirst hlength
      refine List.forall_mem_cons.mpr ⟨hkeep _ ?_, ih hrest ?_⟩
      · rw [hadd, List.map_append, List.map_singleton, hfirst]
        exact List.mem_append_right _ (List.mem_singleton_self _)
      · refine (Finset.card_le_card fun id hid => ?_).trans hroom
        rw [hadd, List.map_append, List.map_singleton, hfirst] at hid
        simp only [List.mem_toFinset, List.mem_append, List.map_cons, List.mem_cons,
          List.not_mem_nil, or_false] at hid ⊢
        tauto

end Add

section Cover

variable {events : Bool} {declare : Bytes → Bytes → ℕ} {file : List (SavedRule T)}

/-- Two cuts are one. -/
theorem strlcpy_strlcpy (size : ℕ) (text : Bytes) :
    strlcpy size (strlcpy size text) = strlcpy size text := by
  have hzero := Lib.zero_notMem_strlcpy size text
  conv_lhs => rw [strlcpy, Lib.cString_eq_self hzero, strlcpy, List.take_take, min_self]
  rfl

/-- The table has the rule that the code makes for a built-in one. -/
def Covers (alerts : Alerts T) (expected : BuiltinRule) : Prop :=
  ∃ rule ∈ alerts.rules, rule.builtin = true ∧ rule.id = strlcpy ALERT_ID_MAX expected.id ∧
    rule.metric = expected.metric

theorem strlcpy_builtin_id : ∀ expected ∈ BUILTIN,
    strlcpy ALERT_ID_MAX expected.id = expected.id := by decide

/-- A built-in rule that is not applicable is never there, so the others decide. -/
theorem completeCover_iff_covers (hareas : ascii "fs.usage" ∉ registry.ids) :
    CompleteCover V registry file (alertsNew V registry events declare file) ↔
      (∀ saved ∈ file, saved.builtin = false → ∃ rule ∈
        (alertsNew V registry events declare file).rules,
          rule.config = (loadRule V saved).config) ∧
      ∀ expected ∈ expectedRules registry,
        Covers (alertsNew V registry events declare file) expected := by
  constructor
  · intro h
    refine ⟨h.custom, fun expected hmem => ?_⟩
    rcases (mem_expectedRules hareas).mp hmem with ⟨area, harea, rfl⟩ | ⟨hbuiltin, hmetric⟩
    · exact h.storage area harea
    · rw [Covers, strlcpy_builtin_id expected hbuiltin]
      exact h.builtin expected hbuiltin hmetric
  · rintro ⟨hcustom, hcovers⟩
    refine ⟨hcustom, fun expected hbuiltin hmetric => ?_, fun area harea => ?_, ?_⟩
    · rw [← strlcpy_builtin_id expected hbuiltin]
      exact hcovers expected ((mem_expectedRules hareas).mpr (Or.inr ⟨hbuiltin, hmetric⟩))
    · exact hcovers _ ((mem_expectedRules hareas).mpr (Or.inl ⟨area, harea, rfl⟩))
    · intro rule hrule hbuiltin
      obtain ⟨kept, -, hkept, rfl⟩ := mem_alertsNew_iff.mp hrule
      have hconfig : (declareRule events declare kept).config = kept.config :=
        declareRule_config events kept
      have hfits : strlcpy ALERT_ID_MAX kept.id = kept.id := by
        have hzero := (rulesFit_alertsNew registry events file _ hrule).id
        rw [declareRule_id] at hzero
        exact Lib.strlcpy_eq_self hzero kept.id_lt
      rw [declareRule_id]
      obtain ⟨expected, hmem, hid⟩ := List.mem_map.mp
        (hkept ((congrArg RuleConfig.builtin hconfig).symm.trans hbuiltin))
      rcases (mem_expectedRules hareas).mp hmem with ⟨area, harea, rfl⟩ | ⟨hcode, hmetric⟩
      · exact Or.inr ⟨area, harea, by rw [hid, hfits]⟩
      · exact Or.inl ⟨expected, hcode, hmetric, hid.symm⟩

theorem strlcpy_expected_id (hareas : ascii "fs.usage" ∉ registry.ids) {expected : BuiltinRule}
    (h : expected ∈ expectedRules registry) (hlt : expected.id.length < ALERT_ID_MAX) :
    strlcpy ALERT_ID_MAX expected.id = expected.id := by
  refine Lib.strlcpy_eq_self ?_ hlt
  rcases (mem_expectedRules hareas).mp h with ⟨area, harea, rfl⟩ | ⟨hbuiltin, -⟩
  · obtain ⟨d, -, hid⟩ := List.mem_map.mp harea
    have hzero := d.zero_notMem_id
    rw [hid, storageMetric, List.mem_append, List.mem_append, not_or, not_or] at hzero
    have hstart : 0 ∉ ascii "storage_full_" := by decide
    exact fun hmem => (List.mem_append.mp hmem).elim hstart hzero.1.2
  · have hall : ∀ rule ∈ BUILTIN, 0 ∉ rule.id := by decide
    exact hall expected hbuiltin

/-- The rules that are loaded. -/
theorem mem_loaded_iff (hfile : file.length ≤ MAX_RULES) {rule : AlertRule T} :
    rule ∈ (loadRules V (noAlerts T events) file).rules ↔ firstRule V file rule.id = some rule := by
  have hlength : (loadableRules V file).length ≤ MAX_RULES :=
    (List.length_filter_le _ _).trans ((List.length_map _).trans_le hfile)
  have hroom : (noAlerts T events).rules.length + (loadableRules V file).length ≤ MAX_RULES :=
    (Nat.zero_add _).trans_le hlength
  rw [mem_loadRules_iff hroom]
  simp [noAlerts, firstRule]

/-- Every id of a rule with a metric is loaded. -/
theorem mem_loaded_ids (events : Bool) (hfile : file.length ≤ MAX_RULES) {id : Bytes} :
    id ∈ (loadRules V (noAlerts T events) file).rules.map AlertRule.id ↔
      id ∈ (loadableRules V file).map AlertRule.id := by
  constructor
  · intro h
    obtain ⟨rule, hrule, rfl⟩ := List.mem_map.mp h
    exact List.mem_map_of_mem (List.mem_of_find?_eq_some ((mem_loaded_iff hfile).mp hrule))
  · intro h
    obtain ⟨rule, hrule, rfl⟩ := List.mem_map.mp h
    have hsome : (firstRule V file rule.id).isSome := by
      rw [firstRule, List.find?_isSome]
      exact ⟨rule, hrule, by simp⟩
    obtain ⟨first, hfirst⟩ := Option.isSome_iff_exists.mp hsome
    have hid : first.id = rule.id := by simpa using List.find?_some hfirst
    exact List.mem_map.mpr ⟨first, (mem_loaded_iff hfile).mpr (hid ▸ hfirst), hid⟩

/-- A complete cover has no rule whose id is cut. -/
theorem Covers.id_lt (hareas : ascii "fs.usage" ∉ registry.ids)
    (hcovers : ∀ expected ∈ expectedRules registry,
      Covers (alertsNew V registry events declare file) expected) :
    ∀ expected ∈ expectedRules registry, expected.id.length < ALERT_ID_MAX := by
  intro expected hmem
  obtain ⟨rule, hrule, hbuiltin, hid, hmetric⟩ := hcovers expected hmem
  obtain ⟨kept, -, hkept, rfl⟩ := mem_alertsNew_iff.mp hrule
  have hconfig : (declareRule events declare kept).config = kept.config :=
    declareRule_config events kept
  rw [declareRule_id] at hid
  -- a built-in rule is kept for an id of its own length
  obtain ⟨other, hother, hotherId⟩ := List.mem_map.mp
    (hkept ((congrArg RuleConfig.builtin hconfig).symm.trans hbuiltin))
  obtain ⟨rule', hrule', -, hid', hmetric'⟩ := hcovers other hother
  have hsame : rule' = declareRule events declare kept := by
    refine eq_of_id hrule' hrule ?_
    rw [hid', hotherId, declareRule_id, hid, strlcpy_strlcpy]
  rw [hsame, hmetric] at hmetric'
  rw [← expectedRules_inj hareas hother hmem (Or.inr hmetric'.symm), hotherId]
  exact kept.id_lt

/-- What a complete cover takes. -/
theorem CompleteCover.fits (hareas : ascii "fs.usage" ∉ registry.ids)
    (hfile : file.length ≤ MAX_RULES)
    (h : CompleteCover V registry file (alertsNew V registry events declare file)) :
    CoverFits V registry file := by
  obtain ⟨hcustom, hcovers⟩ := (completeCover_iff_covers hareas).mp h
  have hids := Covers.id_lt hareas hcovers
  -- the rule that covers a built-in one is in the table before the prune, with its id
  have hadded : ∀ expected ∈ expectedRules registry, ∃ kept ∈ ((expectedRules registry).foldl
      (addBuiltin V) (loadRules V (noAlerts T events) file)).rules,
      kept.builtin = true ∧ kept.id = expected.id ∧ kept.metric = expected.metric := by
    intro expected hmem
    obtain ⟨rule, hrule, hbuiltin, hid, hmetric⟩ := hcovers expected hmem
    obtain ⟨kept, hkept, -, rfl⟩ := mem_alertsNew_iff.mp hrule
    have hconfig : (declareRule events declare kept).config = kept.config :=
      declareRule_config events kept
    rw [declareRule_id, strlcpy_expected_id hareas hmem (hids expected hmem)] at hid
    exact ⟨kept, hkept, (congrArg RuleConfig.builtin hconfig).symm.trans hbuiltin, hid,
      (congrArg RuleConfig.metric hconfig).symm.trans hmetric⟩
  refine ⟨fun saved hsaved hown => ?_, hids, fun expected hmem rule hfirst => ?_, ?_⟩
  · obtain ⟨rule, hrule, hconfig⟩ := hcustom saved hsaved hown
    obtain ⟨kept, hkept, -, rfl⟩ := mem_alertsNew_iff.mp hrule
    rw [declareRule_config] at hconfig
    rcases mem_addBuiltins hkept with hloaded | ⟨expected, -, rfl⟩
    · have hfirst := (mem_loaded_iff hfile).mp hloaded
      have hmetric : kept.metric ≠ [] := by
        simpa using (List.mem_filter.mp (List.mem_of_find?_eq_some hfirst)).2
      have hsavedMetric : kept.metric = (loadRule V saved).metric :=
        congrArg RuleConfig.metric hconfig
      have hsavedId : kept.id = (loadRule V saved).id := congrArg RuleConfig.id hconfig
      rw [← hsavedMetric, ← hsavedId]
      refine ⟨hmetric, fun rule hrule => ?_⟩
      rw [← hconfig, Option.some.inj (hrule.symm.trans hfirst)]
    · have hbuiltin : true = saved.builtin := congrArg RuleConfig.builtin hconfig
      rw [hown] at hbuiltin
      cases hbuiltin
  · have hid : rule.id = expected.id := by simpa using List.find?_some hfirst
    have hloaded : rule ∈ (loadRules V (noAlerts T events) file).rules :=
      (mem_loaded_iff hfile).mpr (hid ▸ hfirst)
    obtain ⟨kept, hkept, hbuiltin, hkeptId, hmetric⟩ := hadded expected hmem
    rw [eq_of_id (mem_addBuiltins_of_mem hloaded) hkept (hid.trans hkeptId.symm)]
    exact ⟨hbuiltin, hmetric⟩
  · refine (Finset.card_le_card fun id hid => ?_).trans ((card_ids _).trans_le
      ((expectedRules registry).foldl (addBuiltin V) (loadRules V (noAlerts T events) file)).count_le)
    rw [List.mem_toFinset] at hid ⊢
    rcases List.mem_append.mp hid with hloadable | hexpected
    · obtain ⟨rule, hrule, rfl⟩ := List.mem_map.mp ((mem_loaded_ids events hfile).mpr hloadable)
      exact List.mem_map_of_mem (mem_addBuiltins_of_mem hrule)
    · obtain ⟨expected, hmem, rfl⟩ := List.mem_map.mp hexpected
      obtain ⟨kept, hkept, -, hkeptId, -⟩ := hadded expected hmem
      exact List.mem_map.mpr ⟨kept, hkept, hkeptId⟩

/-- What gives a complete cover. -/
theorem CoverFits.complete (hareas : ascii "fs.usage" ∉ registry.ids)
    (hfile : file.length ≤ MAX_RULES) (h : CoverFits V registry file) :
    CompleteCover V registry file (alertsNew V registry events declare file) := by
  have hfits : ∀ expected ∈ expectedRules registry, (builtinRule V expected).id = expected.id :=
    fun expected hmem => strlcpy_expected_id hareas hmem (h.ids expected hmem)
  refine (completeCover_iff_covers hareas).mpr ⟨fun saved hsaved hown => ?_, fun expected hmem => ?_⟩
  · obtain ⟨hmetric, hfirst⟩ := h.custom saved hsaved hown
    have hloadable : loadRule V saved ∈ loadableRules V file :=
      List.mem_filter.mpr ⟨List.mem_map_of_mem hsaved, by simpa using hmetric⟩
    obtain ⟨rule, hrule, hid⟩ := List.mem_map.mp
      ((mem_loaded_ids events hfile).mpr (List.mem_map_of_mem hloadable))
    have hconfig := hfirst rule (hid ▸ (mem_loaded_iff hfile).mp hrule)
    have hcustom : rule.builtin = false := (congrArg RuleConfig.builtin hconfig).trans hown
    refine ⟨_, mem_alertsNew_iff.mpr ⟨rule, mem_addBuiltins_of_mem hrule, ?_, rfl⟩, ?_⟩
    · rw [hcustom]
      exact nofun
    · exact (declareRule_config events rule).trans hconfig
  · have hroom : ((loadRules V (noAlerts T events) file).rules.map AlertRule.id ++
        (expectedRules registry).map BuiltinRule.id).toFinset.card ≤ MAX_RULES := by
      refine (Finset.card_le_card fun id hid => ?_).trans h.room
      rw [List.mem_toFinset, List.mem_append] at hid ⊢
      exact hid.imp_left (mem_loaded_ids events hfile).mp
    obtain ⟨kept, hkept, hid⟩ := List.mem_map.mp (mem_ids_addBuiltins hfits hroom expected hmem)
    have hown : kept.builtin = true ∧ kept.metric = expected.metric := by
      rcases mem_addBuiltins hkept with hloaded | ⟨other, hother, rfl⟩
      · exact h.own expected hmem kept (hid ▸ (mem_loaded_iff hfile).mp hloaded)
      · rw [builtinRule_metric hareas hother]
        exact ⟨rfl, congrArg BuiltinRule.metric (expectedRules_inj hareas hother hmem
          (Or.inl ((hfits other hother).symm.trans hid)))⟩
    have hconfig : (declareRule events declare kept).config = kept.config :=
      declareRule_config events kept
    refine ⟨_, mem_alertsNew_iff.mpr ⟨kept, hkept, fun _ => ?_, rfl⟩, ?_, ?_, ?_⟩
    · exact List.mem_map.mpr ⟨expected, hmem, hid.symm⟩
    · exact (congrArg RuleConfig.builtin hconfig).trans hown.1
    · rw [declareRule_id, hid, strlcpy_expected_id hareas hmem (h.ids expected hmem)]
    · exact (congrArg RuleConfig.metric hconfig).trans hown.2

/-- For every rules file that has no more groups than the table has places, the cover is complete
exactly if the file and the registry fit each other. The collector registers `fs.usage` for no area;
the code would take its area to be of length -1. -/
theorem completeCover_iff (registry : MetricRegistry) (events : Bool)
    (declare : Bytes → Bytes → ℕ) (file : List (SavedRule T))
    (hareas : ascii "fs.usage" ∉ registry.ids) (hfile : file.length ≤ MAX_RULES) :
    CompleteCover V registry file (alertsNew V registry events declare file) ↔
      CoverFits V registry file :=
  ⟨CompleteCover.fits hareas hfile, CoverFits.complete hareas hfile⟩

end Cover

/-- The metrics of a device with a mount whose name is longer than what a rule id has room for. -/
def longMount : MetricRegistry :=
  (tableMachine (ascii "/dev/sda1 /mnt/recordings/archive_of_the_north_gate ext4 rw 0 0\n")).registry

/-- The mount has its space metric, and no rule watches it. -/
theorem longMount_unwatched :
    ascii "fs.usage" ∉ longMount.ids ∧
    storageMetric (ascii "mnt_recordings_archive_of_the_north_gate") ∈ longMount.ids ∧
    ∀ rule ∈ (alertsNew (Option ℤ) longMount true (fun _ _ => 1) []).rules,
      rule.metric ≠ storageMetric (ascii "mnt_recordings_archive_of_the_north_gate") := by
  decide +kernel

theorem completeCover_iff_longMount : CompleteCover (Option ℤ) longMount []
      (alertsNew (Option ℤ) longMount true (fun _ _ => 1) []) ↔
    CoverFits (Option ℤ) longMount [] :=
  completeCover_iff longMount true (fun _ _ => 1) [] longMount_unwatched.1 (by decide)

/-- Its space rule is added under a cut id and pruned, because the uncut id is expected. -/
theorem not_completeCover_longMount : ¬ CompleteCover (Option ℤ) longMount []
      (alertsNew (Option ℤ) longMount true (fun _ _ => 1) []) := by
  intro h
  obtain ⟨-, hregistered, hnone⟩ := longMount_unwatched
  obtain ⟨rule, hrule, -, -, hmetric⟩ := h.storage _ hregistered
  exact hnone rule hrule hmetric

end AxisMetrics
