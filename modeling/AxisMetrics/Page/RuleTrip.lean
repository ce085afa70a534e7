import AxisMetrics.Api.Form
import AxisMetrics.Lib.Tokens
import AxisMetrics.Page.RuleEditor

/-!
# Saving rules that were not edited

The document prints a threshold with six digits, and the page posts the number it read. Saving the
dialog leaves the rules as they were exactly if every threshold is a number that six digits give
back, and every rule that is posted has a name (`editorKeeps_iff`).
-/

namespace AxisMetrics.Page

open Lib (Bytes ascii strlcpy decimal Json JsonPart jsonDocument formText runFrom attributeValue
  QuotableText isDigit)

variable {printNumber : CDouble → Bytes} {declare : Bytes → Bytes → ℕ} {reported : List Bytes}
variable {alerts alerts' : Alerts CDouble} {rule : AlertRule CDouble}

/-- The threshold as the page reads it. -/
def readThreshold (threshold : CDouble) : CDouble :=
  AlertArith.strtod CFloat (RenderArith.formatG CFloat threshold)

/-- The browser writes the number as a number of HTML that parses back to itself. -/
structure PrintsBack (printNumber : CDouble → Bytes) (x : CDouble) : Prop where
  float : isFloatText (printNumber x) = true
  back : AlertArith.strtod CFloat (printNumber x) = x

/-- The browser writes what it read of the numbers of the rule as it should: the threshold so that it
parses back to itself, and the duration, a whole number, by its digits. -/
structure PrintsRule (printNumber : CDouble → Bytes) (rule : AlertRule CDouble) : Prop where
  threshold : PrintsBack printNumber (readThreshold rule.threshold)
  duration : printNumber (AlertArith.strtod CFloat (decimal rule.durationS)) = decimal rule.durationS

/-- The strings of the rule are printable text. -/
structure Printable (rule : AlertRule CDouble) : Prop where
  id : QuotableText rule.id
  name : QuotableText rule.name
  metric : QuotableText rule.metric

/-- A rule in its buffers, with printable strings, and a browser that writes its numbers, if they are
numbers, as it should. -/
structure Editable (printNumber : CDouble → Bytes) (rule : AlertRule CDouble) : Prop where
  fits : RuleFits rule
  printable : Printable rule
  prints : rule.threshold.datum.isFinite = true → PrintsRule printNumber rule

/-- The row of a rule. -/
def rowOf (printNumber : CDouble → Bytes) (rule : AlertRule CDouble) : RuleRow where
  id := rule.id
  name := rule.name
  metric := rule.metric
  op := opName rule.op
  threshold := printNumber (readThreshold rule.threshold)
  duration := decimal rule.durationS
  enabled := rule.enabled

section Texts

theorem sanitize_text {text : Bytes} (h : QuotableText text) : sanitize .text text = text := by
  refine List.filter_eq_self.mpr fun b hb => ?_
  have hcontrol := h.1 b hb
  have hnewline : b ≠ 10 := by rintro rfl; exact hcontrol (by decide)
  have hreturn : b ≠ 13 := by rintro rfl; exact hcontrol (by decide)
  simp [hnewline, hreturn]

/-- The characters of a number of HTML. -/
def IsFloatByte (b : UInt8) : Prop := isDigit b = true ∨ b ∈ ascii "+-.eE"

theorem isFloatByte_of_exponent {text : Bytes} (h : isExponent text = true) :
    ∀ b ∈ text, IsFloatByte b := by
  cases text with
  | nil => exact fun b hb => absurd hb List.not_mem_nil
  | cons e rest =>
    simp only [isExponent, Bool.and_eq_true, Bool.or_eq_true, decide_eq_true_eq] at h
    obtain ⟨⟨he, -⟩, hdigits⟩ := h
    refine List.forall_mem_cons.mpr ⟨Or.inr (by rcases he with rfl | rfl <;> decide), ?_⟩
    by_cases hsign : rest.head? = some 43 ∨ rest.head? = some 45
    · rw [if_pos hsign] at hdigits
      cases rest with
      | nil => exact fun b hb => absurd hb List.not_mem_nil
      | cons sign digits =>
        refine List.forall_mem_cons.mpr ⟨Or.inr ?_, fun b hb => Or.inl ?_⟩
        · rcases hsign with h | h <;> obtain rfl := Option.some.inj h <;> decide
        · exact List.all_eq_true.mp hdigits b hb
    · rw [if_neg hsign] at hdigits
      exact fun b hb => Or.inl (List.all_eq_true.mp hdigits b hb)

/-- Digits, and what comes behind them. -/
theorem isFloatByte_of_dropWhile {text : Bytes} (h : ∀ b ∈ text.dropWhile isDigit, IsFloatByte b) :
    ∀ b ∈ text, IsFloatByte b := by
  intro b hb
  rw [← List.takeWhile_append_dropWhile (p := isDigit) (l := text)] at hb
  rcases List.mem_append.mp hb with hdigit | hrest
  · exact Or.inl (List.mem_takeWhile_imp hdigit)
  · exact h b hrest

theorem isFloatByte_of_isFloatText {text : Bytes} (h : isFloatText text = true) :
    ∀ b ∈ text, IsFloatByte b := by
  -- the number behind its sign
  have hnumber : ∀ b ∈ (if text.head? = some 45 then text.tail else text), IsFloatByte b := by
    unfold isFloatText at h
    generalize (if text.head? = some 45 then text.tail else text) = number at h ⊢
    dsimp only at h
    refine isFloatByte_of_dropWhile ?_
    generalize number.dropWhile isDigit = rest at h ⊢
    split at h
    · next hpoint =>
      cases rest with
      | nil => cases hpoint
      | cons point decimals =>
        obtain rfl := Option.some.inj hpoint
        rw [Bool.and_eq_true] at h
        refine List.forall_mem_cons.mpr ⟨Or.inr (by decide), isFloatByte_of_dropWhile ?_⟩
        exact isFloatByte_of_exponent h.2
    · rw [Bool.and_eq_true] at h
      exact isFloatByte_of_exponent h.2
  intro b hb
  by_cases hsign : text.head? = some 45
  · cases text with
    | nil => cases hb
    | cons sign number =>
      rw [if_pos hsign] at hnumber
      rcases List.mem_cons.mp hb with rfl | hmem
      · exact Or.inr (by rw [Option.some.inj hsign]; decide)
      · exact hnumber b hmem
  · rw [if_neg hsign] at hnumber
    exact hnumber b hb

theorem IsFloatByte.ne {b c : UInt8} (h : IsFloatByte b) (hdigit : isDigit c = false)
    (hmark : c ∉ ascii "+-.eE") : b ≠ c := by
  rintro rfl
  rcases h with hd | hmem
  · rw [hdigit] at hd
    cases hd
  · exact hmark hmem

/-- A number field keeps a number of HTML. -/
theorem sanitize_number {text : Bytes} (h : isFloatText text = true) :
    sanitize .number (attributeValue text) = text := by
  have hplain : ∀ b ∈ text, b ≠ 34 ∧ b ≠ 38 := fun b hb =>
    ⟨(isFloatByte_of_isFloatText h b hb).ne rfl (by decide),
      (isFloatByte_of_isFloatText h b hb).ne rfl (by decide)⟩
  rw [Lib.attributeValue_plain hplain]
  exact if_pos h

theorem isFloatText_decimal (n : ℕ) : isFloatText (decimal n) = true := by
  have hall : ∀ b ∈ decimal n, isDigit b = true := fun b hb => Lib.isDigit_of_mem_decimal hb
  have hsign : ¬ (decimal n).head? = some 45 := by
    intro h
    have hdigit := hall 45 (List.mem_of_mem_head? h)
    cases hdigit
  rw [isFloatText, if_neg hsign, List.takeWhile_eq_self_iff.mpr hall,
    List.dropWhile_eq_nil_iff.mpr hall,
    if_neg (show ¬ ([] : Bytes).head? = some 46 from nofun)]
  simp [isExponent, Lib.decimal_ne_nil]

theorem shownMetric_eq (reported : List Bytes) (metric : Bytes) :
    shownMetric reported metric = metric := by
  unfold shownMetric
  dsimp only
  rw [escapeHtml, Lib.attributeValue_escaped]
  split
  · exact if_pos List.mem_cons_self
  · next hnot =>
    by_contra hne
    refine hnot ⟨?_, hne⟩
    rintro rfl
    exact hne (if_pos List.mem_cons_self)

end Texts

section Rows

/-- The members of a rule, as the page reads them. -/
theorem members_ruleFields (rule : AlertRule CDouble) :
    stringMember (JsonPart.object (ruleFields rule)).value (ascii "id") = some rule.id ∧
      stringMember (JsonPart.object (ruleFields rule)).value (ascii "name") = some rule.name ∧
      stringMember (JsonPart.object (ruleFields rule)).value (ascii "metric") = some rule.metric ∧
      stringMember (JsonPart.object (ruleFields rule)).value (ascii "op") = some (opName rule.op) ∧
      numberMember (JsonPart.object (ruleFields rule)).value (ascii "threshold") =
        some (readThreshold rule.threshold) ∧
      numberMember (JsonPart.object (ruleFields rule)).value (ascii "duration") =
        some (AlertArith.strtod CFloat (decimal rule.durationS)) ∧
      boolMember (JsonPart.object (ruleFields rule)).value (ascii "enabled") =
        some rule.enabled := by
  refine ⟨?_, ?_, ?_, ?_, ?_, ?_, ?_⟩ <;>
    simp [stringMember, numberMember, boolMember, member, JsonPart.object, ruleFields,
      JsonPart.marked, JsonPart.raw, JsonPart.printed, JsonPart.number, JsonPart.bool, ascii,
      readThreshold, formatG_eq]

/-- The row of a rule that was written as it should be. -/
theorem ruleRow_ruleFields (hprintable : Printable rule) (hprints : PrintsRule printNumber rule) :
    ruleRow printNumber reported (JsonPart.object (ruleFields rule)).value =
      some (rowOf printNumber rule) := by
  obtain ⟨hid, hname, hmetric, hop, hthreshold, hduration, henabled⟩ := members_ruleFields rule
  have hselected : sanitize (.select [ascii "above", ascii "below"]) (opName rule.op) =
      opName rule.op := by
    cases rule.op <;> decide
  rw [ruleRow, hid, hname, hmetric, hop, hthreshold, hduration, henabled]
  simp only [Option.pure_def, Option.bind_eq_bind, Option.bind_some]
  rw [escapeHtml, Lib.attributeValue_escaped, sanitize_text hprintable.name, shownMetric_eq,
    hselected, sanitize_number hprints.threshold.float, hprints.duration,
    sanitize_number (isFloatText_decimal _), rowOf]

/-- The rows of a table: one for each rule, or none at all where a number cannot be read. -/
theorem buildRuleList_eq (hprintable : ∀ rule ∈ alerts.rules, Printable rule)
    (hprints : ∀ rule ∈ alerts.rules, rule.threshold.datum.isFinite = true →
      PrintsRule printNumber rule) :
    buildRuleList printNumber reported (alertsJson CFloat alerts) =
      if ∀ rule ∈ alerts.rules, rule.threshold.datum.isFinite = true ∧
        rule.lastValue.datum.isFinite = true
      then alerts.rules.map (rowOf printNumber) else [] := by
  have hgood : (JsonPart.object (alertsFields alerts)).good = true ↔ ∀ rule ∈ alerts.rules,
      rule.threshold.datum.isFinite = true ∧ rule.lastValue.datum.isFinite = true := by
    rw [good_alertsFields]
    exact forall₂_congr fun rule hrule => and_iff_right
      ⟨(hprintable rule hrule).id, (hprintable rule hrule).name, (hprintable rule hrule).metric⟩
  rw [buildRuleList, alertsJson_eq, (sound_alertsFields alerts).jsonDocument, JsonPart.read]
  by_cases hread : (JsonPart.object (alertsFields alerts)).good = true
  · rw [if_pos hread, if_pos (hgood.mp hread), Option.bind_some]
    have hrules : member (JsonPart.object (alertsFields alerts)).value (ascii "rules") =
        some (.array (alerts.rules.map fun rule => (JsonPart.object (ruleFields rule)).value)) := by
      simp [member, JsonPart.object, alertsFields, JsonPart.array, ascii]
    rw [hrules]
    dsimp only
    rw [List.filterMap_map, ← List.filterMap_eq_map]
    exact List.filterMap_congr fun rule hrule =>
      ruleRow_ruleFields (hprintable rule hrule) (hprints rule hrule (hgood.mp hread rule hrule).1)
  · rw [if_neg hread, if_neg fun h => hread (hgood.mpr h)]
    rfl

end Rows

section Posts

/-- What a save without edits makes of a rule: one without a metric is not posted, an empty name is
replaced by the metric, and the threshold is the one that was read. -/
def editedConfig (config : RuleConfig CDouble) : RuleConfig CDouble :=
  if config.metric = [] then config
  else { config with
    name := orElse config.name config.metric
    threshold := readThreshold config.threshold }

/-- The fields of a post. -/
def postPairs (printNumber : CDouble → Bytes) (rule : AlertRule CDouble) : List (Bytes × Bytes) :=
  [(ascii "action", ascii "save"),
    (ascii "id", rule.id),
    (ascii "name", orElse rule.name rule.metric),
    (ascii "metric", rule.metric),
    (ascii "op", opName rule.op),
    (ascii "threshold", printNumber (readThreshold rule.threshold)),
    (ascii "duration", decimal rule.durationS),
    (ascii "enabled", yesNo rule.enabled)]

theorem rowBody_rowOf (hmetric : rule.metric ≠ [])
    (hfloat : isFloatText (printNumber (readThreshold rule.threshold)) = true) :
    rowBody (rowOf printNumber rule) = some (formText (postPairs printNumber rule)) := by
  have hthreshold : printNumber (readThreshold rule.threshold) ≠ [] := by
    intro hempty
    rw [hempty] at hfloat
    cases hfloat
  rw [rowBody, rowOf, if_neg hmetric]
  dsimp only
  rw [orElse, orElse, orElse, if_neg hthreshold, if_neg (Lib.decimal_ne_nil _), postPairs, orElse,
    yesNo]

/-- The server finds every field of a post. -/
theorem param_postPairs (hfits : RuleFits rule)
    (hfloat : isFloatText (printNumber (readThreshold rule.threshold)) = true)
    {pair : Bytes × Bytes} (hpair : pair ∈ postPairs printNumber rule) :
    apiQueryParam (formText (postPairs printNumber rule)) pair.1 = some pair.2 := by
  have hnames : (postPairs printNumber rule).map Prod.fst =
      [ascii "action", ascii "id", ascii "name", ascii "metric", ascii "op", ascii "threshold",
        ascii "duration", ascii "enabled"] := rfl
  have hplain : ∀ name ∈ (postPairs printNumber rule).map Prod.fst,
      Lib.urlencode name = name := by
    rw [hnames]
    decide
  have hdistinct : ((postPairs printNumber rule).map Prod.fst).Nodup := by
    rw [hnames]
    decide
  refine apiQueryParam_formText (fun other hother => hplain _ (List.mem_map_of_mem hother))
    hdistinct ?_ hpair
  have hname : 0 ∉ orElse rule.name rule.metric := by
    unfold orElse
    split
    · exact hfits.metric
    · exact hfits.name
  have hop : 0 ∉ opName rule.op := by cases rule.op <;> decide
  have hthreshold : 0 ∉ printNumber (readThreshold rule.threshold) := fun hmem =>
    (isFloatByte_of_isFloatText hfloat 0 hmem).ne rfl (by decide) rfl
  have hduration : 0 ∉ decimal rule.durationS := fun hmem => by
    cases Lib.isDigit_of_mem_decimal hmem
  have henabled : 0 ∉ yesNo rule.enabled := by cases rule.enabled <;> decide
  have haction : 0 ∉ ascii "save" := by decide
  simp only [postPairs, List.forall_mem_cons, List.not_mem_nil, false_implies, implies_true,
    and_true]
  exact ⟨haction, hfits.id, hname, hfits.metric, hop, hthreshold, hduration, henabled⟩

/-- The fields after a post. -/
theorem saveFields_postPairs (hfits : RuleFits rule) (hprints : PrintsRule printNumber rule)
    (hmetric : rule.metric ≠ []) {old : AlertRule CDouble} (hold : old.config = rule.config) :
    (saveFields CFloat (formText (postPairs printNumber rule)) old).config =
      editedConfig rule.config := by
  have hparam : ∀ pair ∈ postPairs printNumber rule,
      apiQueryParam (formText (postPairs printNumber rule)) pair.1 = some pair.2 :=
    fun pair hpair => param_postPairs hfits hprints.threshold.float hpair
  generalize formText (postPairs printNumber rule) = body at hparam ⊢
  simp only [postPairs, List.forall_mem_cons, List.not_mem_nil, false_implies, implies_true,
    and_true] at hparam
  obtain ⟨-, -, hname, hmetricParam, hop, hthreshold, hduration, henabled⟩ := hparam
  have hnameNe : orElse rule.name rule.metric ≠ [] := by
    unfold orElse
    split
    · exact hmetric
    · assumption
  have hnameFits : strlcpy ALERT_NAME_MAX (orElse rule.name rule.metric) =
      orElse rule.name rule.metric := by
    unfold orElse
    split
    · exact Lib.strlcpy_eq_self hfits.metric (hfits.metric_lt.trans (by decide))
    · exact Lib.strlcpy_eq_self hfits.name hfits.name_lt
  have hmetricFits := Lib.strlcpy_eq_self hfits.metric hfits.metric_lt
  have hopBack : opFrom (some (opName rule.op)) = rule.op := by cases rule.op <;> decide
  have hdurationBack : Lib.guint (Lib.strtoull (decimal rule.durationS)) = rule.durationS := by
    rw [Lib.strtoull_decimal (hfits.durationS.trans (by decide)), Lib.guint_of_lt hfits.durationS]
  have henabledBack : decide (yesNo rule.enabled = ascii "yes") = rule.enabled := by
    cases rule.enabled <;> decide
  simp only [AlertRule.config, RuleConfig.mk.injEq] at hold
  obtain ⟨hid, -, hmetricOld, -, -, -, -, hbuiltin⟩ := hold
  have hback := hprints.threshold.back
  unfold saveFields
  simp only [AlertRule.config, hname, hmetricParam, hop, hthreshold, hduration, henabled,
    Option.map_some, Option.getD_some, hnameFits, if_neg hnameNe, hmetricFits, hmetricOld, ite_self,
    hopBack, hback, hdurationBack, henabledBack, hid, hbuiltin]
  exact (if_neg hmetric).symm

theorem editedConfig_id (config : RuleConfig CDouble) : (editedConfig config).id = config.id := by
  unfold editedConfig
  split <;> rfl

/-- One post changes its own rule. -/
theorem applyStep_postPairs (declare : Bytes → Bytes → ℕ) (hfits : RuleFits rule)
    (hprints : PrintsRule printNumber rule) (hmetric : rule.metric ≠ [])
    {old : AlertRule CDouble} (hold : old ∈ alerts.rules) (hconfig : old.config = rule.config) :
    ∃ alerts', applyStep CFloat declare alerts (formText (postPairs printNumber rule)) =
        some alerts' ∧
      alerts'.rules.map AlertRule.config = alerts.rules.map fun other =>
        if other.id = rule.id then editedConfig other.config else other.config := by
  have hid : old.id = rule.id := congrArg RuleConfig.id hconfig
  have hparam : ∀ pair ∈ postPairs printNumber rule,
      apiQueryParam (formText (postPairs printNumber rule)) pair.1 = some pair.2 :=
    fun pair hpair => param_postPairs hfits hprints.threshold.float hpair
  have haction : apiQueryParam (formText (postPairs printNumber rule)) (ascii "action") =
      some (ascii "save") := hparam (ascii "action", ascii "save") List.mem_cons_self
  have hparamId : apiQueryParam (formText (postPairs printNumber rule)) (ascii "id") =
      some old.id := by
    rw [hid]
    exact hparam (ascii "id", rule.id) (List.mem_cons_of_mem _ List.mem_cons_self)
  obtain ⟨alerts', happly, hrules⟩ := alertsApply_save (V := CFloat) declare haction hparamId hold
  refine ⟨alerts', by rw [applyStep, happly]; rfl, ?_⟩
  rw [hrules, List.map_map, hid]
  refine List.map_congr_left fun other hother => ?_
  rw [Function.comp_apply]
  by_cases hsame : other.id = rule.id
  · obtain rfl : other = old := eq_of_id hother hold (hsame.trans hid.symm)
    rw [if_pos hsame, if_pos hsame, saveRule_config, hconfig,
      saveFields_postPairs hfits hprints hmetric hconfig]
  · rw [if_neg hsame, if_neg hsame]

/-- What the post of a rule comes to. A rule without a metric is not posted. -/
theorem runFrom_rowBody (declare : Bytes → Bytes → ℕ) {rule old : AlertRule CDouble}
    (hfits : RuleFits rule) (hprints : PrintsRule printNumber rule) (hold : old ∈ alerts.rules)
    (hconfig : old.config = rule.config) :
    ∃ next, runFrom (applyStep CFloat declare) alerts
        (rowBody (rowOf printNumber rule)).toList = some next ∧
      next.rules.map AlertRule.config = alerts.rules.map fun other =>
        if other.id = rule.id then editedConfig other.config else other.config := by
  have hid : old.id = rule.id := congrArg RuleConfig.id hconfig
  by_cases hmetric : rule.metric = []
  · refine ⟨alerts, by rw [rowBody, rowOf, if_pos hmetric]; rfl, ?_⟩
    refine List.map_congr_left fun other hother => ?_
    split
    · next hsameId =>
      have hempty : other.config.metric = [] := by
        rw [eq_of_id hother hold (hsameId.trans hid.symm), hconfig]
        exact hmetric
      exact (if_pos hempty).symm
    · rfl
  · obtain ⟨next, hstep, hafter⟩ := applyStep_postPairs declare hfits hprints hmetric hold hconfig
    refine ⟨next, ?_, hafter⟩
    rw [rowBody_rowOf hmetric hprints.threshold.float, Option.toList_some, runFrom, hstep]
    rfl

/-- The posts of several rules, none of which was changed yet. -/
theorem saveRules_rows (declare : Bytes → Bytes → ℕ) {rules : List (AlertRule CDouble)}
    (h : ∀ rule ∈ rules, RuleFits rule ∧ PrintsRule printNumber rule)
    (hdistinct : (rules.map AlertRule.id).Nodup)
    (hsame : ∀ rule ∈ rules, ∃ old ∈ alerts.rules, old.config = rule.config) :
    ∃ alerts', saveRules declare alerts (rules.map (rowOf printNumber)) = some alerts' ∧
      alerts'.rules.map AlertRule.config = alerts.rules.map fun other =>
        if other.id ∈ rules.map AlertRule.id then editedConfig other.config else other.config := by
  induction rules generalizing alerts with
  | nil => exact ⟨alerts, rfl, by simp⟩
  | cons rule rules ih =>
    obtain ⟨⟨hfits, hprints⟩, hrules⟩ := List.forall_mem_cons.mp h
    obtain ⟨⟨old, hold, hconfig⟩, hothers⟩ := List.forall_mem_cons.mp hsame
    rw [List.map_cons, List.nodup_cons] at hdistinct
    obtain ⟨next, hnext, hnextRules⟩ := runFrom_rowBody declare hfits hprints hold hconfig
    -- the other rules are not changed yet
    have hremain : ∀ rule' ∈ rules, ∃ old ∈ next.rules, old.config = rule'.config := by
      intro rule' hrule'
      obtain ⟨old', hold', hconfig'⟩ := hothers rule' hrule'
      have hother : old'.id ≠ rule.id := by
        rw [show old'.id = rule'.id from congrArg RuleConfig.id hconfig']
        exact fun heq => hdistinct.1 (heq ▸ List.mem_map_of_mem hrule')
      have hmem : old'.config ∈ next.rules.map AlertRule.config := by
        rw [hnextRules]
        exact List.mem_map.mpr ⟨old', hold', if_neg hother⟩
      obtain ⟨new, hnew, hsameConfig⟩ := List.mem_map.mp hmem
      exact ⟨new, hnew, hsameConfig.trans hconfig'⟩
    obtain ⟨alerts', hrest, hafter⟩ := ih hrules hdistinct.2 hremain
    refine ⟨alerts', ?_, ?_⟩
    · have hposts : ((rule :: rules).map (rowOf printNumber)).filterMap rowBody =
          (rowBody (rowOf printNumber rule)).toList ++
            (rules.map (rowOf printNumber)).filterMap rowBody := by
        rw [List.map_cons, List.filterMap_cons]
        cases rowBody (rowOf printNumber rule) <;> rfl
      rw [saveRules, hposts, Lib.runFrom_append, hnext]
      exact hrest
    · have hconfigs : alerts'.rules.map AlertRule.config =
          (next.rules.map AlertRule.config).map fun config =>
            if config.id ∈ rules.map AlertRule.id then editedConfig config else config := by
        rw [hafter, List.map_map]
        rfl
      rw [hconfigs, hnextRules, List.map_map]
      refine List.map_congr_left fun other _ => ?_
      rw [Function.comp_apply, List.map_cons]
      by_cases hsameId : other.id = rule.id
      · have hdone : (editedConfig other.config).id ∉ rules.map AlertRule.id := by
          rw [editedConfig_id]
          exact fun hmem => hdistinct.1 (hsameId ▸ hmem)
        rw [if_pos hsameId, if_neg hdone, if_pos (hsameId ▸ List.mem_cons_self)]
      · rw [if_neg hsameId]
        have hiff : other.config.id ∈ rules.map AlertRule.id ↔
            other.id ∈ rule.id :: rules.map AlertRule.id := by
          rw [List.mem_cons, or_iff_right hsameId]
          rfl
        by_cases hmem : other.config.id ∈ rules.map AlertRule.id
        · rw [if_pos hmem, if_pos (hiff.mp hmem)]
        · rw [if_neg hmem, if_neg fun h => hmem (hiff.mpr h)]

end Posts

/-- The session leaves the rules as they were. -/
def EditorKeeps (printNumber : CDouble → Bytes) (declare : Bytes → Bytes → ℕ)
    (reported : List Bytes) (alerts : Alerts CDouble) : Prop :=
  ∃ alerts', editorSession printNumber declare reported alerts = some alerts' ∧
    alerts'.rules.map AlertRule.config = alerts.rules.map AlertRule.config

/-- A save without edits keeps the rule: it is not posted, or it has a name and six digits give its
threshold back. -/
def RowKept (rule : AlertRule CDouble) : Prop :=
  rule.metric = [] ∨ rule.name ≠ [] ∧ readThreshold rule.threshold = rule.threshold

/-- Some number of the document cannot be read, so the page shows no rules at all. -/
def Unreadable (alerts : Alerts CDouble) : Prop :=
  ∃ rule ∈ alerts.rules, rule.threshold.datum.isFinite = false ∨
    rule.lastValue.datum.isFinite = false

theorem editedConfig_eq_self (rule : AlertRule CDouble) :
    editedConfig rule.config = rule.config ↔ RowKept rule := by
  unfold editedConfig RowKept
  by_cases hmetric : rule.metric = []
  · rw [if_pos (show rule.config.metric = [] from hmetric)]
    exact iff_of_true rfl (Or.inl hmetric)
  · rw [if_neg (show ¬ rule.config.metric = [] from hmetric), or_iff_right hmetric]
    have hname : orElse rule.name rule.metric = rule.name ↔ rule.name ≠ [] := by
      unfold orElse
      split
      · next hempty => exact iff_of_false (fun h => hmetric (h.trans hempty)) fun h => h hempty
      · next hsome => exact iff_of_true rfl hsome
    rw [← hname]
    simp [AlertRule.config]

/-- What the session makes of the rules. -/
theorem editorSession_rules (declare : Bytes → Bytes → ℕ) (reported : List Bytes)
    (h : ∀ rule ∈ alerts.rules, Editable printNumber rule) (hread : ¬ Unreadable alerts) :
    ∃ alerts', editorSession printNumber declare reported alerts = some alerts' ∧
      alerts'.rules.map AlertRule.config =
        alerts.rules.map fun rule => editedConfig rule.config := by
  have hfinite : ∀ rule ∈ alerts.rules, rule.threshold.datum.isFinite = true ∧
      rule.lastValue.datum.isFinite = true := by
    intro rule hrule
    by_contra hnot
    refine hread ⟨rule, hrule, ?_⟩
    rwa [not_and_or, Bool.not_eq_true, Bool.not_eq_true] at hnot
  obtain ⟨alerts', hsave, hrules⟩ := saveRules_rows declare
    (fun rule hrule => ⟨(h rule hrule).fits, (h rule hrule).prints (hfinite rule hrule).1⟩)
    alerts.nodup fun rule hrule => ⟨rule, hrule, rfl⟩
  refine ⟨alerts', ?_, hrules.trans (List.map_congr_left fun rule hrule => ?_)⟩
  · rw [editorSession, buildRuleList_eq (fun rule hrule => (h rule hrule).printable)
      fun rule hrule => (h rule hrule).prints, if_pos hfinite]
    exact hsave
  · exact if_pos (List.mem_map_of_mem hrule)

/-- A table that the page can read is left as it was exactly if each row is kept. -/
theorem editorKeeps_of_readable (declare : Bytes → Bytes → ℕ) (reported : List Bytes)
    (h : ∀ rule ∈ alerts.rules, Editable printNumber rule) (hread : ¬ Unreadable alerts) :
    EditorKeeps printNumber declare reported alerts ↔ ∀ rule ∈ alerts.rules, RowKept rule := by
  obtain ⟨alerts', hsession, hrules⟩ := editorSession_rules declare reported h hread
  have hkeeps : EditorKeeps printNumber declare reported alerts ↔
      alerts.rules.map (fun rule => editedConfig rule.config) =
        alerts.rules.map AlertRule.config := by
    constructor
    · rintro ⟨alerts'', hsame, hkept⟩
      obtain rfl := Option.some.inj (hsession.symm.trans hsame)
      exact hrules.symm.trans hkept
    · exact fun hsame => ⟨alerts', hsession, hrules.trans hsame⟩
  rw [hkeeps, List.map_inj_left]
  exact forall₂_congr fun rule _ => editedConfig_eq_self rule

/-- For printable rules in a browser that writes its numbers as it should, a save without edits leaves
the rules as they were exactly if each row is kept, or if the page could not read them. -/
theorem editorKeeps_iff (printNumber : CDouble → Bytes) (declare : Bytes → Bytes → ℕ)
    (reported : List Bytes) (alerts : Alerts CDouble)
    (h : ∀ rule ∈ alerts.rules, Editable printNumber rule) :
    EditorKeeps printNumber declare reported alerts ↔
      Unreadable alerts ∨ ∀ rule ∈ alerts.rules, RowKept rule := by
  by_cases hread : Unreadable alerts
  · refine iff_of_true ⟨alerts, ?_, rfl⟩ (Or.inl hread)
    have hnone : ¬ ∀ rule ∈ alerts.rules, rule.threshold.datum.isFinite = true ∧
        rule.lastValue.datum.isFinite = true := by
      obtain ⟨rule, hrule, hbad⟩ := hread
      intro hall
      obtain ⟨hthreshold, hvalue⟩ := hall rule hrule
      rw [hthreshold, hvalue] at hbad
      rcases hbad with h | h <;> cases h
    rw [editorSession, buildRuleList_eq (fun rule hrule => (h rule hrule).printable)
      fun rule hrule => (h rule hrule).prints, if_neg hnone]
    rfl
  · rw [editorKeeps_of_readable declare reported h hread, or_iff_right hread]

section Example

/-- A rule on the rate of a network interface. -/
def rateRule (threshold : Bytes) : AlertRule CDouble :=
  { clearedRule CFloat (ascii "rate") with
    name := ascii "Rate"
    metric := ascii "net.eth0.rx"
    threshold := AlertArith.strtod CFloat threshold
    durationS := 60
    enabled := true }

/-- The rule alone in a table. -/
def rateTable (threshold : Bytes) : Alerts CDouble :=
  ⟨[rateRule threshold], true, true, by simp [MAX_RULES], List.nodup_singleton _⟩

/-- What a browser writes of these numbers: as many digits as tell them from all others. -/
def shortNumber (x : CDouble) : Bytes := Lib.formatG 17 x.datum

/-- The rule fits, and its strings are printable. -/
theorem editable_rateRule {threshold : Bytes}
    (hprints : PrintsBack shortNumber (readThreshold (rateRule threshold).threshold)) :
    ∀ rule ∈ (rateTable threshold).rules, Editable shortNumber rule := by
  intro rule hrule
  obtain rfl := List.mem_singleton.mp hrule
  have hid : (rateRule threshold).id = ascii "rate" := rfl
  have hname : (rateRule threshold).name = ascii "Rate" := rfl
  have hmetric : (rateRule threshold).metric = ascii "net.eth0.rx" := rfl
  have hduration : (rateRule threshold).durationS = 60 := rfl
  refine ⟨⟨?_, ?_, ?_, ?_, ?_, ?_⟩, ⟨?_, ?_, ?_⟩, fun _ => ⟨hprints, ?_⟩⟩
  · rw [hid]; decide
  · rw [hname]; decide
  · rw [hname]; decide
  · rw [hmetric]; decide
  · rw [hmetric]; decide
  · rw [hduration]; decide
  · rw [hid]; decide
  · rw [hname]; decide
  · rw [hmetric]; decide
  · rw [hduration]; decide +kernel

end Example

theorem editorKeeps_iff_ninety : EditorKeeps shortNumber (fun _ _ => 1) [] (rateTable (ascii "90")) ↔
    Unreadable (rateTable (ascii "90")) ∨ ∀ rule ∈ (rateTable (ascii "90")).rules, RowKept rule :=
  editorKeeps_iff shortNumber (fun _ _ => 1) [] (rateTable (ascii "90"))
    (editable_rateRule ⟨by decide +kernel, by decide +kernel⟩)

/-- A threshold of seven digits is moved. -/
theorem not_editorKeeps_rate :
    ¬ EditorKeeps shortNumber (fun _ _ => 1) [] (rateTable (ascii "1234567")) := by
  have hread : ¬ Unreadable (rateTable (ascii "1234567")) := by
    rintro ⟨rule, hrule, hbad⟩
    obtain rfl := List.mem_singleton.mp hrule
    revert hbad
    decide
  rw [editorKeeps_of_readable _ _ (editable_rateRule ⟨by decide +kernel, by decide +kernel⟩) hread]
  intro h
  rcases h _ List.mem_cons_self with hmetric | ⟨-, hthreshold⟩
  · revert hmetric
    decide
  · revert hthreshold
    decide +kernel

end AxisMetrics.Page
