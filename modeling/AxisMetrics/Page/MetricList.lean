import AxisMetrics.Api.Form
import AxisMetrics.Api.MetaDocument
import AxisMetrics.Http.Handler
import AxisMetrics.Page.RuleEditor
import AxisMetrics.Selection.Saved
import Mathlib.Data.List.Sort

/-!
# The list of metrics

The settings dialog lists the metrics that the page knows with two check boxes each, and posts the
ids whose boxes are not checked. What is posted for a scope replaces what was disabled in it
(`selectionPosted_selectionBody`).
-/

namespace AxisMetrics.Page

open Lib (Bytes ascii Json jsonDocument formText attributeValue)

/-- A metric of `meta.metrics`. -/
structure MetaMetric where
  id : Bytes
  group : Bytes
  display : Bool
  transmit : Bool
  deriving DecidableEq

/-- Whether the metric is on in a scope. -/
def MetaMetric.isOn (metric : MetaMetric) : SelectScope → Bool
  | .display => metric.display
  | .transmit => metric.transmit

/-- A member of the array, where only `false` is off. -/
def metaMetric (metric : Json) : Option MetaMetric := do
  let id ← stringMember metric (ascii "id")
  let group ← stringMember metric (ascii "group")
  pure {
    id := id
    group := group
    display := boolMember metric (ascii "display") ≠ some false
    transmit := boolMember metric (ascii "transmit") ≠ some false }

/-- `meta.metrics` of the document that `getJson` reads. -/
def metaMetrics (document : Bytes) : Option (List MetaMetric) :=
  match (jsonDocument document).bind fun payload => member payload (ascii "metrics") with
  | some (.array metrics) => metrics.mapM metaMetric
  | _ => none

/-- An input of the list. -/
structure CheckBox where
  scope : SelectScope
  dataId : Bytes
  checked : Bool
  deriving DecidableEq

/-- The two inputs of a metric. -/
def metricRow (metric : MetaMetric) : List CheckBox :=
  [⟨.display, attributeValue (escapeHtml metric.id), metric.isOn .display⟩,
    ⟨.transmit, attributeValue (escapeHtml metric.id), metric.isOn .transmit⟩]

/-- `buildMetricList`: the inputs group by group. -/
def buildMetricList (metrics : List MetaMetric) : List CheckBox :=
  let groups := (metrics.map MetaMetric.group).dedup.mergeSort fun a b => decide (a ≤ b)
  groups.flatMap fun group => (metrics.filter fun m => m.group = group).flatMap metricRow

/-- The boxes of a scope as the user leaves them. -/
def leaveBoxes (scope : SelectScope) (choice : Bytes → Bool) (boxes : List CheckBox) :
    List CheckBox :=
  boxes.map fun box => if box.scope = scope then { box with checked := choice box.dataId } else box

/-- The ids whose boxes are not checked. -/
def uncheckedIds (boxes : List CheckBox) (scope : SelectScope) : List Bytes :=
  (boxes.filter fun box => box.scope = scope && !box.checked).map CheckBox.dataId

/-- What `saveMetricSelection` posts for a scope. -/
def selectionBody (boxes : List CheckBox) (scope : SelectScope) : Bytes :=
  formText [(ascii "scope", selectionScopeName scope),
    (ascii "disabled", (ascii ",").intercalate (uncheckedIds boxes scope))]

/-- What `POST metrics` makes of the selection. -/
def selectionPosted (selection : Selection) (body : Bytes) : Selection :=
  match apiQueryParam body (ascii "scope"), apiQueryParam body (ascii "disabled") with
  | some scope, some disabled => selectionSetDisabled selection
      (if scope = ascii "transmit" then .transmit else .display) disabled
  | _, _ => selection

theorem selection_postMetrics {V D T : Type} (app : App V D T) (body : Bytes) :
    (app.postMetrics body).app.api.selection = selectionPosted app.api.selection body := by
  rw [App.postMetrics, selectionPosted]
  cases apiQueryParam body (ascii "scope") with
  | none => rfl
  | some scope => cases apiQueryParam body (ascii "disabled") <;> rfl

/-- A metric as the device reports it. -/
def reportedMetric (selection : Selection) (d : MetricDef) : MetaMetric where
  id := d.id
  group := d.group
  display := selectionEnabled selection .display d.id
  transmit := selectionEnabled selection .transmit d.id

theorem metaMetric_metricFields (selection : Selection) (d : MetricDef) :
    metaMetric (Lib.JsonPart.object (metricFields selection d)).value =
      some (reportedMetric selection d) := by
  have hid : stringMember (Lib.JsonPart.object (metricFields selection d)).value (ascii "id") =
      some d.id := rfl
  have hgroup : stringMember (Lib.JsonPart.object (metricFields selection d)).value
      (ascii "group") = some d.group := rfl
  have hdisplay : boolMember (Lib.JsonPart.object (metricFields selection d)).value
      (ascii "display") = some (selectionEnabled selection .display d.id) := rfl
  have htransmit : boolMember (Lib.JsonPart.object (metricFields selection d)).value
      (ascii "transmit") = some (selectionEnabled selection .transmit d.id) := rfl
  rw [metaMetric, hid, hgroup, hdisplay, htransmit, reportedMetric]
  simp

/-- The page reads what the device reports. -/
theorem metaMetrics_apiMetaJson {V D : Type} {api : Api V D} (h : MetaReadable api) :
    metaMetrics (apiMetaJson api) = some (api.registry.defs.map (reportedMetric api.selection)) := by
  have hmetrics : member (Lib.JsonPart.object (metaFields api)).value (ascii "metrics") =
      some (.array (api.registry.defs.map fun d =>
        (Lib.JsonPart.object (metricFields api.selection d)).value)) := by
    have hvalues : (api.registry.defs.map fun d =>
        Lib.JsonPart.object (metricFields api.selection d)).map Lib.JsonPart.value =
        api.registry.defs.map fun d =>
          (Lib.JsonPart.object (metricFields api.selection d)).value := List.map_map
    exact congrArg (fun items => some (Json.array items)) hvalues
  rw [metaMetrics, jsonDocument_apiMetaJson h, Option.bind_some, hmetrics]
  dsimp only
  generalize api.registry.defs = defs
  induction defs with
  | nil => rfl
  | cons d defs ih =>
    rw [List.map_cons, List.mapM_cons, metaMetric_metricFields, ih]
    rfl

section Boxes

variable {metrics : List MetaMetric} {scope : SelectScope} {choice : Bytes → Bool} {id : Bytes}

/-- Every metric has its row. -/
theorem mem_buildMetricList {box : CheckBox} :
    box ∈ buildMetricList metrics ↔ ∃ m ∈ metrics, box ∈ metricRow m := by
  simp only [buildMetricList, List.mem_flatMap, List.mem_mergeSort, List.mem_dedup, List.mem_map,
    List.mem_filter, decide_eq_true_eq]
  constructor
  · rintro ⟨group, -, m, ⟨hm, -⟩, hbox⟩
    exact ⟨m, hm, hbox⟩
  · rintro ⟨m, hm, hbox⟩
    exact ⟨m.group, ⟨m, hm, rfl⟩, m, ⟨hm, rfl⟩, hbox⟩

theorem mem_metricRow {m : MetaMetric} {box : CheckBox} :
    box ∈ metricRow m ↔ box = ⟨box.scope, m.id, m.isOn box.scope⟩ := by
  rw [metricRow, escapeHtml, Lib.attributeValue_escaped, List.mem_pair]
  constructor
  · rintro (rfl | rfl) <;> rfl
  · intro h
    cases hscope : box.scope with
    | display => rw [hscope] at h; exact Or.inl h
    | transmit => rw [hscope] at h; exact Or.inr h

/-- What is posted: the ids of the metrics that the user leaves unchecked. -/
theorem mem_uncheckedIds :
    id ∈ uncheckedIds (leaveBoxes scope choice (buildMetricList metrics)) scope ↔
      choice id = false ∧ ∃ m ∈ metrics, m.id = id := by
  simp only [uncheckedIds, leaveBoxes, List.mem_map, List.mem_filter, Bool.and_eq_true,
    decide_eq_true_eq, Bool.not_eq_true']
  constructor
  · rintro ⟨_, ⟨⟨box, hbox, rfl⟩, hscope, hchecked⟩, rfl⟩
    obtain ⟨m, hm, hrow⟩ := mem_buildMetricList.mp hbox
    have hid : box.dataId = m.id := by rw [mem_metricRow.mp hrow]
    by_cases hsame : box.scope = scope
    · rw [if_pos hsame] at hchecked ⊢
      exact ⟨hchecked, m, hm, hid.symm⟩
    · rw [if_neg hsame] at hscope
      exact absurd hscope hsame
  · rintro ⟨hchoice, m, hm, rfl⟩
    refine ⟨⟨scope, m.id, false⟩, ⟨⟨⟨scope, m.id, m.isOn scope⟩, ?_, ?_⟩, rfl, rfl⟩, rfl⟩
    · exact mem_buildMetricList.mpr ⟨m, hm, mem_metricRow.mpr rfl⟩
    · rw [if_pos rfl, hchoice]

end Boxes

/-- The server takes a post apart again. -/
theorem selectionPosted_selectionBody (selection : Selection) {boxes : List CheckBox}
    {scope : SelectScope} (hids : ∀ id ∈ uncheckedIds boxes scope, ListedId id ∧ 0 ∉ id) :
    selectionPosted selection (selectionBody boxes scope) =
      ⟨Function.update selection.disabled scope (uncheckedIds boxes scope)⟩ := by
  have hcsv : 0 ∉ (ascii ",").intercalate (uncheckedIds boxes scope) := fun hmem => by
    rcases Lib.mem_intercalate hmem with hcomma | ⟨id, hid, hzero⟩
    · exact absurd hcomma (by decide)
    · exact (hids id hid).2 hzero
  have hname : 0 ∉ selectionScopeName scope := by cases scope <;> decide
  let pairs := [(ascii "scope", selectionScopeName scope),
    (ascii "disabled", (ascii ",").intercalate (uncheckedIds boxes scope))]
  have hparam : ∀ pair ∈ pairs, apiQueryParam (formText pairs) pair.1 = some pair.2 := by
    intro pair hpair
    have hplain : ∀ other ∈ pairs, Lib.urlencode other.1 = other.1 := by
      simp only [pairs, List.forall_mem_cons, List.not_mem_nil, false_implies, implies_true,
        and_true]
      exact ⟨by decide, by decide⟩
    have hdistinct : (pairs.map Prod.fst).Nodup := by
      simp only [pairs, List.map_cons, List.map_nil]
      decide
    refine apiQueryParam_formText hplain hdistinct ?_ hpair
    simp only [pairs, List.forall_mem_cons, List.not_mem_nil, false_implies, implies_true, and_true]
    exact ⟨hname, hcsv⟩
  have hscopeParam := hparam _ List.mem_cons_self
  have hdisabledParam := hparam _ (List.mem_cons_of_mem _ List.mem_cons_self)
  have hscope : (if selectionScopeName scope = ascii "transmit" then SelectScope.transmit
      else .display) = scope := by cases scope <;> decide
  have hlist : disabledIds ((ascii ",").intercalate (uncheckedIds boxes scope)) =
      uncheckedIds boxes scope := disabledIds_intercalate fun id hid => (hids id hid).1
  rw [selectionBody, selectionPosted, hscopeParam, hdisabledParam]
  dsimp only
  rw [hscope, selectionSetDisabled, hlist]
  congr 1
  funext other
  by_cases hother : other = scope
  · rw [if_pos hother, hother, Function.update_self]
  · rw [if_neg hother, Function.update_of_ne hother]

end AxisMetrics.Page
