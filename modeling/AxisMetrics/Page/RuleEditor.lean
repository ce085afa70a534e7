import AxisMetrics.Alerts.Payloads
import AxisMetrics.Alerts.Restart
import AxisMetrics.Lib.Html
import AxisMetrics.Settings.Dialog

/-!
# The rule editor of the page

The settings page reads the rules as JSON, makes a row of form fields for each, and posts every row
back when it is saved. A number of the page is a `double`: JSON is read into the nearest one, and
`printNumber` is how the browser writes one as text.
-/

namespace AxisMetrics.Page

open Lib (Bytes ascii Json jsonDocument formText runFrom attributeValue)

/-- `escapeHtml`. -/
def escapeHtml (text : Bytes) : Bytes := text.flatMap Lib.escapeByte

/-- A member of an object. -/
def member (value : Json) (key : Bytes) : Option Json :=
  match value with
  | .object members => (members.find? fun pair => pair.1 = key).map Prod.snd
  | _ => none

/-- A member that is a string. -/
def stringMember (value : Json) (key : Bytes) : Option Bytes :=
  match member value key with
  | some (.string text) => some text
  | _ => none

/-- A member that is a number. -/
def numberMember (value : Json) (key : Bytes) : Option CDouble :=
  match member value key with
  | some (.number text) => some (AlertArith.strtod CFloat text)
  | _ => none

/-- A member that is a truth value. -/
def boolMember (value : Json) (key : Bytes) : Option Bool :=
  match member value key with
  | some (.bool b) => some b
  | _ => none

/-- What the fields of a row hold. -/
structure RuleRow where
  id : Bytes
  name : Bytes
  metric : Bytes
  op : Bytes
  threshold : Bytes
  duration : Bytes
  enabled : Bool
  deriving DecidableEq

/-- `select.value = value`: an option is selected if there is one of that value. -/
def selectValue (options : List Bytes) (value : Bytes) : Bytes := if value ∈ options then value else []

/-- The metric that a row shows. A rule can outlive its metric: then an option is added for it. -/
def shownMetric (reported : List Bytes) (metric : Bytes) : Bytes :=
  let options := [] :: reported.map fun id => attributeValue (escapeHtml id)
  let shown := selectValue options metric
  if metric ≠ [] ∧ shown ≠ metric then
    selectValue (attributeValue (escapeHtml metric) :: options) metric
  else shown

/-- `ruleRow`, from a rule of the document; `reported` are the metrics the page knows. -/
def ruleRow (printNumber : CDouble → Bytes) (reported : List Bytes) (rule : Json) :
    Option RuleRow := do
  let id ← stringMember rule (ascii "id")
  let name ← stringMember rule (ascii "name")
  let metric ← stringMember rule (ascii "metric")
  let op ← stringMember rule (ascii "op")
  let threshold ← numberMember rule (ascii "threshold")
  let duration ← numberMember rule (ascii "duration")
  let enabled ← boolMember rule (ascii "enabled")
  pure {
    id := id
    name := sanitize .text (attributeValue (escapeHtml name))
    metric := shownMetric reported metric
    op := sanitize (.select [ascii "above", ascii "below"]) op
    threshold := sanitize .number (attributeValue (printNumber threshold))
    duration := sanitize .number (attributeValue (printNumber duration))
    enabled := enabled }

/-- `buildRuleList`: no rows where the document cannot be read. -/
def buildRuleList (printNumber : CDouble → Bytes) (reported : List Bytes) (document : Bytes) :
    List RuleRow :=
  match (jsonDocument document).bind fun payload => member payload (ascii "rules") with
  | some (.array rules) => rules.filterMap (ruleRow printNumber reported)
  | _ => []

/-- `value || other` of two texts. -/
def orElse (value other : Bytes) : Bytes := if value = [] then other else value

/-- What `saveRules` posts for a row; a row without a metric is skipped. -/
def rowBody (row : RuleRow) : Option Bytes :=
  if row.metric = [] then none
  else some (formText
    [(ascii "action", ascii "save"),
      (ascii "id", row.id),
      (ascii "name", orElse row.name row.metric),
      (ascii "metric", row.metric),
      (ascii "op", row.op),
      (ascii "threshold", orElse row.threshold (ascii "0")),
      (ascii "duration", orElse row.duration (ascii "0")),
      (ascii "enabled", if row.enabled then ascii "yes" else ascii "no")])

/-- `saveRules` of rows that were not edited, one request after the other. -/
def saveRules (declare : Bytes → Bytes → ℕ) (alerts : Alerts CDouble) (rows : List RuleRow) :
    Option (Alerts CDouble) :=
  runFrom (applyStep CFloat declare) alerts (rows.filterMap rowBody)

/-- The dialog is opened and saved, and no rule is edited. -/
def editorSession (printNumber : CDouble → Bytes) (declare : Bytes → Bytes → ℕ)
    (reported : List Bytes) (alerts : Alerts CDouble) : Option (Alerts CDouble) :=
  saveRules declare alerts (buildRuleList printNumber reported (alertsJson CFloat alerts))

end AxisMetrics.Page
