import AxisMetrics.Alerts.Defs
import AxisMetrics.Api.Documents

/-!
# The rules as a document

`alerts_json`: every rule with its current value and firing state.
-/

namespace AxisMetrics

open Lib (Bytes ascii decimal decimalInt)

/-- `op_name`. -/
def opName (op : AlertOp) : Bytes :=
  match op with
  | .below => ascii "below"
  | .above => ascii "above"

/-- `append_escaped` of `alerts.c`. -/
def alertsAppendEscaped (value : Bytes) : Bytes :=
  value.flatMap fun b => if b = 34 ∨ b = 92 then [92, b] else [b]

variable (V : Type) {T : Type} [RenderArith V T]

/-- A rule in `alerts_json`. -/
def ruleJson (rule : AlertRule T) : Bytes :=
  ascii "\x7b\"id\":\"" ++ alertsAppendEscaped rule.id ++ ascii "\",\"name\":\"" ++
  alertsAppendEscaped rule.name ++ ascii "\",\"metric\":\"" ++ alertsAppendEscaped rule.metric ++
  ascii "\",\"op\":\"" ++ opName rule.op ++ ascii "\",\"threshold\":" ++
  RenderArith.formatG V rule.threshold ++ ascii ",\"duration\":" ++ decimal rule.durationS ++
  ascii ",\"enabled\":" ++ trueFalse rule.enabled ++ ascii ",\"builtin\":" ++
  trueFalse rule.builtin ++ ascii ",\"firing\":" ++ trueFalse rule.firing ++
  ascii ",\"value\":" ++ RenderArith.formatG V rule.lastValue ++ ascii ",\"since\":" ++
  decimalInt rule.firedAt ++ ascii "\x7d"

/-- `alerts_json`. -/
def alertsJson (alerts : Alerts T) : Bytes :=
  ascii "\x7b\"rules\":[" ++ (ascii ",").intercalate (alerts.rules.map (ruleJson V)) ++
  ascii "],\"firing\":" ++ decimal (alerts.rules.countP AlertRule.firing) ++ ascii "\x7d"

end AxisMetrics
