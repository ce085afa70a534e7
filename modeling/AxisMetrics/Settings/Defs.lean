import AxisMetrics.Api.Query
import AxisMetrics.Lib.FormUrl
import AxisMetrics.Lib.Json
import Mathlib.Logic.Function.Basic

/-!
# Settings

The parameters, the document that `GET settings` returns and the body that `POST settings`
takes. Values are C strings: byte strings without a zero.
-/

namespace AxisMetrics

open Lib (Bytes ascii strsplit)

/-- The fixed fields of a `Parameter`. -/
structure Parameter where
  name : Bytes
  fallback : Bytes
  secret : Bool
  deriving DecidableEq

/-- `parameters`, in table order. -/
def PARAMETERS : List Parameter :=
  [⟨ascii "SampleInterval", ascii "1", false⟩,
    ⟨ascii "MqttEnabled", ascii "no", false⟩,
    ⟨ascii "MqttHost", ascii "", false⟩,
    ⟨ascii "MqttPort", ascii "1883", false⟩,
    ⟨ascii "MqttTls", ascii "no", false⟩,
    ⟨ascii "MqttUsername", ascii "", false⟩,
    ⟨ascii "MqttPassword", ascii "", true⟩,
    ⟨ascii "MqttTopicPrefix", ascii "", false⟩,
    ⟨ascii "MqttInterval", ascii "30", false⟩,
    ⟨ascii "MqttDiscovery", ascii "yes", false⟩,
    ⟨ascii "MqttDiscoveryAll", ascii "no", false⟩,
    ⟨ascii "InfluxEnabled", ascii "no", false⟩,
    ⟨ascii "InfluxVersion", ascii "v2", false⟩,
    ⟨ascii "InfluxUrl", ascii "", false⟩,
    ⟨ascii "InfluxDatabase", ascii "", false⟩,
    ⟨ascii "InfluxOrg", ascii "", false⟩,
    ⟨ascii "InfluxToken", ascii "", true⟩,
    ⟨ascii "InfluxUsername", ascii "", false⟩,
    ⟨ascii "InfluxPassword", ascii "", true⟩,
    ⟨ascii "InfluxMeasurement", ascii "axis_metrics", false⟩,
    ⟨ascii "InfluxInterval", ascii "30", false⟩]

/-- The `value` of each parameter by its name, `none` for `NULL`. -/
abbrev ParameterValues := Bytes → Option Bytes

/-- `find_parameter`. -/
def findParameter (name : Bytes) : Option Parameter := PARAMETERS.find? fun p => p.name = name

/-- `parameter_value`. -/
def parameterValue (values : ParameterValues) (name : Bytes) : Bytes :=
  match findParameter name with
  | none => []
  | some p => (values p.name).getD p.fallback

/-- `"yes"` or `"no"`. -/
def yesNo (b : Bool) : Bytes := if b then ascii "yes" else ascii "no"

/-- A digit of the conversion `%x`. -/
def hexDigitLower (n : ℕ) : UInt8 := UInt8.ofNat (if n < 10 then 48 + n else 87 + n)

/-- One byte of `json_append_escaped`. -/
def jsonEscapeByte (b : UInt8) : Bytes :=
  if b = 34 then ascii "\\\""
  else if b = 92 then ascii "\\\\"
  else if b = 10 then ascii "\\n"
  else if b = 13 then ascii "\\r"
  else if b = 9 then ascii "\\t"
  else if b < 32 then
    ascii "\\u00" ++ [hexDigitLower (b.toNat / 16), hexDigitLower (b.toNat % 16)]
  else [b]

/-- `json_append_escaped`. -/
def jsonAppendEscaped (value : Bytes) : Bytes := value.flatMap jsonEscapeByte

/-- A turn of the loop of `settings_json`. Secrets are never returned. -/
def settingsEntry (values : ParameterValues) (p : Parameter) : Bytes :=
  let value := parameterValue values p.name
  ascii "\"" ++ jsonAppendEscaped p.name ++ ascii "\":\"" ++
  (if p.secret then [] else jsonAppendEscaped value) ++ ascii "\"" ++
  (if p.secret then
    ascii ",\"" ++ jsonAppendEscaped p.name ++ ascii "IsSet\":\"" ++ yesNo (value ≠ []) ++ ascii "\""
  else [])

/-- `settings_json`. -/
def settingsJson (values : ParameterValues) : Bytes :=
  ascii "\x7b" ++ (ascii ",").intercalate (PARAMETERS.map (settingsEntry values)) ++ ascii "\x7d"

/-- `ax_parameter_set` where it is called; `axParameterSet` says whether it succeeds. -/
def setParameter (axParameterSet : Bytes → Bytes → Bool) (state : ParameterValues × Bool)
    (p : Parameter) (value : Bytes) : ParameterValues × Bool :=
  if state.1 p.name = some value then state
  else if axParameterSet p.name value then
    (Function.update state.1 p.name (some value), true)
  else state

/-- A turn of the loop of `apply_settings_body`, with the values and `changed`. Unknown names are
ignored. -/
def applyPair (axParameterSet : Bytes → Bytes → Bool) (state : ParameterValues × Bool)
    (pair : Bytes) : ParameterValues × Bool :=
  if 61 ∈ pair then
    let name := urlDecode (pair.takeWhile (· ≠ 61))
    let value := urlDecode (pair.dropWhile (· ≠ 61)).tail
    match findParameter name with
    | none => state
    | some p => setParameter axParameterSet state p value
  else state

/-- `apply_settings_body`. -/
def applySettingsBody (axParameterSet : Bytes → Bytes → Bool) (values : ParameterValues)
    (body : Bytes) : ParameterValues × Bool :=
  (strsplit 38 body).foldl (applyPair axParameterSet) (values, false)

end AxisMetrics
