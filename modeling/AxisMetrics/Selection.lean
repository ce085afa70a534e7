import AxisMetrics.Lib.CText
import Mathlib.Data.List.DropRight

/-!
# Metric selection

Which metrics the dashboard shows, and which leave the device. Each scope keeps the ids that are
switched off.
-/

namespace AxisMetrics

open Lib (Bytes ascii strsplit)

inductive SelectScope where
  | display
  | transmit
  deriving DecidableEq

/-- `Selection`: the disabled ids of each scope. -/
structure Selection where
  disabled : SelectScope → List Bytes

/-- White space of `g_strstrip`, which is `g_ascii_isspace`: no vertical tab. -/
def isStripped (b : UInt8) : Bool := b == 32 || b == 9 || b == 10 || b == 12 || b == 13

/-- `g_strstrip`. -/
def strstrip (text : Bytes) : Bytes := (text.dropWhile isStripped).rdropWhile isStripped

/-- `selection_enabled`. -/
def selectionEnabled (selection : Selection) (scope : SelectScope) (id : Bytes) : Bool :=
  id ∉ selection.disabled scope

/-- The ids in a comma-separated list. -/
def disabledIds (csv : Bytes) : List Bytes :=
  ((strsplit 44 csv).map strstrip).filter fun id => id ≠ []

/-- `selection_set_disabled`. -/
def selectionSetDisabled (selection : Selection) (scope : SelectScope) (csv : Bytes) :
    Selection where
  disabled other := if other = scope then disabledIds csv else selection.disabled other

end AxisMetrics
