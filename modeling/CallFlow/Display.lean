import CallFlow.Json.Write
import CallFlow.Text.Blank

namespace CallFlow

/-- The text that people see for a value, as far as it can be written: nothing for null, a whole
number without a point even when it is held as a floating-point number, and lists and objects as
JSON. -/
def Value.shown : Value → String
  | .null => ""
  | .bool true => "true"
  | .bool false => "false"
  | .int i => toString i
  | .float x =>
    match Decimal.toInt? x with
    | some i => toString i
    | none => Decimal.json.text x
  | .text s => s
  | v => Json.write v

/-- The text that a value is shown as: what a placeholder is replaced with, and what is compared
when two values are compared as text. None for a value that can not be written. -/
def Value.display (v : Value) : Option String :=
  if Json.isWritable Json.maxNesting v then some v.shown else none

/-- A value is present when it is neither null nor the empty text. -/
def Value.isPresent : Value → Bool
  | .null => false
  | .text s => s ≠ ""
  | _ => true

end CallFlow
