import CallFlow.Display
import Mathlib.Tactic.SplitIfs

namespace CallFlow.Value

variable {v : Value} {s : String}

/-- A value is shown as its text as soon as it can be written. -/
theorem display_eq_some_iff :
    v.display = some s ↔ Json.isWritable Json.maxNesting v = true ∧ v.shown = s := by
  rw [display]
  split_ifs with h <;> simp [h]

/-- Only what can not be written can not be shown. -/
theorem display_eq_none_iff : v.display = none ↔ Json.isWritable Json.maxNesting v = false := by
  rw [display]
  split_ifs with h <;> simp [h]

@[simp] theorem display_null : null.display = some "" := rfl

@[simp] theorem display_text (s : String) : (text s).display = some s := rfl

end CallFlow.Value
