import CallFlow.Condition
import CallFlow.Proofs.Display
import Mathlib.Data.List.Infix

namespace CallFlow

/-- Whether characters occur one after the other in others is whether these contain them. -/
theorem Text.occursIn_iff {part cs : List Char} : Text.occursIn part cs = true ↔ part <:+: cs := by
  induction cs with
  | nil => simp [Text.occursIn]
  | cons c cs ih => simp [Text.occursIn, List.infix_cons_iff, ih]

namespace Operator

/-- What an operator says of two values: it compares the folded texts they are shown as, or the
numbers they count as, of which there must be two. -/
def Says (o : Operator) (a b : Value) : Prop :=
  match o with
  | equal => ∃ s t, a.display = some s ∧ b.display = some t ∧ foldText s = foldText t
  | notEqual => ∃ s t, a.display = some s ∧ b.display = some t ∧ foldText s ≠ foldText t
  | greater => ∃ x y, a.toNumber? = some x ∧ b.toNumber? = some y ∧ x > y
  | greaterOrEqual => ∃ x y, a.toNumber? = some x ∧ b.toNumber? = some y ∧ x ≥ y
  | less => ∃ x y, a.toNumber? = some x ∧ b.toNumber? = some y ∧ x < y
  | lessOrEqual => ∃ x y, a.toNumber? = some x ∧ b.toNumber? = some y ∧ x ≤ y
  | contains => ∃ s t, a.display = some s ∧ b.display = some t ∧
      (foldText t).toList <:+: (foldText s).toList
  | notContains => ∃ s t, a.display = some s ∧ b.display = some t ∧
      ¬ (foldText t).toList <:+: (foldText s).toList

variable {a b : Value}

/-- Two numbers are compared when there are two. -/
theorem compareNumbers_iff {holds : Float → Float → Bool} :
    Condition.compareNumbers a b holds = some true ↔
      ∃ x y, a.toNumber? = some x ∧ b.toNumber? = some y ∧ holds x y = true := by
  unfold Condition.compareNumbers
  cases a.toNumber? <;> cases b.toNumber? <;> simp

/-- Two texts are compared when both values are shown as one. -/
theorem compareTexts_iff {holds : String → String → Bool} :
    Condition.compareTexts a b holds = some true ↔
      ∃ s t, a.display = some s ∧ b.display = some t ∧
        holds (foldText s) (foldText t) = true := by
  unfold Condition.compareTexts Condition.folded
  cases a.display <;> cases b.display <;> simp

/-- An operator holds when it says so, and it says nothing of what it can not compare. -/
theorem verdict_eq_some_true_iff {o : Operator} : o.verdict a b = some true ↔ o.Says a b := by
  cases o <;>
    simp [verdict, Says, compareNumbers_iff, compareTexts_iff, Text.occursIn_iff,
      ← Bool.not_eq_true]

/-- The operators in pairs, each with its negation. -/
def negated : List (Operator × Operator) := [(equal, notEqual), (contains, notContains)]

/-- A negated operator says the opposite of any two values that are both shown. -/
theorem verdict_negated {o o' : Operator} (h : (o, o') ∈ negated) :
    o'.verdict a b = (o.verdict a b).map Bool.not := by
  simp only [negated, List.mem_cons, Prod.mk.injEq, List.not_mem_nil, or_false] at h
  obtain ⟨rfl, rfl⟩ | ⟨rfl, rfl⟩ := h <;>
    cases hs : Condition.folded a <;> cases ht : Condition.folded b <;>
    simp [verdict, Condition.compareTexts, hs, ht, bne]

/-- An operator that is negated compares texts, so there is a verdict when both values are shown. -/
theorem verdict_eq_none_iff {o o' : Operator} (h : (o, o') ∈ negated) :
    o.verdict a b = none ↔ a.display = none ∨ b.display = none := by
  simp only [negated, List.mem_cons, Prod.mk.injEq, List.not_mem_nil, or_false] at h
  obtain ⟨rfl, -⟩ | ⟨rfl, -⟩ := h <;>
    cases hs : a.display <;> cases ht : b.display <;>
    simp [verdict, Condition.compareTexts, Condition.folded, hs, ht]

end Operator

end CallFlow
