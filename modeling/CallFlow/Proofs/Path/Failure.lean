import CallFlow.Path
import Mathlib.Data.List.Basic

namespace CallFlow.Path

open Text

/-- Digits that no position is written with: one of them is ornamental, or there are too many. -/
def Unreadable (digits : String) : Prop :=
  (∃ c ∈ digits.toList, isDecimal c = false) ∨ Json.maxDigits < digits.length

/-- A position can not be read exactly if its digits are ornamental or too many. -/
theorem position_eq_error_iff {digits : String} :
    (∃ e, position digits = .error e) ↔ Unreadable digits := by
  have hreadable : (digits.toList.all isDecimal &&
      decide (digits.length ≤ Json.maxDigits)) = true ↔ ¬Unreadable digits := by
    simp [Unreadable]
  unfold position
  split
  · rename_i h
    exact iff_of_false (by simp) (hreadable.1 h)
  · rename_i h
    exact iff_of_true ⟨_, rfl⟩ (not_not.1 fun hnot => h (hreadable.2 hnot))

/-- A step that fails at a list. -/
def Step.Misfits : Step → Prop
  | .key name => isDigits name = true ∧ Unreadable name
  | .index digits => Unreadable digits

instance {digits : String} : Decidable (Unreadable digits) :=
  -- only the characters of the text are looked at
  haveI : Decidable (∃ c ∈ digits.toList, isDecimal c = false) := List.decidableBEx _ _
  inferInstanceAs (Decidable (_ ∨ _))

instance : DecidablePred Step.Misfits
  | .key _ => inferInstanceAs (Decidable (_ ∧ _))
  | .index _ => inferInstanceAs (Decidable (Unreadable _))

/-- Picking an item fails exactly if its position can not be read. -/
theorem itemAt_eq_error_iff {items : List Value} {digits : String} :
    (∃ e, itemAt items digits = .error e) ↔ Unreadable digits := by
  rw [← position_eq_error_iff, itemAt]
  cases position digits <;> simp [Except.map]

/-- A step fails only at a list, on a position that can not be read. -/
theorem take_eq_error_iff {v : Value} {step : Step} :
    (∃ e, take v step = .error e) ↔ (∃ items, v = .list items) ∧ step.Misfits := by
  cases v with
  | list items =>
    rw [and_iff_right ⟨items, rfl⟩]
    cases step with
    | key name =>
      simp only [take, Step.Misfits]
      split
      · rename_i hdigits
        rw [itemAt_eq_error_iff, and_iff_right hdigits]
      · rename_i hdigits
        exact iff_of_false (by simp) fun h => hdigits h.1
    | index digits => exact itemAt_eq_error_iff
  | _ =>
    -- elsewhere a step reads as null, if it is not there
    cases step <;> simp [take]

/-- Along its steps a path comes from a value to a list, with a step that fails there. -/
def Misleads (path : String) (v : Value) : Prop :=
  ∃ front step back items, steps path = front ++ step :: back ∧
    front.foldlM take v = .ok (.list items) ∧ step.Misfits

/-- A walk along steps fails at the first step that fails where the steps before it lead. -/
theorem foldlM_take_eq_error_iff {ls : List Step} {v : Value} :
    (∃ e, ls.foldlM take v = .error e) ↔
      ∃ front step back items, ls = front ++ step :: back ∧
        front.foldlM take v = .ok (.list items) ∧ step.Misfits := by
  induction ls generalizing v with
  | nil =>
    refine iff_of_false nofun ?_
    rintro ⟨front, step, back, items, heq, -⟩
    simp at heq
  | cons step ls ih =>
    rw [List.foldlM_cons]
    cases htake : take v step with
    | error e =>
      obtain ⟨⟨items, rfl⟩, hmisfits⟩ := take_eq_error_iff.1 ⟨e, htake⟩
      exact iff_of_true ⟨e, rfl⟩ ⟨[], step, ls, items, rfl, rfl, hmisfits⟩
    | ok w =>
      refine ih.trans ⟨?_, ?_⟩
      · rintro ⟨front, misfit, back, items, rfl, hfront, hmisfits⟩
        refine ⟨step :: front, misfit, back, items, rfl, ?_, hmisfits⟩
        rw [List.foldlM_cons, htake]
        exact hfront
      · rintro ⟨front, misfit, back, items, heq, hfront, hmisfits⟩
        cases front with
        | nil =>
          obtain ⟨rfl, -⟩ := List.cons.inj heq
          cases hfront
          obtain ⟨e, he⟩ := take_eq_error_iff.2 ⟨⟨items, rfl⟩, hmisfits⟩
          cases htake.symm.trans he
        | cons first front =>
          obtain ⟨rfl, rfl⟩ := List.cons.inj heq
          rw [List.foldlM_cons, htake] at hfront
          exact ⟨front, misfit, back, items, rfl, hfront, hmisfits⟩

/-- A path fails exactly if it misleads. -/
theorem get_eq_error_iff {v : Value} {path : String} :
    (∃ e, get v path = .error e) ↔ Misleads path v := foldlM_take_eq_error_iff

/-- A path with no step that misfits misleads on nothing. -/
theorem not_misleads_of_steps {path : String} (h : ∀ step ∈ steps path, ¬step.Misfits)
    (v : Value) : ¬Misleads path v := by
  rintro ⟨front, step, back, items, heq, -, hmisfits⟩
  exact h step (by simp [heq]) hmisfits

end CallFlow.Path
