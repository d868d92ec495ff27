import CallFlow.Proofs.Condition.Grammar
import CallFlow.Proofs.Decimal.Shown

namespace CallFlow

namespace Operator

variable {o : Operator} {v w : Value}

/-- Whether an operator holds of two values when the one on the right is shown as text first. -/
def holdsShown (o : Operator) (v w : Value) : Bool :=
  (w.display.bind fun text => o.verdict v (.text text)).getD false

theorem holdsShown_equal_comm : equal.holdsShown v w = equal.holdsShown w v := by
  cases hv : v.display <;> cases hw : w.display <;>
    simp [holdsShown, verdict, Condition.compareTexts, Condition.folded, hv, hw, Bool.beq_comm]

theorem holdsShown_notEqual_comm : notEqual.holdsShown v w = notEqual.holdsShown w v := by
  cases hv : v.display <;> cases hw : w.display <;>
    simp [holdsShown, verdict, Condition.compareTexts, Condition.folded, hv, hw, bne_comm]

/-- A comparison is decided by the number on the left and the number of the text on the right, if
it does not hold of them where there is no such text. -/
theorem holdsShown_of_compares (holds : Float → Float → Bool) {x y : Float}
    (ho : o.verdict v (.text w.shown) = Condition.compareNumbers v (.text w.shown) holds)
    (hx : v.toNumber? = some x) (hy : (Value.text w.shown).toNumber? = some y)
    (hnone : w.display = none → holds x y = false) : o.holdsShown v w = holds x y := by
  cases hdisplay : w.display with
  | none => simp [holdsShown, hdisplay, hnone]
  | some s =>
    obtain ⟨-, rfl⟩ := Value.display_eq_some_iff.1 hdisplay
    simp [holdsShown, hdisplay, ho, Condition.compareNumbers, hx, hy]

/-- A value that shows the number it counts as counts as none if it can not be shown. -/
theorem incomparable_of_display_eq_none (hw : w.ShowsNumber) (h : w.display = none) {y y' : Float}
    (hy : w.toNumber? = some y) (hsame : Decimal.SameOrder y y') (x : Float) :
    ¬x < y' ∧ ¬y' < x ∧ ¬x ≤ y' ∧ ¬y' ≤ x := by
  have hnan : w.toNumber? = some notANumber := by
    refine (Value.display_of_showsNumber hw).resolve_left ?_
    rw [h]
    exact nofun
  obtain rfl : y = Float.nan := Option.some.inj (hy.symm.trans hnan)
  obtain ⟨hlt, hgt, hle, hge⟩ := hsame x
  rw [← hlt, ← hgt, ← hle, ← hge]
  exact Decimal.not_lt_nan x

/-- Numbers compare alike from either side, whichever of them is shown. -/
theorem holdsShown_greater (hv : v.ShowsNumber) (hw : w.ShowsNumber) :
    greater.holdsShown v w = less.holdsShown w v ∧
      greaterOrEqual.holdsShown v w = lessOrEqual.holdsShown w v := by
  obtain ⟨x, x', hx, hx', hsame⟩ := Value.toNumber?_shown hv
  obtain ⟨y, y', hy, hy', hsame'⟩ := Value.toNumber?_shown hw
  obtain ⟨-, hlt, -, hle⟩ := hsame y
  obtain ⟨hlt', -, hle', -⟩ := hsame' x
  have hnone : w.display = none → ¬y' < x ∧ ¬y' ≤ x := fun h =>
    have hnot := incomparable_of_display_eq_none hw h hy hsame' x
    ⟨hnot.2.1, hnot.2.2.2⟩
  have hnone' : v.display = none → ¬y < x' ∧ ¬y ≤ x' := fun h =>
    have hnot := incomparable_of_display_eq_none hv h hx hsame y
    ⟨hnot.1, hnot.2.2.1⟩
  constructor
  · have hiff : x > y' ↔ y < x' := hlt'.symm.trans hlt
    rw [holdsShown_of_compares (· > ·) rfl hx hy' fun h =>
        decide_eq_false (hnone h).1,
      holdsShown_of_compares (· < ·) rfl hy hx' fun h => decide_eq_false (hnone' h).1]
    exact decide_eq_decide.2 hiff
  · have hiff : x ≥ y' ↔ y ≤ x' := hle'.symm.trans hle
    rw [holdsShown_of_compares (· ≥ ·) rfl hx hy' fun h =>
        decide_eq_false (hnone h).2,
      holdsShown_of_compares (· ≤ ·) rfl hy hx' fun h => decide_eq_false (hnone' h).2]
    exact decide_eq_decide.2 hiff

end Operator

namespace Condition

/-- A name in braces. -/
def placeholderText (name : String) : String := "\x7b\x7b" ++ name ++ "\x7d\x7d"

theorem toList_placeholderText (name : String) :
    (placeholderText name).toList = Template.placed name.toList [] := by
  simp [placeholderText, Template.placed]

/-- A placeholder is an operand. -/
theorem isOperand_placeholderText {name : String} (h : Template.IsName name.toList) :
    IsOperand (placeholderText name) := by
  rw [IsOperand, toList_placeholderText]
  constructor
  · have hname : '\n' ∉ name.toList := fun hmem => absurd (h.2 _ hmem) (by decide)
    simp [Template.placed, hname]
  · intro hblank
    exact absurd (hblank '{' List.mem_cons_self) (by decide)

theorem operandText_placeholderText (name : String) :
    operandText (placeholderText name) = String.ofList (Template.placed name.toList []) := by
  have htight : Text.Tight (Template.placed name.toList []) := by
    refine ⟨Text.tightFront_cons (by decide) _, ?_⟩
    simp only [Template.placed, List.reverse_cons, List.reverse_append, List.reverse_nil,
      List.nil_append, List.cons_append]
    exact Text.tightFront_cons (by decide) _
  rw [operandText, toList_placeholderText, Text.trim_of_tight htight]
  simp [unquote, Template.placed]

/-- A comparison of two placeholders compares what the first is bound to with what is shown for the
second. -/
theorem evaluate_placeholders {a b : String} (ha : Template.IsName a.toList)
    (hb : Template.IsName b.toList) (bindings : Bindings) (userInput : String) {o : Operator}
    {sign : String} (h : o.Spelled sign.toList) :
    evaluate (comparisonText a sign (placeholderText b)) bindings userInput =
      o.holdsShown ((bindings.set userInputName (.text userInput)).getD a)
        ((bindings.set userInputName (.text userInput)).getD b) := by
  rw [evaluate_comparisonText ha bindings userInput h (isOperand_placeholderText hb),
    operandText_placeholderText, Template.render_placed hb, Operator.holdsShown]

/-- Equality of two names is the same from either side, and so are the comparisons when both values
show the numbers they count as. -/
theorem evaluate_sides {a b : String} (ha : Template.IsName a.toList)
    (hb : Template.IsName b.toList) (bindings : Bindings) (userInput : String) :
    let scope := bindings.set userInputName (.text userInput)
    let compare (x sign y : String) :=
      evaluate (comparisonText x sign (placeholderText y)) bindings userInput
    compare a "==" b = compare b "==" a ∧ compare a "!=" b = compare b "!=" a ∧
      ((scope.getD a).ShowsNumber → (scope.getD b).ShowsNumber →
        compare a ">" b = compare b "<" a ∧ compare a ">=" b = compare b "<=" a) := by
  intro scope compare
  simp only [compare, evaluate_placeholders ha hb bindings userInput .equal,
    evaluate_placeholders hb ha bindings userInput .equal,
    evaluate_placeholders ha hb bindings userInput .notEqual,
    evaluate_placeholders hb ha bindings userInput .notEqual,
    evaluate_placeholders ha hb bindings userInput .greater,
    evaluate_placeholders hb ha bindings userInput .less,
    evaluate_placeholders ha hb bindings userInput .greaterOrEqual,
    evaluate_placeholders hb ha bindings userInput .lessOrEqual]
  exact ⟨Operator.holdsShown_equal_comm, Operator.holdsShown_notEqual_comm,
    Operator.holdsShown_greater⟩

private def measured : Bindings := [("a", .float 0.3), ("b", .int 7)]

theorem evaluate_sides_measured :
    Template.IsName "a".toList ∧ Template.IsName "b".toList ∧
      evaluate (comparisonText "a" ">" (placeholderText "b")) measured "" =
        evaluate (comparisonText "b" "<" (placeholderText "a")) measured "" := by
  have ha : Template.IsName "a".toList := ⟨by decide, List.all_eq_true.1 (by decide)⟩
  have hb : Template.IsName "b".toList := ⟨by decide, List.all_eq_true.1 (by decide)⟩
  have hfloat : (Value.float 0.3).ShowsNumber := rfl
  have hint : (Value.int 7).ShowsNumber := (by decide +kernel : (Decimal.ofInt? 7).isSome = true)
  obtain ⟨-, -, hcompare⟩ := evaluate_sides ha hb measured ""
  exact ⟨ha, hb, (hcompare hfloat hint).1⟩

private def switched : Bindings := [("a", .bool true), ("b", .int 0)]

/-- A truth value counts as a number, but the text it is shown as does not. -/
theorem evaluate_sides_switched :
    Template.IsName "a".toList ∧ Template.IsName "b".toList ∧
      evaluate (comparisonText "a" ">" (placeholderText "b")) switched "" = true ∧
      evaluate (comparisonText "b" "<" (placeholderText "a")) switched "" = false :=
  ⟨⟨by decide, List.all_eq_true.1 (by decide)⟩, ⟨by decide, List.all_eq_true.1 (by decide)⟩,
    by decide +kernel, by decide +kernel⟩

end Condition

end CallFlow
