import CallFlow.Path
import CallFlow.Proofs.Decimal.Written
import Mathlib.Data.List.Basic

namespace CallFlow.Path

open Text

/-- A step to a part of a document. -/
inductive Locator where
  | member (key : String)
  | item (index : Nat)
  deriving DecidableEq

/-- Digits in brackets stand somewhere in the characters. -/
def HasPosition (cs : List Char) : Prop :=
  ∃ front digits back, digits ≠ [] ∧ (∀ c ∈ digits, isDecimal c = true) ∧
    cs = front ++ '[' :: (digits ++ ']' :: back)

namespace Locator

/-- The part of a value that a step leads to, null when there is none. -/
def follow : Value → Locator → Value
  | .object members, member key => Bindings.getD members key
  | .list items, item index => items.getD index .null
  | _, _ => .null

/-- A step that a path can take: a key that is not taken apart by dots, brackets or blanks nor taken
for a position, or an index that has not too many digits. -/
def Addressable : Locator → Prop
  | member key =>
    key ≠ "" ∧ '.' ∉ key.toList ∧ ¬HasPosition key.toList ∧ Tight key.toList ∧
      ¬∀ c ∈ key.toList, isDigit c = true
  | item index => index < 10 ^ 4000

/-- A path with one more step: keys are joined by dots, and an index is appended in brackets. -/
def extend (path : String) : Locator → String
  | member key => if path = "" then key else path ++ "." ++ key
  | item index => path ++ "[" ++ toString index ++ "]"

/-- The path along some steps. -/
def path (ls : List Locator) : String := "$." ++ ls.foldl extend ""

end Locator

/-- Digits in brackets are read, and nothing else. -/
theorem bracket?_eq_some_iff {cs digits rest : List Char} :
    bracket? cs = some (digits, rest) ↔
      digits ≠ [] ∧ (∀ c ∈ digits, isDecimal c = true) ∧ cs = '[' :: (digits ++ ']' :: rest) := by
  constructor
  · intro h
    unfold bracket? at h
    split at h
    · rename_i cs
      split at h
      · cases h
      · rename_i hdrop hne
        cases h
        refine ⟨hne, fun c hc => List.mem_takeWhile_imp hc, ?_⟩
        rw [← hdrop, List.takeWhile_append_dropWhile]
      · cases h
    · cases h
  · rintro ⟨hne, hdigits, rfl⟩
    have hclosing : isDecimal ']' = false := by decide
    have htake : (digits ++ ']' :: rest).takeWhile isDecimal = digits := by
      simp [List.takeWhile_append_of_pos hdigits, hclosing]
    have hdrop : (digits ++ ']' :: rest).dropWhile isDecimal = ']' :: rest := by
      simp [List.dropWhile_append_of_pos hdigits, hclosing]
    obtain ⟨c, digits, rfl⟩ := List.exists_cons_of_ne_nil hne
    simp only [bracket?, htake, hdrop]

/-- A part without positions is a name. -/
theorem splitPart_of_not_hasPosition {cs : List Char} (h : ¬HasPosition cs) :
    splitPart cs = (cs, []) := by
  fun_induction splitPart cs with
  | case1 => rfl
  | case2 c after digits rest hbracket =>
    obtain ⟨hne, hdigits, heq⟩ := bracket?_eq_some_iff.1 hbracket
    exact absurd ⟨[], digits, rest, hne, hdigits, heq⟩ h
  | case3 c after hnone name positions hsplit ih =>
    have hafter : ¬HasPosition after := by
      rintro ⟨front, digits, back, hne, hdigits, rfl⟩
      exact h ⟨c :: front, digits, back, hne, hdigits, rfl⟩
    obtain ⟨rfl, rfl⟩ := Prod.mk.inj (hsplit.symm.trans (ih hafter))
    rfl

/-- No position begins in the characters before a bracket and ends behind it. -/
theorem bracket?_append_opening {c : Char} {cs : List Char} (h : bracket? (c :: cs) = none)
    (rest : List Char) : bracket? (c :: (cs ++ '[' :: rest)) = none := by
  refine Option.eq_none_iff_forall_ne_some.2 fun ⟨digits, back⟩ hsome => ?_
  obtain ⟨hne, hdigits, heq⟩ := bracket?_eq_some_iff.1 hsome
  obtain ⟨rfl, hcs⟩ := List.cons.inj heq
  rcases List.append_eq_append_iff.1 hcs with ⟨between, rfl, hrest⟩ | ⟨between, rfl, hrest⟩
  · -- a bracket among the digits
    cases between with
    | nil => simp at hrest
    | cons d between =>
      obtain ⟨rfl, -⟩ := List.cons.inj hrest
      exact absurd (hdigits '[' (by simp)) (by decide)
  · cases between with
    | nil => simp at hrest
    | cons d between =>
      obtain ⟨rfl, -⟩ := List.cons.inj hrest
      rw [bracket?_eq_some_iff.2 ⟨hne, hdigits, rfl⟩] at h
      cases h

/-- Positions are split off one by one. -/
theorem splitPart_of_bracket? {cs digits rest : List Char} (h : bracket? cs = some (digits, rest)) :
    splitPart cs = ((splitPart rest).1, digits :: (splitPart rest).2) := by
  cases cs with
  | nil => cases h
  | cons c after =>
    rw [splitPart]
    split
    · rename_i heq
      rw [h] at heq
      cases heq
      rfl
    · rename_i heq
      rw [h] at heq
      cases heq

theorem splitPart_cons_of_eq_none {c : Char} {cs : List Char} (h : bracket? (c :: cs) = none) :
    splitPart (c :: cs) = (c :: (splitPart cs).1, (splitPart cs).2) := by
  rw [splitPart]
  split
  · rename_i heq
    rw [h] at heq
    cases heq
  · rfl

/-- A part may be split before any opening bracket. -/
theorem splitPart_append_opening (cs rest : List Char) :
    splitPart (cs ++ '[' :: rest) =
      ((splitPart cs).1 ++ (splitPart ('[' :: rest)).1,
        (splitPart cs).2 ++ (splitPart ('[' :: rest)).2) := by
  fun_induction splitPart cs with
  | case1 => simp
  | case2 c after digits back hbracket _ name positions hsplit ih =>
    obtain ⟨hne, hdigits, heq⟩ := bracket?_eq_some_iff.1 hbracket
    have happend : bracket? (c :: after ++ '[' :: rest) = some (digits, back ++ '[' :: rest) := by
      rw [heq]
      exact bracket?_eq_some_iff.2 ⟨hne, hdigits, by simp⟩
    rw [splitPart_of_bracket? happend, ih, hsplit]
    rfl
  | case3 c after hnone name positions hsplit ih =>
    have happend := bracket?_append_opening hnone rest
    rw [List.cons_append, splitPart_cons_of_eq_none happend, ih, hsplit]
    rfl

/-- A bracketed position at the end of a part is its last step. -/
theorem partSteps_append_position {digits : List Char} (hne : digits ≠ [])
    (hdigits : ∀ c ∈ digits, isDecimal c = true) (cs : List Char) :
    partSteps (cs ++ '[' :: (digits ++ [']'])) =
      partSteps cs ++ [.index (String.ofList digits)] := by
  have hbracket : bracket? ('[' :: (digits ++ [']'])) = some (digits, []) :=
    bracket?_eq_some_iff.2 ⟨hne, hdigits, rfl⟩
  have hsplit : splitPart ('[' :: (digits ++ [']'])) = ([], [digits]) := by
    rw [splitPart_of_bracket? hbracket, splitPart]
  simp [partSteps, splitPart_append_opening, hsplit]

/-- A name without positions is one step. -/
theorem partSteps_of_not_hasPosition {cs : List Char} (hne : cs ≠ []) (h : ¬HasPosition cs) :
    partSteps cs = [.key (String.ofList cs)] := by
  simp [partSteps, splitPart_of_not_hasPosition h, hne]

/-- Without a dot there is one part. -/
theorem splitDots_of_not_mem {cs : List Char} (h : '.' ∉ cs) : splitDots cs = [cs] := by
  induction cs with
  | nil => rfl
  | cons c cs ih =>
    obtain ⟨hc, hcs⟩ := List.ne_and_not_mem_of_not_mem_cons h
    simp [splitDots, ih hcs, hc.symm]

theorem splitDots_cons_of_ne {c : Char} (hc : c ≠ '.') {cs part : List Char}
    {parts : List (List Char)} (h : splitDots cs = part :: parts) :
    splitDots (c :: cs) = (c :: part) :: parts := by
  simp [splitDots, hc, h]

theorem exists_splitDots_cons (cs : List Char) : ∃ part parts, splitDots cs = part :: parts := by
  cases cs with
  | nil => exact ⟨[], [], rfl⟩
  | cons c cs =>
    unfold splitDots
    split
    · exact ⟨_, _, rfl⟩
    · split <;> exact ⟨_, _, rfl⟩

/-- A path may be split at any dot. -/
theorem splitDots_append_dot (cs rest : List Char) :
    splitDots (cs ++ '.' :: rest) = splitDots cs ++ splitDots rest := by
  induction cs with
  | nil => simp [splitDots]
  | cons c cs ih =>
    by_cases hc : c = '.'
    · simp [splitDots, hc, ih]
    · obtain ⟨part, parts, hcs⟩ := exists_splitDots_cons cs
      rw [hcs, List.cons_append] at ih
      rw [List.cons_append, splitDots_cons_of_ne hc ih, splitDots_cons_of_ne hc hcs]
      rfl

/-- Characters without a dot continue the last part. -/
theorem splitDots_append (cs : List Char) {more : List Char} (h : '.' ∉ more) :
    ∃ front last, splitDots cs = front ++ [last] ∧
      splitDots (cs ++ more) = front ++ [last ++ more] := by
  induction cs with
  | nil => exact ⟨[], [], rfl, splitDots_of_not_mem h⟩
  | cons c cs ih =>
    obtain ⟨front, last, hcs, hmore⟩ := ih
    by_cases hc : c = '.'
    · exact ⟨[] :: front, last, by simp [splitDots, hc, hcs], by simp [splitDots, hc, hmore]⟩
    · cases front with
      | nil =>
        exact ⟨[], c :: last, splitDots_cons_of_ne hc hcs, splitDots_cons_of_ne hc hmore⟩
      | cons part front =>
        exact ⟨(c :: part) :: front, last, splitDots_cons_of_ne hc hcs,
          splitDots_cons_of_ne hc hmore⟩

/-- The steps that the characters of a path take. -/
def stepsOf (cs : List Char) : List Step := (splitDots cs).flatMap partSteps

theorem stepsOf_nil : stepsOf [] = [] := by simp [stepsOf, splitDots, partSteps, splitPart]

theorem toList_toString (n : Nat) : (toString n).toList = Nat.toDigits 10 n := by
  rw [Nat.toString_eq_repr, Nat.toList_repr]

namespace Locator

/-- The step that a path takes. -/
def step : Locator → Step
  | member key => .key key
  | item index => .index (toString index)

/-- The path with one more step takes that step after the others. -/
theorem stepsOf_extend {l : Locator} (h : l.Addressable) (path : String) :
    stepsOf (extend path l).toList = stepsOf path.toList ++ [l.step] := by
  cases l with
  | member key =>
    obtain ⟨hne, hdot, hposition, -, -⟩ := h
    have hkey : stepsOf key.toList = [.key key] := by
      have hne : key.toList ≠ [] := by simpa using hne
      simp [stepsOf, splitDots_of_not_mem hdot, partSteps_of_not_hasPosition hne hposition]
    by_cases hempty : path = ""
    · rw [extend, if_pos hempty, hempty, hkey, String.toList_empty, stepsOf_nil]
      rfl
    · have htext : (path ++ "." ++ key).toList = path.toList ++ '.' :: key.toList := by simp
      rw [extend, if_neg hempty, htext, stepsOf, splitDots_append_dot, List.flatMap_append]
      exact congrArg _ hkey
  | item index =>
    have hdigits := digits_toDigits index
    have htext : (extend path (item index)).toList =
        path.toList ++ '[' :: (Nat.toDigits 10 index ++ [']']) := by
      simp [extend]
    have hdot : '.' ∉ '[' :: (Nat.toDigits 10 index ++ [']']) := by
      have hdot : '.' ∉ Nat.toDigits 10 index := fun hmem => absurd (hdigits _ hmem) (by decide)
      simp [hdot]
    have hne : Nat.toDigits 10 index ≠ [] := Nat.toDigits_ne_nil
    obtain ⟨front, last, hpath, hextended⟩ := splitDots_append path.toList hdot
    have hlast := partSteps_append_position hne
      (fun c hc => isDecimal_of_isDigit (hdigits c hc)) last
    have hindex : String.ofList (Nat.toDigits 10 index) = toString index := by
      rw [← toList_toString, String.ofList_toList]
    simp [htext, stepsOf, hpath, hextended, hlast, hindex, step]

/-- Extending a path extends its steps. -/
theorem stepsOf_foldl_extend {ls : List Locator} (h : ∀ l ∈ ls, l.Addressable) (path : String) :
    stepsOf (ls.foldl extend path).toList = stepsOf path.toList ++ ls.map step := by
  induction ls generalizing path with
  | nil => simp
  | cons l ls ih =>
    obtain ⟨hl, hls⟩ := List.forall_mem_cons.1 h
    rw [List.foldl_cons, ih hls, stepsOf_extend hl, List.map_cons, List.append_assoc]
    rfl

/-- No path ends in a blank. -/
theorem tightFront_reverse_foldl_extend {ls : List Locator} (h : ∀ l ∈ ls, l.Addressable)
    {path : String} (hpath : TightFront path.toList.reverse) :
    TightFront (ls.foldl extend path).toList.reverse := by
  induction ls generalizing path with
  | nil => exact hpath
  | cons l ls ih =>
    obtain ⟨hl, hls⟩ := List.forall_mem_cons.1 h
    refine ih hls ?_
    cases l with
    | member key =>
      obtain ⟨hne, -, -, htight, -⟩ := hl
      have hne : key.toList ≠ [] := by simpa using hne
      rw [extend]
      split
      · exact htight.2
      · rw [String.toList_append]
        exact htight.append_back hne _
    | item index =>
      rw [extend, String.toList_append, List.reverse_append]
      exact tightFront_cons (by decide) _

/-- The path of some locators takes their steps. -/
theorem steps_path {ls : List Locator} (h : ∀ l ∈ ls, l.Addressable) :
    steps (path ls) = ls.map step := by
  have hback : TightFront (ls.foldl extend "").toList.reverse :=
    tightFront_reverse_foldl_extend h (by simp [TightFront])
  have hsteps := stepsOf_foldl_extend h ""
  rw [String.toList_empty, stepsOf_nil, List.nil_append] at hsteps
  have hpath : (path ls).toList = '$' :: '.' :: (ls.foldl extend "").toList := by simp [path]
  generalize (ls.foldl extend "").toList = cs at hback hsteps hpath
  have htight : Tight ('$' :: '.' :: cs) := by
    refine ⟨tightFront_cons (by decide) _, ?_⟩
    cases cs with
    | nil => exact tightFront_cons (by decide) _
    | cons c cs =>
      have hreverse : ('$' :: '.' :: c :: cs).reverse = (c :: cs).reverse ++ ['.', '$'] := by simp
      rw [hreverse]
      exact hback.append (by simp) _
  rw [steps, hpath, trim_of_tight htight]
  exact hsteps

/-- A number that is written out is read as a position. -/
theorem position_toString {index : Nat} (h : index < 10 ^ 4000) :
    position (toString index) = .ok index := by
  have hall : (Nat.toDigits 10 index).all isDecimal = true :=
    List.all_eq_true.2 fun c hc => isDecimal_of_isDigit (digits_toDigits index c hc)
  have hlength : (toString index).length ≤ Json.maxDigits := by
    rw [← String.length_toList, toList_toString]
    have hle := (Nat.length_toDigits_le_iff (b := 10) (by decide) (by decide)).2 h
    exact hle.trans (by decide)
  rw [position, toList_toString, hall, NumberText.decimalNat_toDigits, decide_eq_true hlength]
  rfl

/-- Along a step that can be addressed a path does not fail. -/
theorem take_step {l : Locator} (h : l.Addressable) (v : Value) :
    take v l.step = .ok (l.follow v) := by
  cases l with
  | member key =>
    obtain ⟨-, -, -, -, hdigits⟩ := h
    have hkey : isDigits key = false := by
      rw [isDigits, Bool.and_eq_false_iff]
      exact Or.inr (Bool.eq_false_iff.2 fun hall => hdigits (List.all_eq_true.1 hall))
    cases v <;> simp [step, take, follow, hkey]
  | item index =>
    cases v with
    | list items =>
      simp only [step, take, itemAt, position_toString h]
      rfl
    | _ => rfl

/-- Taking the steps of locators follows them. -/
theorem foldlM_take_step {ls : List Locator} (h : ∀ l ∈ ls, l.Addressable) (v : Value) :
    (ls.map step).foldlM take v = .ok (ls.foldl follow v) := by
  induction ls generalizing v with
  | nil => rfl
  | cons l ls ih =>
    obtain ⟨hl, hls⟩ := List.forall_mem_cons.1 h
    rw [List.map_cons, List.foldlM_cons, take_step hl]
    exact ih hls (l.follow v)

end Locator

/-- Along every list of steps that can be addressed, a path leads where the steps lead one after the
other. -/
theorem get_path (v : Value) {ls : List Locator} (h : ∀ l ∈ ls, l.Addressable) :
    get v (Locator.path ls) = .ok (ls.foldl Locator.follow v) := by
  rw [get, Locator.steps_path h, Locator.foldlM_take_step h]

private def orders : Value :=
  .list [.null, .list [.object [("$a[", .list [.object [("b [x", .int 7)]])]]]

private def locators : List Locator :=
  [.item 1, .item 0, .member "$a[", .item 0, .member "b [x"]

private theorem addressable_locators : ∀ l ∈ locators, l.Addressable := by
  have hclosing : ∀ cs : List Char, ']' ∉ cs → ¬HasPosition cs := by
    rintro _ hnot ⟨front, digits, back, -, -, rfl⟩
    simp at hnot
  have hends : ∀ c d : Char, isBlank c = false → isBlank d = false → ∀ cs : List Char,
      Tight (c :: (cs ++ [d])) := fun c d hc hd cs =>
    ⟨tightFront_cons hc _, by simpa using tightFront_cons hd (cs.reverse ++ [c])⟩
  have hfirst : (Locator.member "$a[").Addressable :=
    ⟨by decide, by decide, hclosing _ (by decide), hends '$' '[' (by decide) (by decide) ['a'],
      fun hdigits => absurd (hdigits '$' (by decide)) (by decide)⟩
  have hsecond : (Locator.member "b [x").Addressable :=
    ⟨by decide, by decide, hclosing _ (by decide), hends 'b' 'x' (by decide) (by decide) [' ', '['],
      fun hdigits => absurd (hdigits 'b' (by decide)) (by decide)⟩
  have hindex : ∀ index < 10, (Locator.item index).Addressable := by
    have hpow : ∀ n ≠ 0, 10 ≤ 10 ^ n := fun n hn => Nat.le_self_pow hn 10
    exact fun index h => h.trans_le (hpow 4000 (by decide))
  simp [locators, hfirst, hsecond, hindex]

theorem get_path_locators : (∀ l ∈ locators, l.Addressable) ∧
    get orders "$.[1][0].$a[[0].b [x" = .ok (.int 7) := by
  have htext : Locator.path locators = "$.[1][0].$a[[0].b [x" := by decide +kernel
  have hget := get_path orders addressable_locators
  rw [htext] at hget
  exact ⟨addressable_locators, hget⟩

end CallFlow.Path
