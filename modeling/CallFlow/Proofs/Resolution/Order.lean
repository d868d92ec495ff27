import CallFlow.Proofs.Model.Proposals
import CallFlow.Turn.Handler

namespace CallFlow

/-- Someone who is asked which of several transitions is to be taken, and may fail to answer. -/
abbrev Examiner (ε : Type) := List Transition → Dialogue (Except ε (Option String))

/-- The judge that goes by what an examiner answers. A failure is no answer. -/
def Examiner.judge {ε : Type} (examiner : Examiner ε) : Judge := fun ts =>
  (examiner ts).bind fun
    | .ok handle => .done handle
    | .error _ => .done none

namespace Resolution

/-- The equations among transitions. -/
def equations (ts : List Transition) : List Transition :=
  ts.filter fun t => t.criterion = .equation

/-- The transition that an answer amounts to: the one it names, if it was up for decision. -/
def chosen {ε : Type} (ts : List Transition) : Except ε (Option String) → Option String
  | .ok (some handle) => if handle ∈ ts.map Transition.handle then some handle else none
  | .ok none | .error _ => none

variable {ts other : List Transition} {b : Bindings} {userInput : String} {judge : Option Judge}

/-- Only equations hold. -/
theorem holds_equation {t : Transition} (h : holds b userInput t) : t.criterion = .equation := by
  simp only [holds, Bool.and_eq_true, decide_eq_true_eq] at h
  exact h.1

/-- Only the equations among the transitions are tried. -/
theorem equation?_eq_find?_equations (ts : List Transition) (b : Bindings) (userInput : String) :
    equation? ts b userInput =
      ((equations ts).find? (holds b userInput)).map Transition.handle := by
  have hboth (t : Transition) : (t.criterion = .equation ∧ holds b userInput t) ↔
      holds b userInput t := and_iff_right_of_imp holds_equation
  simp only [equation?, equations, List.find?_filter, decide_eq_true_eq, hboth, Bool.decide_eq_true]

/-- Only the equations in their order and the prompt transitions in theirs count. -/
theorem resolve_congr (hequations : equations ts = equations other)
    (hprompts : prompts ts = prompts other) :
    resolve judge ts b userInput = resolve judge other b userInput := by
  have hdecided : decided? ts b userInput = decided? other b userInput := by
    rw [decided?, decided?, equation?_eq_find?_equations, equation?_eq_find?_equations, hequations]
  have hreferred : referred? ts b userInput = referred? other b userInput := by
    rw [referred?, referred?, hdecided, hprompts]
  unfold resolve
  rw [hdecided, hreferred]

/-- What the equations decide is not put before the judge. -/
theorem resolve_of_decided {handle : String} (h : decided? ts b userInput = some handle) :
    resolve judge ts b userInput = .done (some handle) := by
  simp [resolve, h]

/-- The first equation that holds decides. -/
theorem resolve_of_first {before after : List Transition} {t : Transition} (hne : t.handle ≠ "")
    (hholds : holds b userInput t) (hbefore : ∀ earlier ∈ before, ¬holds b userInput earlier) :
    resolve judge (before ++ t :: after) b userInput = .done (some t.handle) := by
  have hnone : before.find? (holds b userInput) = none := List.find?_eq_none.2 hbefore
  have hfound : (before ++ t :: after).find? (holds b userInput) = some t := by
    rw [List.find?_append, hnone, Option.none_or, List.find?_cons_of_pos hholds]
  apply resolve_of_decided
  simp [decided?, equation?, hfound, hne, Option.filter]

/-- Nothing is decided where no equation holds. -/
theorem decided?_eq_none (h : ∀ t ∈ ts, ¬holds b userInput t) :
    decided? ts b userInput = none := by
  have hnone : ts.find? (holds b userInput) = none := List.find?_eq_none.2 h
  simp [decided?, equation?, hnone]

/-- Without an equation that holds, the judge is asked if there is one and something to judge. -/
theorem resolve_of_undecided (h : ∀ t ∈ ts, ¬holds b userInput t) :
    resolve judge ts b userInput =
      match judge, prompts ts with
      | some judge, p :: ps => (judge (p :: ps)).bind fun handle => .done (accept (p :: ps) handle)
      | _, _ => .done none := by
  have hdecided := decided?_eq_none h
  have hreferred : referred? ts b userInput =
      if (prompts ts).isEmpty then none else some (prompts ts) := by
    simp [referred?, hdecided]
  unfold resolve
  rw [hdecided, hreferred]
  cases hprompts : prompts ts with
  | nil => cases judge <;> rfl
  | cons p ps => cases judge <;> rfl

/-- Accepting an answer chooses the handle that it names. -/
theorem accept_eq_chosen {ε : Type} (hts : ∀ t ∈ ts, t.handle ≠ "")
    (answer : Except ε (Option String)) :
    accept ts (match answer with | .ok handle => handle | .error _ => none) =
      chosen ts answer := by
  match answer with
  | .error _ => rfl
  | .ok none => rfl
  | .ok (some handle) =>
    by_cases hmem : handle ∈ ts.map Transition.handle
    · obtain ⟨t, ht, rfl⟩ := List.mem_map.1 hmem
      simp [accept, chosen, Option.filter, hmem, hts t ht]
    · simp [accept, chosen, Option.filter, hmem]

/-- Transitions with handles resolve in this order, whatever the variables are, whatever the caller
said, and whoever is asked and however that goes. -/
theorem resolve_in_order {ε : Type} (examiner : Option (Examiner ε)) {ts : List Transition}
    (hts : ∀ t ∈ ts, t.handle ≠ "") (b : Bindings) (userInput : String) :
    (∀ before t after, ts = before ++ t :: after → holds b userInput t →
      (∀ earlier ∈ before, ¬holds b userInput earlier) →
      resolve (examiner.map Examiner.judge) ts b userInput = .done (some t.handle)) ∧
    ((∀ t ∈ ts, ¬holds b userInput t) →
      resolve (examiner.map Examiner.judge) ts b userInput =
        match examiner, prompts ts with
        | some examiner, p :: ps =>
          (examiner (p :: ps)).bind fun answer => .done (chosen (p :: ps) answer)
        | _, _ => .done none) ∧
    ∀ other, equations other = equations ts → prompts other = prompts ts →
      resolve (examiner.map Examiner.judge) other b userInput =
        resolve (examiner.map Examiner.judge) ts b userInput := by
  refine ⟨?_, fun hnone => ?_, fun other hequations hprompts => resolve_congr hequations hprompts⟩
  · rintro before t after rfl hholds hbefore
    exact resolve_of_first (hts t (by simp)) hholds hbefore
  · -- a judge filters answers by handle and by emptiness; with handles given, by handle alone
    rw [resolve_of_undecided hnone]
    cases hprompts : prompts ts with
    | nil => cases examiner <;> rfl
    | cons p ps =>
      cases examiner with
      | none => rfl
      | some examiner =>
        have hhandles : ∀ t ∈ p :: ps, t.handle ≠ "" := by
          intro t ht
          rw [← hprompts] at ht
          exact hts t (List.mem_filter.1 ht).1
        simp only [Option.map_some, Examiner.judge, Dialogue.bind_assoc]
        refine congrArg (Dialogue.bind _) (funext fun answer => ?_)
        rw [← accept_eq_chosen hhandles]
        cases answer <;> rfl

private def angry : Transition where
  criterion := .prompt
  condition := "The caller is angry."
  handle := "manager"

private def vip : Transition where
  criterion := .equation
  condition := "\x7b\x7bvip\x7d\x7d exists"
  handle := "lounge"

private def named : Transition where
  criterion := .equation
  condition := "\x7b\x7bname\x7d\x7d exists"
  handle := "manager"

private def failing : Examiner Unit := fun _ => .done (.error ())

private def picking (handle : String) : Examiner Unit := fun _ => .done (.ok (some handle))

/-- An equation is taken though a prompt transition stands before it, and an examiner who is asked
when no equation holds decides for a prompt transition only. -/
theorem resolve_in_order_lounge :
    (∀ t ∈ [angry, vip, named], t.handle ≠ "") ∧
      resolve (some failing.judge) [angry, vip, named]
        [("vip", .bool true), ("name", .text "Ann")] "" = .done (some "lounge") ∧
      resolve (some (picking "lounge").judge) [angry, vip, named] [] "" = .done none ∧
      resolve (some (picking "manager").judge) [vip, named, angry] [] "" =
        .done (some "manager") := by
  have hts : ∀ t ∈ [angry, vip, named], t.handle ≠ "" := by decide
  have hnone : ∀ t ∈ [angry, vip, named], ¬holds [] "" t := by decide
  refine ⟨hts, ?_, ?_, ?_⟩
  · obtain ⟨hfirst, -, -⟩ := resolve_in_order (some failing) hts
      [("vip", .bool true), ("name", .text "Ann")] ""
    exact hfirst [angry] vip [named] rfl (by decide) (by decide)
  · obtain ⟨-, hasked, -⟩ := resolve_in_order (some (picking "lounge")) hts [] ""
    exact hasked hnone
  · obtain ⟨-, hasked, hmoved⟩ := resolve_in_order (some (picking "manager")) hts [] ""
    exact (hmoved [vip, named, angry] rfl rfl).trans (hasked hnone)

end Resolution

/-- In a turn the language model is the examiner. -/
theorem Turn.judge_eq (t : Turn) (b : Bindings) :
    t.judge b = Examiner.judge (Engine.judge t.settings b t.userInput t.history) := by
  funext ts
  refine congrArg (Dialogue.bind _) (funext fun answer => ?_)
  cases answer <;> rfl

end CallFlow
