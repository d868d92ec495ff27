import CallFlow.Model.Engine
import CallFlow.Proofs.Dialogue.Alike
import CallFlow.Proofs.Model.Composed

namespace CallFlow

/-- Whether there are instructions for a reply depends on the variables only as far as all of them
can be written. -/
private theorem Prompt.turn_cases (content : Option Content) (ts : List Transition)
    (globalPrompt : String) {b other : Bindings} (h : b.IsWritable ↔ other.IsWritable) :
    (∃ e, turn content b ts globalPrompt = .error e ∧
        turn content other ts globalPrompt = .error e) ∨
      ∃ system system', turn content b ts globalPrompt = .ok system ∧
        turn content other ts globalPrompt = .ok system' := by
  by_cases hb : b.IsWritable
  · obtain ⟨system, hsystem⟩ := exists_turn hb content ts globalPrompt
    obtain ⟨system', hsystem'⟩ := exists_turn (h.1 hb) content ts globalPrompt
    exact Or.inr ⟨system, system', hsystem, hsystem'⟩
  · exact Or.inl ⟨.unwritable, turn_of_not_isWritable hb,
      turn_of_not_isWritable fun hother => hb (h.2 hother)⟩

/-- The same holds of the instructions for judging transitions. -/
private theorem Prompt.condition_cases (ts : List Transition) (userInput : String)
    (history : History) (windowSize : Int) {b other : Bindings}
    (h : b.IsWritable ↔ other.IsWritable) :
    (∃ e, condition ts b userInput history windowSize = .error e ∧
        condition ts other userInput history windowSize = .error e) ∨
      ∃ system system', condition ts b userInput history windowSize = .ok system ∧
        condition ts other userInput history windowSize = .ok system' := by
  by_cases hb : b.IsWritable
  · obtain ⟨f, hf⟩ := condition_of_isWritable hb ts userInput history windowSize
    obtain ⟨f', hf'⟩ := condition_of_isWritable (h.1 hb) ts userInput history windowSize
    rw [hf, hf']
    cases historyContext history windowSize with
    | error e => exact Or.inl ⟨e, rfl, rfl⟩
    | ok conversation => exact Or.inr ⟨_, _, rfl, rfl⟩
  · exact Or.inl ⟨.unwritable, condition_of_not_isWritable hb,
      condition_of_not_isWritable fun hother => hb (h.2 hother)⟩

namespace Engine

/-- Two requests that differ in their instructions alone are asked alike. -/
theorem ask_alike (s : ModelSettings) {r r' : ModelRequest} (hr : r.unprompted = r'.unprompted) :
    Dialogue.Alike Eq (ask s r) (ask s r') := by
  have htool : r.unprompted.tool = r'.unprompted.tool := congrArg ModelRequest.tool hr
  change r.tool = r'.tool at htool
  simp only [ask, htool, Dialogue.bind_eq, Dialogue.pure_eq]
  refine .bind_eq (.refl _) fun made => ?_
  cases made with
  | false => exact .done rfl
  | true =>
    simp only [if_true]
    split
    · exact .done rfl
    · exact .prompt hr fun _ => .done rfl

variable {b other : Bindings} (h : b.IsWritable ↔ other.IsWritable)
include h

/-- Variables reach a request for a reply through its instructions alone, as long as these can be
put together. -/
theorem generate_alike (s : Settings) (content : Option Content) (userInput : String)
    (history : History) (ts : List Transition) (tuning : Tuning) (globalPrompt : String) :
    Dialogue.Alike Eq (generate s content userInput b history ts tuning globalPrompt)
      (generate s content userInput other history ts tuning globalPrompt) := by
  unfold generate
  obtain ⟨e, hb, hother⟩ | ⟨system, system', hb, hother⟩ :=
    Prompt.turn_cases content ts globalPrompt h
  · simp only [hb, hother]
    exact .done rfl
  · rw [hb, hother]
    cases Prompt.messages history userInput with
    | error e => exact .done rfl
    | ok messages =>
      refine .bind_eq (ask_alike s.model ?_) fun _ => .refl _
      rfl

/-- Variables reach a request to judge transitions through its instructions alone, as long as these
can be put together. -/
theorem judge_alike (s : Settings) (userInput : String) (history : History)
    (ts : List Transition) :
    Dialogue.Alike Eq (judge s b userInput history ts) (judge s other userInput history ts) := by
  unfold judge
  split
  · exact .done rfl
  · obtain ⟨e, hb, hother⟩ | ⟨system, system', hb, hother⟩ :=
      Prompt.condition_cases ts userInput history s.model.historyWindow h
    · simp only [hb, hother]
      exact .done rfl
    · simp only [hb, hother]
      refine .bind_eq (ask_alike s.model ?_) fun _ => .refl _
      rfl

end Engine

end CallFlow
