import CallFlow.Proofs.Model.Answers
import CallFlow.Proofs.Model.Dialects
import CallFlow.Proofs.Validation.Runnable

namespace CallFlow

open Report

namespace Flow

variable {flow : Flow} {node : String} {ts : List Transition}

/-- Transitions are accepted that have a condition and a handle. -/
theorem errors_checkTransitions_eq_nil : (flow.checkTransitions node ts).errors = [] ↔
    ∀ t ∈ ts, blankText t.condition = false ∧ blankText t.handle = false := by
  have hindex : ∀ index t, (flow.checkTransition node index t).errors = [] ↔
      blankText t.condition = false ∧ blankText t.handle = false := by
    intro index t
    unfold checkTransition
    split
    · rename_i hblank
      exact iff_of_false nofun fun h => by simp [h.1, h.2] at hblank
    · rename_i hfull
      refine iff_of_true ?_ (by simpa using hfull)
      split <;> rfl
  simp only [checkTransitions, errors_join_eq_nil, List.mem_mapIdx]
  constructor
  · intro h t ht
    obtain ⟨index, hlt, rfl⟩ := List.mem_iff_getElem.1 ht
    exact (hindex index _).1 (h _ ⟨index, hlt, rfl⟩)
  · rintro h _ ⟨index, hlt, rfl⟩
    exact (hindex index _).2 (h _ (List.getElem_mem hlt))

end Flow

/-- The tool to choose a transition with is used, as its schema demands, for a handle. -/
structure ObjectUse.Selects (u : ObjectUse) (handle : String) : Prop where
  tool : u.tool = "select_transition"
  handle : u.members.get? "matched_handle" = some (.text handle)
  reasoning : ∀ v, u.members.get? "reasoning" = some v → ∃ reason, v = .text reason

namespace Engine

variable {handles : List String} {handle text : String} {u : ObjectUse}

open Schema in
/-- A judgement that selects a handle is read. -/
theorem reader_of_selects (h : u.Selects handle) :
    ∃ reason, Judgement.reader (.object u.members) = .read ⟨handle, reason⟩ := by
  have hhandle : (Field.word "matched_handle").optional "none" .text u.members =
      .read handle := by
    simp only [Field.optional, Field.find?, Field.word, h.handle]
    rfl
  have hreasoning : ∃ reason, (Field.word "reasoning").optional "" .text u.members =
      .read reason := by
    simp only [Field.optional, Field.find?, Field.word]
    cases hfound : u.members.get? "reasoning" with
    | none => exact ⟨"", rfl⟩
    | some v =>
      obtain ⟨reason, rfl⟩ := h.reasoning v hfound
      exact ⟨reason, rfl⟩
  obtain ⟨reason, hreason⟩ := hreasoning
  refine ⟨reason, ?_⟩
  simp only [Judgement.reader, Reader.record, hhandle, hreason]
  rfl

/-- The arguments of a tool are taken before the text. -/
theorem pick_of_arguments (v : Value) : pick handles ⟨some v, text⟩ = .ok (chosen handles v) := rfl

/-- What choosing a handle amounts to. -/
theorem pick_of_selects (h : u.Selects handle) :
    pick handles ⟨some (.object u.members), text⟩ =
      .ok ((some (trimText handle)).filter fun chosen =>
        chosen ≠ "" && lowerAscii chosen ≠ Prompt.noMatch && handles.contains chosen) := by
  obtain ⟨reason, hread⟩ := reader_of_selects h
  have htruthy : (Value.object u.members).isTruthy = true := by
    cases hmembers : u.members with
    | nil =>
      have hhandle := h.handle
      rw [hmembers] at hhandle
      cases hhandle
    | cons entry rest => rfl
  have hpick : chosen handles (.object u.members) =
      if trimText handle = "" || lowerAscii (trimText handle) = Prompt.noMatch then none
      else if handles.contains (trimText handle) then some (trimText handle) else none := by
    unfold chosen
    simp only [htruthy, if_true, hread]
  rw [pick_of_arguments, hpick, Option.filter]
  by_cases hempty : trimText handle = "" <;>
    by_cases hreserved : lowerAscii (trimText handle) = Prompt.noMatch <;>
    simp [hempty, hreserved]

/-- What comes of asking a model for a reply, if that can be done, the reply to it is next in store
and there is a client to ask. -/
theorem run_generate {s : Settings} {content : Option Content} {userInput : String} {b : Bindings}
    {history : History} {ts : List Transition} {tuning : Tuning} {globalPrompt : String}
    {script : Script} {reply : ModelReply} {gone : Bool} {rest : List (Cue ModelReply)}
    (hhistory : history.WellFormed) (hwritable : b.IsWritable)
    (hclient : script.client.serves (clientSpec s.model) = true)
    (htime : s.model.timeout.isOver = false) (hreply : script.model = ⟨reply, gone⟩ :: rest) :
    ((generate s content userInput b history ts tuning globalPrompt).run script).1 =
      .ok (said s (ts.map Transition.handle)
        (ModelAnswer.ofReply? "process_conversation" reply)) := by
  obtain ⟨hhidden, -⟩ | ⟨-, r, htool, heq⟩ :=
    generate_eq hhistory s content userInput b ts tuning globalPrompt
  · exact absurd hwritable hhidden
  · have hasked := run_ask s.model r hreply
    rw [hclient, htime, htool, Bool.not_false, Bool.and_true, if_pos rfl] at hasked
    rw [heq, Dialogue.run_bind, hasked]
    rfl

/-- What comes of putting transitions before a model, if that can be done, the reply to it is next
in store and there is a client to ask. -/
theorem run_judge {s : Settings} {b : Bindings} {userInput : String} {history : History}
    {ts : List Transition} {script : Script} {reply : ModelReply} {gone : Bool}
    {rest : List (Cue ModelReply)} (hne : ts ≠ []) (hshown : IsPresentable s b history)
    (hclient : script.client.serves (clientSpec s.model) = true)
    (htime : s.model.timeout.isOver = false) (hreply : script.model = ⟨reply, gone⟩ :: rest) :
    ((judge s b userInput history ts).run script).1 =
      judged (ts.map Transition.handle) (ModelAnswer.ofReply? "select_transition" reply) := by
  obtain ⟨system, hsystem⟩ := (Prompt.condition_eq_ok_iff ts b userInput history
    s.model.historyWindow).2 hshown
  have hempty : ts.isEmpty = false := by simpa using hne
  have hasked := run_ask s.model
    (judgeRequest s.model system userInput (ts.map Transition.handle)) hreply
  have htool : (judgeRequest s.model system userInput (ts.map Transition.handle)).tool.name =
    "select_transition" := rfl
  rw [hclient, htime, htool, Bool.not_false, Bool.and_true, if_pos rfl] at hasked
  unfold judge
  simp only [hempty, Bool.false_eq_true, if_false, hsystem, Dialogue.bind_eq, Dialogue.run_bind,
    hasked]
  cases ModelAnswer.ofReply? "select_transition" reply <;> rfl

/-- No answer picks the word for no transition. -/
theorem chosen_ne_noMatch {v : Value} (h : chosen handles v = some handle) :
    lowerAscii handle ≠ Prompt.noMatch := by
  unfold chosen at h
  simp only at h
  split at h
  · cases h
  · split at h
    · cases h
    · rename_i hfree
      split at h
      · cases h
        intro hreserved
        simp [hreserved] at hfree
      · cases h

/-- The word for no match is never the handle that is chosen. -/
theorem judged_ne_noMatch {answer : Option ModelAnswer}
    (h : judged handles answer = .ok (some handle)) : lowerAscii handle ≠ Prompt.noMatch := by
  obtain ⟨v, hv⟩ := exists_chosen_of_judged h
  exact chosen_ne_noMatch hv

/-- Of transitions that validation accepts, each can be chosen: if a model uses the tool for its
handle, as the handle was offered, it is the one that is taken. The model is asked as soon as what
it is shown can be written. The handle must not have blanks at its ends. The word for no transition
is not for a handle to be, in whatever case it is written, and no reply has a transition taken by
it. -/
theorem judge_chooses {flow : Flow} {node : String} {ts : List Transition} {t : Transition}
    {s : Settings} {b : Bindings} {userInput : String} {history : History} {script : Script}
    {reply : ModelReply} {gone : Bool} {rest : List (Cue ModelReply)} {uses : List ObjectUse}
    (haccepted : (flow.checkTransitions node ts).errors = []) (hmem : t ∈ ts)
    (htight : trimText t.handle = t.handle) (hfree : lowerAscii t.handle ≠ Prompt.noMatch)
    (hhistory : history.WellFormed)
    (hclient : script.client.serves (clientSpec s.model) = true)
    (htime : s.model.timeout.isOver = false) (hreply : script.model = ⟨reply, gone⟩ :: rest)
    (htells : reply.Tells text uses (.ofProvider s.model.provider))
    (hfirst : uses.find? (fun u => u.tool = "select_transition") = some u)
    (hselects : u.Selects t.handle) :
    (IsPresentable s b history →
      ((judge s b userInput history ts).run script).1 = .ok (some t.handle)) ∧
    (¬IsPresentable s b history →
      judge s b userInput history ts = .done (.error (.prompt .unwritable))) ∧
    (judge s b userInput history ts).Always fun r =>
      ∀ chosen, r = .ok (some chosen) → lowerAscii chosen ≠ Prompt.noMatch := by
  have hne : ts ≠ [] := List.ne_nil_of_mem hmem
  refine ⟨fun hshown => ?_, fun hhidden => ?_, ?_⟩
  · have hfull : blankText t.handle = false :=
      (Flow.errors_checkTransitions_eq_nil.1 haccepted t hmem).2
    have hsome : t.handle ≠ "" := by
      intro hempty
      rw [hempty] at hfull
      cases hfull
    have hoffered : t.handle ∈ ts.map Transition.handle := List.mem_map_of_mem hmem
    have hanswer : ModelAnswer.ofReply? "select_transition" reply =
        some ⟨some (.object u.members), text⟩ := by
      rw [ModelAnswer.ofReply?_of_tells htells, hfirst, Option.map_some]
    rw [run_judge hne hshown hclient htime hreply, hanswer, judged, pick_of_selects hselects,
      htight]
    simp [Except.mapError, Option.filter, hsome, hfree, hoffered]
  · obtain ⟨hnil, -⟩ | ⟨-, -, heq⟩ | ⟨-, hshown, -⟩ := judge_eq hhistory s b userInput ts
    · exact absurd hnil hne
    · exact heq
    · exact absurd hshown hhidden
  · obtain ⟨hnil, -⟩ | ⟨-, -, heq⟩ | ⟨-, -, r, -, heq⟩ := judge_eq hhistory s b userInput ts
    · exact absurd hnil hne
    · rw [heq]
      rintro chosen hchosen
      cases hchosen
    · rw [heq]
      exact Dialogue.always_bind.2 (.of_forall fun answer chosen => judged_ne_noMatch)

/-- Transitions for a caller who was asked about breakfast. -/
private def breakfast (refusal : String) : List Transition :=
  [{ criterion := .prompt, condition := "The caller wants breakfast.", handle := "early" },
   { criterion := .prompt, condition := "The caller wants no breakfast.", handle := refusal }]

private def choosing (handle : String) : ObjectUse :=
  ⟨"select_transition", [("matched_handle", .text handle), ("reasoning", .text "They said so.")]⟩

private def choosingScript (handle : String) : Script :=
  { model := [⟨.blocks [] [(choosing handle).block], false⟩] }

private def claude : Settings := ({} : Settings).withProvider "anthropic"

private theorem isPresentable_nil {s : Settings} : IsPresentable s [] [] :=
  ⟨List.forall_mem_nil _, fun _ he => absurd (Prompt.mem_of_mem_lastItems he) List.not_mem_nil⟩

private theorem selects_choosing (handle : String) : (choosing handle).Selects handle where
  tool := rfl
  handle := rfl
  reasoning := by
    rintro v ⟨⟩
    exact ⟨_, rfl⟩

private theorem choosing_tells (handle : String) :
    (ModelReply.blocks [] [(choosing handle).block]).Tells "" [choosing handle]
      (.ofProvider claude.model.provider) :=
  .blocks rfl

private theorem accepted_breakfast {refusal : String} (h : blankText refusal = false) :
    (({} : Flow).checkTransitions "ask" (breakfast refusal)).errors = [] := by
  have hcondition : blankText "The caller wants breakfast." = false ∧
      blankText "The caller wants no breakfast." = false ∧ blankText "early" = false := by
    decide +kernel
  refine Flow.errors_checkTransitions_eq_nil.2 ?_
  simp [breakfast, hcondition, h]

/-- A handle that the word for no transition is a part of can be chosen. -/
theorem judge_chooses_breakfast :
    trimText "none of these" = "none of these" ∧
      lowerAscii "none of these" ≠ Prompt.noMatch ∧
      (({} : Flow).checkTransitions "ask" (breakfast "none of these")).errors = [] ∧
      ((judge claude [] "Nothing at all." [] (breakfast "none of these")).run
        (choosingScript "none of these")).1 = .ok (some "none of these") := by
  have htight : trimText "none of these" = "none of these" := by decide +kernel
  have hfree : lowerAscii "none of these" ≠ Prompt.noMatch := by decide +kernel
  have haccepted : (({} : Flow).checkTransitions "ask" (breakfast "none of these")).errors = [] :=
    accepted_breakfast (by decide +kernel)
  have hmem : ⟨"", .prompt, "The caller wants no breakfast.", "none of these", none⟩ ∈
    breakfast "none of these" := List.mem_cons_of_mem _ List.mem_cons_self
  have hchosen : ((judge claude [] "Nothing at all." [] (breakfast "none of these")).run
      (choosingScript "none of these")).1 = .ok (some "none of these") :=
    (judge_chooses haccepted hmem htight hfree (List.forall_mem_nil _) rfl (by decide +kernel) rfl
      (choosing_tells "none of these") rfl (selects_choosing "none of these")).1
      isPresentable_nil
  exact ⟨htight, hfree, haccepted, hchosen⟩

private theorem run_judge_breakfast (refusal : String) :
    ((judge claude [] "Nothing at all." [] (breakfast refusal)).run (choosingScript refusal)).1 =
      (pick ["early", refusal] ⟨some (.object (choosing refusal).members), ""⟩).mapError
        .answer := by
  have hne : breakfast refusal ≠ [] := List.cons_ne_nil _ _
  have hreply : (choosingScript refusal).model =
    ⟨.blocks [] [(choosing refusal).block], false⟩ :: [] := rfl
  have hfirst : [choosing refusal].find? (fun u => u.tool = "select_transition") =
    some (choosing refusal) := rfl
  rw [run_judge hne isPresentable_nil rfl (by decide +kernel) hreply,
    ModelAnswer.ofReply?_of_tells (choosing_tells refusal), hfirst, Option.map_some]
  rfl

/-- Validation accepts the word for no transition as a handle, and one with blanks at its ends.
Neither can be chosen. -/
theorem judge_misses_breakfast :
    (({} : Flow).checkTransitions "ask" (breakfast "none")).errors = [] ∧
      (choosing "none").Selects "none" ∧
      ((judge claude [] "Nothing at all." [] (breakfast "none")).run
        (choosingScript "none")).1 = .ok none ∧
    (({} : Flow).checkTransitions "ask" (breakfast " late ")).errors = [] ∧
      (choosing " late ").Selects " late " ∧
      ((judge claude [] "Nothing at all." [] (breakfast " late ")).run
        (choosingScript " late ")).1 = .ok none := by
  have hnone : chosen ["early", "none"] (.object (choosing "none").members) = none := by
    decide +kernel
  have hlate : chosen ["early", " late "] (.object (choosing " late ").members) = none := by
    decide +kernel
  refine ⟨accepted_breakfast (by decide +kernel), selects_choosing "none", ?_,
    accepted_breakfast (by decide +kernel), selects_choosing " late ", ?_⟩
  · rw [run_judge_breakfast, pick_of_arguments, hnone]
    rfl
  · rw [run_judge_breakfast, pick_of_arguments, hlate]
    rfl

end Engine

end CallFlow
