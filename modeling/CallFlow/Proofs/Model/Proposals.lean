import CallFlow.Proofs.Dialogue.Always
import CallFlow.Proofs.Model.Composed
import CallFlow.Model.Engine
import CallFlow.Resolution
import Mathlib.Data.Option.Basic

namespace CallFlow

namespace Engine

/-- An answer amounts to no transition but one that was offered. -/
theorem mem_of_utterance {handles : List String} {a : ModelAnswer} {handle : String}
    (h : (utterance handles a).matchedTransition = some handle) :
    handle ≠ "" ∧ handle ∈ handles := by
  unfold utterance at h
  split at h
  · have hoffered := (Option.filter_eq_some_iff.1 h).2
    simpa using hoffered
  · cases h

/-- Whatever the model replies, its proposal is one of the transitions, or there is none. -/
theorem generate_offered (s : Settings) (content : Option Content) (userInput : String)
    (b : Bindings) (history : History) (ts : List Transition) (tuning : Tuning)
    (globalPrompt : String) :
    (generate s content userInput b history ts tuning globalPrompt).Always fun r =>
      ∀ u, r = .ok u → ∀ handle, u.matchedTransition = some handle →
        handle ≠ "" ∧ handle ∈ ts.map Transition.handle := by
  unfold generate
  split
  · exact fun u => nofun
  · exact fun u => nofun
  · refine Dialogue.always_bind.2 (.of_forall fun answer => ?_)
    cases answer with
    | none =>
      rintro u hu handle hmatched
      cases hu
      cases hmatched
    | some a =>
      rintro u hu handle hmatched
      cases hu
      exact mem_of_utterance hmatched

/-- The arguments with which a model proposes a transition and extracts variables. -/
def proposal (handle : String) (extracted : Bindings) : Bindings :=
  [("response", .text ""), ("matched_transition", .text handle),
    ("extracted_variables", .object extracted)]

/-- A reply with a proposal, in the dialect of blocks. -/
def proposing (tool handle : String) (extracted : Bindings) : ModelReply :=
  .blocks [] [⟨tool, .object (proposal handle extracted)⟩]

/-- A proposal is answered by its arguments. -/
theorem ofReply?_proposing (tool handle : String) (extracted : Bindings) :
    ModelAnswer.ofReply? tool (proposing tool handle extracted) =
      some ⟨some (.object (proposal handle extracted)), ""⟩ := by
  simp [ModelAnswer.ofReply?, ModelAnswer.ofUses?, proposing, proposal, ToolUse.arguments?,
    Value.isTruthy]

/-- A proposal of an offered handle is followed. -/
theorem utterance_proposal {handles : List String} {handle : String} (hmem : handle ∈ handles)
    (hne : handle ≠ "") (extracted : Bindings) (text : String) :
    utterance handles ⟨some (.object (proposal handle extracted)), text⟩ =
      ⟨emptyReply, some handle, extracted⟩ := by
  have hread : TurnAnswer.reader (.object (proposal handle extracted)) =
      .read ⟨"", some handle, extracted⟩ := rfl
  have hspoken : spoken "" = emptyReply := rfl
  simp [utterance, hread, hspoken, hmem, hne, Option.filter]

/-- What is true of every answer is true of what any reply amounts to, if there is time to ask. -/
theorem ask_replied {s : ModelSettings} {r : ModelRequest} {P : Option ModelAnswer → Prop}
    (htime : s.timeout.isOver = false) (h : (ask s r).Always P) (reply : ModelReply) :
    P (ModelAnswer.ofReply? r.tool.name reply) := by
  have hasked := h true
  simp only [Dialogue.done_bind, if_true, htime, Bool.false_eq_true, if_false] at hasked
  exact hasked reply

/-- As soon as the model can be asked, it can propose any transition that is offered, along with
any variables. -/
theorem generate_proposes {s : Settings} {content : Option Content} {userInput : String}
    {b : Bindings} {history : History} {ts : List Transition} {tuning : Tuning}
    {globalPrompt : String} {messages : List Message} {handle : String}
    {P : Except Prompt.Error Utterance → Prop} (hwritable : b.IsWritable)
    (hmessages : Prompt.messages history userInput = .ok messages)
    (htime : s.model.timeout.isOver = false) (hmem : handle ∈ ts.map Transition.handle)
    (hne : handle ≠ "") (extracted : Bindings)
    (h : (generate s content userInput b history ts tuning globalPrompt).Always P) :
    P (.ok ⟨emptyReply, some handle, extracted⟩) := by
  obtain ⟨system, hsystem⟩ := Prompt.exists_turn hwritable content ts globalPrompt
  unfold generate at h
  rw [hsystem, hmessages] at h
  have hreplied := ask_replied htime (Dialogue.always_bind.1 h)
    (proposing (Prompt.turnTool (ts.map Transition.handle)).name handle extracted)
  rw [request, ofReply?_proposing] at hreplied
  simp only [utterance_proposal hmem hne] at hreplied
  exact hreplied

end Engine

namespace Resolution

variable {ts : List Transition} {b : Bindings} {userInput handle : String}

/-- A transition that may decide where a call goes: an equation that holds, or one for the judge. -/
def Eligible (b : Bindings) (userInput : String) (t : Transition) : Prop :=
  holds b userInput t ∨ t.criterion = .prompt

/-- What the equations decide on is the handle of one that holds. -/
theorem exists_holds_of_decided? (h : decided? ts b userInput = some handle) :
    ∃ t ∈ ts, t.handle = handle ∧ holds b userInput t := by
  obtain ⟨t, hfound, rfl⟩ := Option.map_eq_some_iff.1 (Option.filter_eq_some_iff.1 h).1
  exact ⟨t, List.mem_of_find?_eq_some hfound, rfl, List.find?_some hfound⟩

/-- What is accepted is the handle of a transition. -/
theorem exists_mem_of_accept {picked : Option String} (h : accept ts picked = some handle) :
    ∃ t ∈ ts, t.handle = handle := by
  have haccepted := (Option.filter_eq_some_iff.1 h).2
  simp only [Bool.and_eq_true, List.contains_iff_mem, List.mem_map] at haccepted
  exact haccepted.2

/-- Whoever judges and whatever the judge says, the handle is that of an eligible transition. -/
theorem resolve_eligible (judge : Option Judge) (ts : List Transition) (b : Bindings)
    (userInput : String) :
    (resolve judge ts b userInput).Always fun chosen => ∀ handle, chosen = some handle →
      ∃ t ∈ ts, t.handle = handle ∧ Eligible b userInput t := by
  unfold resolve
  split
  · rename_i hdecided
    rintro _ ⟨⟩
    obtain ⟨t, hmem, hhandle, hholds⟩ := exists_holds_of_decided? hdecided
    exact ⟨t, hmem, hhandle, Or.inl hholds⟩
  · rename_i prompts judge hdecided hreferred
    obtain rfl : Resolution.prompts ts = prompts := by
      unfold referred? at hreferred
      split at hreferred
      · cases hreferred
      · exact Option.some.inj hreferred
    refine Dialogue.always_bind.2 (.of_forall fun picked handle haccepted => ?_)
    obtain ⟨t, hprompt, hhandle⟩ := exists_mem_of_accept haccepted
    obtain ⟨hmem, hcriterion⟩ := List.mem_filter.1 hprompt
    exact ⟨t, hmem, hhandle, Or.inr (by simpa using hcriterion)⟩
  · exact fun handle => nofun

end Resolution

end CallFlow
