import CallFlow.Proofs.Dialogue.Transcript
import CallFlow.Proofs.Model.Proposals
import CallFlow.Proofs.Model.Recovery

namespace CallFlow

namespace Text

theorem trimFront_eq_nil {cs : List Char} (h : ∀ c ∈ trimFront cs, isBlank c) :
    trimFront cs = [] := by
  by_contra hne
  have hhead := List.head_dropWhile_not isBlank hne
  cases (h _ (List.head_mem hne)).symm.trans hhead

/-- A text whose trimmed form is blank was blank. -/
theorem trim_eq_nil {cs : List Char} (h : ∀ c ∈ trim cs, isBlank c) : trim cs = [] := by
  rw [trim, List.reverse_eq_nil_iff]
  apply trimFront_eq_nil
  intro c hc
  exact h c (List.mem_reverse.2 hc)

end Text

/-- A text without the blanks at its ends is not blank, unless nothing is left of it. -/
theorem blankText_trimText {s : String} (h : trimText s ≠ "") :
    blankText (trimText s) = false := by
  by_contra hblank
  simp only [Bool.not_eq_false, blankText, trimText, String.toList_ofList, List.all_eq_true]
    at hblank
  exact h (by rw [trimText, Text.trim_eq_nil hblank])

/-- Every entry is a message. -/
def History.WellFormed (history : History) : Prop := ∀ e ∈ history, e ≠ .malformed

namespace Prompt

variable {history : History}

/-- A history in good form can be put before a model. -/
theorem exists_messages (h : history.WellFormed) (userInput : String) :
    ∃ ms, messages history userInput = .ok ms := by
  have hentry : ∀ e ∈ history, ∃ m, entryMessage e = .ok m := by
    intro e he
    match e, h e he with
    | .message role none, _ => exact ⟨_, rfl⟩
    | .message role (some content), _ => exact ⟨_, rfl⟩
  obtain ⟨recorded, hrecorded⟩ := Fallible.exists_mapM_iff.2 hentry
  refine ⟨withOpening (withUtterance (recorded.filterMap id) userInput), ?_⟩
  rw [messages, hrecorded]
  rfl

/-- Nothing but a value that can not be written keeps the instructions for judging transitions from
being put together, as long as every entry is a message. -/
theorem eq_unwritable_of_condition (h : history.WellFormed) {ts : List Transition} {b : Bindings}
    {userInput : String} {windowSize : Int} {e : Error}
    (he : condition ts b userInput history windowSize = .error e) : e = .unwritable := by
  have hline : ∀ entry ∈ lastItems history windowSize, ∀ e, historyLine entry = .error e →
      e = .unwritable := by
    intro entry hentry e he
    cases entry with
    | malformed => exact absurd rfl (h _ (mem_of_mem_lastItems hentry))
    | message role content => exact eq_unwritable_of_historyLine he
  by_cases hb : b.IsWritable
  · obtain ⟨f, hf⟩ := condition_of_isWritable hb ts userInput history windowSize
    rw [hf, historyContext] at he
    cases hlines : (lastItems history windowSize).mapM historyLine with
    | error e' =>
      rw [hlines] at he
      cases he
      exact Fallible.eq_of_mapM_eq_error hline hlines
    | ok ls =>
      rw [hlines] at he
      cases he
  · rw [condition_of_not_isWritable hb] at he
    exact (Except.error.inj he).symm

end Prompt

/-- The structured output of an answer: its arguments, if they are as a turn needs them. -/
def ModelAnswer.output? (a : ModelAnswer) : Option TurnAnswer :=
  match a.arguments.map TurnAnswer.reader with
  | some (.read t) => some t
  | _ => none

namespace Engine

/-- The structured output that came of some exchanges, which is what a turn's tool was used for. -/
def output? (es : List Exchange) : Option TurnAnswer :=
  (modelReplies es).findSome? fun reply =>
    (ModelAnswer.ofReply? "process_conversation" reply).bind ModelAnswer.output?

section Ask

variable {s : ModelSettings} {r : ModelRequest} {es : List Exchange} {answer : Option ModelAnswer}

/-- What comes back from a question is what the reply to its one request amounts to. -/
theorem replies_of_ask (h : (ask s r).Transcript es answer) :
    (modelReplies es = [] ∧ answer = none) ∨
      ∃ reply, modelReplies es = [reply] ∧ answer = ModelAnswer.ofReply? r.tool.name reply := by
  cases h with
  | ask made h =>
    cases made with
    | false =>
      cases h
      exact Or.inl ⟨rfl, rfl⟩
    | true =>
      simp only [Dialogue.done_bind, if_true] at h
      split at h
      · cases h
        exact Or.inl ⟨rfl, rfl⟩
      · cases h with
        | ask reply h =>
          cases h
          exact Or.inr ⟨reply, rfl, rfl⟩

/-- Asking is answered by one reply at most. -/
theorem length_modelReplies_of_ask (h : (ask s r).Transcript es answer) :
    (modelReplies es).length ≤ 1 := by
  obtain ⟨hnone, -⟩ | ⟨reply, hreply, -⟩ := replies_of_ask h
  · simp [hnone]
  · simp [hreply]

/-- The output of a request is that of the answer. -/
theorem output?_of_ask (h : (ask s r).Transcript es answer)
    (htool : r.tool.name = "process_conversation") :
    output? es = answer.bind ModelAnswer.output? := by
  obtain ⟨hnone, rfl⟩ | ⟨reply, hreply, rfl⟩ := replies_of_ask h
  · simp [output?, hnone]
  · simp [output?, hreply, htool]

end Ask

variable {handles : List String} {a : ModelAnswer} {t : TurnAnswer}

theorem utterance_eq (handles : List String) (a : ModelAnswer) : utterance handles a =
    match a.output? with
    | some t =>
      { response := spoken t.response
        matchedTransition := t.matchedTransition.filter fun h => h ≠ "" && handles.contains h
        extractedVariables := t.extractedVariables }
    | none => { response := spoken a.text } := by
  unfold utterance ModelAnswer.output?
  cases a.arguments.map TurnAnswer.reader with
  | none => rfl
  | some checked => cases checked <;> rfl

/-- An utterance is read off the output, its handle only if it is one of those offered. -/
theorem utterance_of_output (h : a.output? = some t) : utterance handles a =
    { response := spoken t.response
      matchedTransition := t.matchedTransition.filter fun h => h ≠ "" && handles.contains h
      extractedVariables := t.extractedVariables } := by
  rw [utterance_eq, h]

/-- An answer without a structured output is only something to say. -/
theorem utterance_of_no_output (h : a.output? = none) :
    utterance handles a = { response := spoken a.text } := by
  rw [utterance_eq, h]

/-- What is spoken is never blank. -/
theorem blankText_spoken (text : String) : blankText (spoken text) = false := by
  unfold spoken
  by_cases htrimmed : trimText text = ""
  · rw [if_pos htrimmed]
    decide
  · rw [if_neg htrimmed]
    exact blankText_trimText htrimmed

/-- What an answer amounts to. For want of one the caller is asked to say it again. -/
def said (s : Settings) (handles : List String) : Option ModelAnswer → Utterance
  | none => { response := s.engine.fallbackMessage }
  | some a => utterance handles a

section Said

variable {s : Settings} {answer : Option ModelAnswer}

/-- Something is said, if the fallback message is something. -/
theorem blankText_said (h : blankText s.engine.fallbackMessage = false) :
    blankText (said s handles answer).response = false := by
  cases answer with
  | none => exact h
  | some a =>
    cases houtput : a.output? with
    | none => simp [said, utterance_of_no_output houtput, blankText_spoken]
    | some t => simp [said, utterance_of_output houtput, blankText_spoken]

/-- A handle that is followed is one of those offered. -/
theorem mem_of_said {handle : String}
    (h : (said s handles answer).matchedTransition = some handle) :
    handle ≠ "" ∧ handle ∈ handles := by
  cases answer with
  | none => cases h
  | some a => exact mem_of_utterance h

/-- Without an output no handle is followed and nothing is extracted. -/
theorem said_of_no_output (h : answer.bind ModelAnswer.output? = none) :
    (said s handles answer).matchedTransition = none ∧
      (said s handles answer).extractedVariables = [] := by
  cases answer with
  | none => exact ⟨rfl, rfl⟩
  | some a => simp [said, utterance_of_no_output (a := a) h]

/-- What is extracted stands in the output, and so does the handle. -/
theorem said_of_output (h : answer.bind ModelAnswer.output? = some t) :
    (said s handles answer).extractedVariables = t.extractedVariables ∧
      (said s handles answer).matchedTransition =
        t.matchedTransition.filter fun h => h ≠ "" && handles.contains h := by
  cases answer with
  | none => cases h
  | some a => simp [said, utterance_of_output (a := a) h]

end Said

variable {history : History} {es : List Exchange}

/-- The question for a reply is one question to the model, and what its answer amounts to. It can
not be put if some variable can not be written. -/
theorem generate_eq (hhistory : history.WellFormed) (s : Settings) (content : Option Content)
    (userInput : String) (b : Bindings) (ts : List Transition) (tuning : Tuning)
    (globalPrompt : String) :
    (¬b.IsWritable ∧ generate s content userInput b history ts tuning globalPrompt =
        .done (.error .unwritable)) ∨
      b.IsWritable ∧ ∃ r : ModelRequest, r.tool.name = "process_conversation" ∧
        generate s content userInput b history ts tuning globalPrompt =
          (ask s.model r).bind fun answer =>
            .done (.ok (said s (ts.map Transition.handle) answer)) := by
  unfold generate
  by_cases hb : b.IsWritable
  · obtain ⟨system, hsystem⟩ := Prompt.exists_turn hb content ts globalPrompt
    obtain ⟨messages, hmessages⟩ := Prompt.exists_messages hhistory userInput
    refine Or.inr ⟨hb, request s.model tuning system messages
      (Prompt.turnTool (ts.map Transition.handle)), rfl, ?_⟩
    rw [hsystem, hmessages]
    refine congrArg (Dialogue.bind _) (funext fun answer => ?_)
    cases answer <;> rfl
  · rw [Prompt.turn_of_not_isWritable hb]
    exact Or.inl ⟨hb, rfl⟩

/-- Whether the instructions for judging transitions can be put together: all variables can be
written, and so can what is shown of the history. -/
def IsPresentable (s : Settings) (b : Bindings) (history : History) : Prop :=
  b.IsWritable ∧ ∀ e ∈ lastItems history s.model.historyWindow, e.IsShown

/-- What an answer amounts to as a judgement. For want of one, no transition is taken. -/
def judged (handles : List String) : Option ModelAnswer → Except Error (Option String)
  | none => .ok none
  | some a => (pick handles a).mapError .answer

/-- The question for a transition is one question to the model, if there are any transitions and
the instructions can be put together. -/
theorem judge_eq (hhistory : history.WellFormed) (s : Settings) (b : Bindings) (userInput : String)
    (ts : List Transition) :
    (ts = [] ∧ judge s b userInput history ts = .done (.ok none)) ∨
      (ts ≠ [] ∧ ¬IsPresentable s b history ∧
        judge s b userInput history ts = .done (.error (.prompt .unwritable))) ∨
      ts ≠ [] ∧ IsPresentable s b history ∧ ∃ r : ModelRequest,
        r.tool.name = "select_transition" ∧ judge s b userInput history ts =
          (ask s.model r).bind fun answer => .done (judged (ts.map Transition.handle) answer) := by
  cases ts with
  | nil => exact Or.inl ⟨rfl, rfl⟩
  | cons t rest =>
    right
    have hcomposed := Prompt.condition_eq_ok_iff (t :: rest) b userInput history
      s.model.historyWindow
    unfold judge
    cases hcondition : Prompt.condition (t :: rest) b userInput history s.model.historyWindow with
    | error e =>
      obtain rfl := Prompt.eq_unwritable_of_condition hhistory hcondition
      refine Or.inl ⟨List.cons_ne_nil _ _, fun hpresentable => ?_, rfl⟩
      obtain ⟨system, hsystem⟩ := hcomposed.2 hpresentable
      cases hcondition.symm.trans hsystem
    | ok system =>
      refine Or.inr ⟨List.cons_ne_nil _ _, hcomposed.1 ⟨system, hcondition⟩,
        judgeRequest s.model system userInput ((t :: rest).map Transition.handle), rfl, ?_⟩
      refine congrArg (Dialogue.bind _) (funext fun answer => ?_)
      cases answer <;> rfl

/-- A handle that is chosen is one of those offered. -/
theorem mem_of_chosen {v : Value} {handle : String} (h : chosen handles v = some handle) :
    handle ∈ handles := by
  unfold chosen at h
  dsimp only at h
  split at h
  · cases h
  · split at h
    · cases h
    · split at h
      · rename_i hmem
        cases h
        simpa using hmem
      · cases h

/-- Whatever an answer picks is what some value amounts to. -/
theorem exists_chosen_of_pick {picked : Option String} (h : pick handles a = .ok picked) :
    ∃ v, chosen handles v = picked := by
  unfold pick at h
  split at h
  · exact ⟨_, Except.ok.inj h⟩
  · cases hfound : ModelAnswer.objectIn? a.text with
    | error e =>
      rw [hfound] at h
      cases h
    | ok found =>
      rw [hfound] at h
      exact ⟨_, Except.ok.inj h⟩

/-- Whatever a judgement takes is what some value amounts to. -/
theorem exists_chosen_of_judged {answer : Option ModelAnswer} {handle : String}
    (h : judged handles answer = .ok (some handle)) : ∃ v, chosen handles v = some handle := by
  cases answer with
  | none => cases h
  | some a =>
    cases hpick : pick handles a with
    | error e =>
      rw [judged, hpick] at h
      cases h
    | ok picked =>
      rw [judged, hpick] at h
      obtain ⟨v, hv⟩ := exists_chosen_of_pick hpick
      exact ⟨v, hv.trans (Except.ok.inj h)⟩

/-- A handle that is judged to fit is one of those offered. -/
theorem mem_of_judged {answer : Option ModelAnswer} {handle : String}
    (h : judged handles answer = .ok (some handle)) : handle ∈ handles := by
  obtain ⟨v, hv⟩ := exists_chosen_of_judged h
  exact mem_of_chosen hv

/-- A judgement goes wrong only over a text that is searched for an object. -/
theorem exists_judged_eq_error_iff {answer : Option ModelAnswer} :
    (∃ e, judged handles answer = .error e) ↔
      ∃ text e, answer = some ⟨none, text⟩ ∧ ModelAnswer.objectIn? text = .error e := by
  cases answer with
  | none => exact iff_of_false nofun nofun
  | some a =>
    obtain ⟨arguments, text⟩ := a
    cases arguments with
    | some v => exact iff_of_false nofun nofun
    | none =>
      cases hfound : ModelAnswer.objectIn? text with
      | ok found =>
        refine iff_of_false ?_ ?_
        · rintro ⟨e, he⟩
          simp only [judged, pick, hfound] at he
          cases he
        · rintro ⟨text', e, htext, he⟩
          cases htext
          cases hfound.symm.trans he
      | error e =>
        refine iff_of_true ⟨.answer e, ?_⟩ ⟨text, e, rfl, hfound⟩
        simp only [judged, pick, hfound]
        rfl

/-- A reply without a use of the tool, whose text is nested too deep to be searched for what the use
would have said. -/
def IsBuried (reply : ModelReply) : Prop :=
  ∃ text e, ModelAnswer.ofReply? "select_transition" reply = some ⟨none, text⟩ ∧
    ModelAnswer.objectIn? text = .error e

/-- What a caller may be told after some exchanges about the transitions that are offered. -/
structure IsAnswer (ts : List Transition) (es : List Exchange) (u : Utterance) : Prop where
  response : blankText u.response = false
  offered : ∀ handle, u.matchedTransition = some handle →
    handle ≠ "" ∧ ∃ t ∈ ts, t.handle = handle
  bare : output? es = none → u.matchedTransition = none ∧ u.extractedVariables = []
  full : ∀ o, output? es = some o → u.extractedVariables = o.extractedVariables ∧
    u.matchedTransition = o.matchedTransition.filter fun handle =>
      handle ≠ "" && (ts.map Transition.handle).contains handle

section Answers

variable {s : Settings} {b : Bindings} {userInput : String} {ts : List Transition}

theorem generate_answers (hfallback : blankText s.engine.fallbackMessage = false)
    (hhistory : history.WellFormed) {content : Option Content} {tuning : Tuning}
    {globalPrompt : String} {r : Except Prompt.Error Utterance}
    (h : (generate s content userInput b history ts tuning globalPrompt).Transcript es r) :
    (modelReplies es).length ≤ 1 ∧ ((∃ e, r = .error e) ↔ ¬b.IsWritable) ∧
      ∀ u, r = .ok u → IsAnswer ts es u := by
  obtain ⟨hb, heq⟩ | ⟨hb, request, htool, heq⟩ :=
    generate_eq hhistory s content userInput b ts tuning globalPrompt
  · rw [heq] at h
    cases h
    exact ⟨Nat.zero_le 1, iff_of_true ⟨_, rfl⟩ hb, nofun⟩
  · rw [heq] at h
    obtain ⟨es, answer, after, rfl, hask, hrest⟩ := h.exists_of_bind
    cases hrest
    have houtput := output?_of_ask hask htool
    rw [List.append_nil]
    refine ⟨length_modelReplies_of_ask hask, iff_of_false nofun (not_not_intro hb), ?_⟩
    rintro _ ⟨⟩
    refine ⟨blankText_said hfallback, fun handle hmatched => ?_, fun hnone => ?_,
      fun o hsome => ?_⟩
    · obtain ⟨hne, hmem⟩ := mem_of_said hmatched
      exact ⟨hne, List.mem_map.1 hmem⟩
    · exact said_of_no_output (houtput ▸ hnone)
    · exact said_of_output (houtput ▸ hsome)

theorem judge_answers (hhistory : history.WellFormed) {r : Except Error (Option String)}
    (h : (judge s b userInput history ts).Transcript es r) :
    (modelReplies es).length ≤ 1 ∧
      ((∃ e, r = .error e) ↔ ts ≠ [] ∧
        (¬IsPresentable s b history ∨ ∃ reply ∈ modelReplies es, IsBuried reply)) ∧
      ∀ handle, r = .ok (some handle) → ∃ t ∈ ts, t.handle = handle := by
  obtain ⟨rfl, heq⟩ | ⟨hne, hhidden, heq⟩ | ⟨hne, hshown, request, htool, heq⟩ :=
    judge_eq hhistory s b userInput ts
  · rw [heq] at h
    cases h
    exact ⟨Nat.zero_le 1, iff_of_false nofun fun hboth => hboth.1 rfl, nofun⟩
  · rw [heq] at h
    cases h
    exact ⟨Nat.zero_le 1, iff_of_true ⟨_, rfl⟩ ⟨hne, Or.inl hhidden⟩, nofun⟩
  · rw [heq] at h
    obtain ⟨es, answer, after, rfl, hask, hrest⟩ := h.exists_of_bind
    cases hrest
    rw [List.append_nil]
    refine ⟨length_modelReplies_of_ask hask, ?_, fun handle hjudged =>
      List.mem_map.1 (mem_of_judged hjudged)⟩
    rw [exists_judged_eq_error_iff, and_iff_right hne, or_iff_right (not_not_intro hshown)]
    obtain ⟨hnone, rfl⟩ | ⟨reply, hreply, rfl⟩ := replies_of_ask hask
    · exact iff_of_false nofun (by simp [hnone])
    · simp only [hreply, List.mem_singleton, exists_eq_left, IsBuried, htool]

end Answers

/-- Whatever a language model replies, if it replies at all, the question for a reply has an answer
as soon as it can be put, which it can exactly if all variables can be written. The question for a
transition has one unless what it has to show can not be written, or the reply leaves out the tool
and has a text that is nested too deep to be searched. Either takes one request at most. What is
said is never blank, a transition is only ever one that was offered, and without a structured output
there is neither a transition nor a variable. -/
theorem answers_to_any_reply {s : Settings} (hfallback : blankText s.engine.fallbackMessage = false)
    (hhistory : history.WellFormed) (content : Option Content) (userInput : String) (b : Bindings)
    (ts : List Transition) (tuning : Tuning) (globalPrompt : String) :
    (∀ es r, (generate s content userInput b history ts tuning globalPrompt).Transcript es r →
      (modelReplies es).length ≤ 1 ∧ ((∃ e, r = .error e) ↔ ¬b.IsWritable) ∧
        ∀ u, r = .ok u → IsAnswer ts es u) ∧
    (∀ es r, (judge s b userInput history ts).Transcript es r →
      (modelReplies es).length ≤ 1 ∧
        ((∃ e, r = .error e) ↔ ts ≠ [] ∧
          (¬IsPresentable s b history ∨ ∃ reply ∈ modelReplies es, IsBuried reply)) ∧
        ∀ handle, r = .ok (some handle) → ∃ t ∈ ts, t.handle = handle) ∧
    ∀ script,
      ((∃ u, ((generate s content userInput b history ts tuning globalPrompt).run script).1 =
          .ok u) ↔ b.IsWritable) ∧
      ((∃ picked, ((judge s b userInput history ts).run script).1 = .ok picked) ∨
        ts ≠ [] ∧ (¬IsPresentable s b history ∨ ∃ es,
          (judge s b userInput history ts).Transcript es
            ((judge s b userInput history ts).run script).1 ∧
          ∃ reply ∈ modelReplies es, IsBuried reply)) := by
  refine ⟨fun _ _ h => generate_answers hfallback hhistory h,
    fun _ _ h => judge_answers hhistory h, fun script => ⟨?_, ?_⟩⟩
  · obtain ⟨es, hgenerate⟩ := Dialogue.exists_transcript_run
      (generate s content userInput b history ts tuning globalPrompt) script
    obtain ⟨-, hfails, -⟩ := generate_answers hfallback hhistory hgenerate
    rw [← not_iff_not, Fallible.not_exists_ok_iff]
    exact hfails
  · obtain ⟨es, hjudge⟩ := Dialogue.exists_transcript_run (judge s b userInput history ts) script
    obtain ⟨-, hfails, -⟩ := judge_answers hhistory hjudge
    refine or_iff_not_imp_left.2 fun hnone => ?_
    obtain ⟨hne, hhidden | hburied⟩ := hfails.1 (Fallible.not_exists_ok_iff.1 hnone)
    · exact ⟨hne, Or.inl hhidden⟩
    · exact ⟨hne, Or.inr ⟨es, hjudge, hburied⟩⟩

private def patient : Settings := { model := { timeout := .whole 15 } }

private def greeted : History := [.message (some (.text "agent")) none]

private def agrees : Transition where
  criterion := .prompt
  condition := "The caller agrees."
  handle := "yes"

/-- A model that says nothing and uses its tool with half an object. -/
private def mumbles : ModelReply := .chat (some " ") [some ⟨"process_conversation", some "\x7b"⟩]

theorem answers_to_any_reply_mumbled :
    blankText patient.engine.fallbackMessage = false ∧ greeted.WellFormed ∧
      ∃ es, (generate patient none "Yes" [] greeted [agrees] {} "").Transcript es
          (.ok { response := emptyReply }) ∧
        modelReplies es = [mumbles] ∧ output? es = none ∧ blankText emptyReply = false := by
  have hfallback : blankText patient.engine.fallbackMessage = false := by decide
  have hhistory : greeted.WellFormed := by
    intro e he
    cases List.mem_singleton.1 he
    nofun
  obtain ⟨hfails, -⟩ | ⟨-, r, htool, heq⟩ :=
    generate_eq hhistory patient none "Yes" [] [agrees] {} ""
  · exact absurd (List.forall_mem_nil _) hfails
  · have hsaid : said patient ["yes"] (ModelAnswer.ofReply? r.tool.name mumbles) =
        { response := emptyReply } := by
      rw [htool]
      rfl
    have h : (generate patient none "Yes" [] greeted [agrees] {} "").Transcript
        [⟨.client (clientSpec patient.model), true⟩, ⟨.model r, mumbles⟩]
        (.ok { response := emptyReply }) := by
      rw [heq, ← hsaid]
      exact .ask (q := .client _) true (.ask (q := .model _) mumbles (.done _))
    obtain ⟨hgenerate, -⟩ := answers_to_any_reply hfallback hhistory none "Yes" [] [agrees] {} ""
    have hanswer : IsAnswer [agrees] _ _ := (hgenerate _ _ h).2.2 _ rfl
    exact ⟨hfallback, hhistory, _, h, rfl, rfl, hanswer.response⟩

/-- A model that leaves out the tool, and puts a hundred thousand lists into an object instead. -/
private def buries : ModelReply :=
  .chat (some (Json.write (.object [("a", Json.nest 99999)]))) []

/-- No transition is taken then, nor is none taken: the question has no answer at all. -/
theorem judge_fails_over_nested :
    greeted.WellFormed ∧ ∃ es,
      (judge patient [] "Yes" greeted [agrees]).Transcript es (.error (.answer .nestedTooDeep)) ∧
        modelReplies es = [buries] := by
  have hhistory : greeted.WellFormed := by
    intro e he
    cases List.mem_singleton.1 he
    nofun
  obtain ⟨hnil, -⟩ | ⟨-, hhidden, -⟩ | ⟨-, -, r, htool, heq⟩ :=
    judge_eq hhistory patient [] "Yes" [agrees]
  · cases hnil
  · refine absurd ⟨List.forall_mem_nil _, fun e he => ?_⟩ hhidden
    cases List.mem_singleton.1 (Prompt.mem_of_mem_lastItems he)
    exact ⟨rfl, rfl⟩
  · have hjudged : judged ["yes"] (ModelAnswer.ofReply? r.tool.name buries) =
        .error (.answer .nestedTooDeep) := by
      have hfound := (ModelAnswer.objectIn?_write_nest (show Json.maxNesting ≤ 99999 by decide)).2
      have hpick : pick ["yes"] ⟨none, Json.write (.object [("a", Json.nest 99999)])⟩ =
          .error .nestedTooDeep := by
        simp only [pick, hfound]
        rfl
      have hreply : ModelAnswer.ofReply? r.tool.name buries =
        some ⟨none, Json.write (.object [("a", Json.nest 99999)])⟩ := rfl
      rw [hreply, judged, hpick]
      rfl
    refine ⟨hhistory, [⟨.client (clientSpec patient.model), true⟩, ⟨.model r, buries⟩], ?_, rfl⟩
    rw [heq, ← hjudged]
    exact .ask (q := .client _) true (.ask (q := .model _) buries (.done _))

end Engine

end CallFlow
