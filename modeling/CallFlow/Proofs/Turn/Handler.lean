import CallFlow.Proofs.Flow.Reads
import CallFlow.Proofs.Model.Alike
import Mathlib.Data.List.Find
import Mathlib.Data.Option.Basic

namespace CallFlow

namespace Turn

variable {t : Turn} {R : Bindings → Bindings → Prop} (h : t.flow.Overlooks R)
  {b other : Bindings} (hb : R b other)

/-- The same step, with variables that the flow can not tell apart. -/
def OutcomesAlike (R : Bindings → Bindings → Prop) (o o' : Outcome) : Prop :=
  o.1 = o'.1 ∧ R o.2 o'.2

include h hb

/-- Transitions of the flow are resolved alike. -/
theorem resolve_alike {ts : List Transition}
    (hts : ∀ tr ∈ ts, Template.names tr.condition ⊆ t.flow.reads) :
    Dialogue.Alike Eq (t.resolve ts b) (t.resolve ts other) := by
  have hholds : ∀ tr ∈ ts,
      Resolution.holds b t.userInput tr = Resolution.holds other t.userInput tr := by
    intro tr htr
    rw [Resolution.holds, Resolution.holds, h.evaluate_eq hb (hts tr htr)]
  have hequation : Resolution.equation? ts b t.userInput =
      Resolution.equation? ts other t.userInput := by
    rw [Resolution.equation?, Resolution.equation?, List.find?_congr hholds]
  have hdecided : Resolution.decided? ts b t.userInput =
      Resolution.decided? ts other t.userInput := by
    rw [Resolution.decided?, Resolution.decided?, hequation]
  have hreferred : Resolution.referred? ts b t.userInput =
      Resolution.referred? ts other t.userInput := by
    rw [Resolution.referred?, Resolution.referred?, hdecided]
  simp only [resolve, Resolution.resolve, hdecided, hreferred]
  cases Resolution.decided? ts other t.userInput with
  | some handle => exact .done rfl
  | none =>
    cases Resolution.referred? ts other t.userInput with
    | none => exact .done rfl
    | some prompts =>
      refine .bind_eq ?_ fun _ => .done rfl
      exact .bind_eq (Engine.judge_alike (h.writable hb) ..) fun _ => .refl _

/-- A speech of the flow is said alike. -/
theorem onTheWay_eq {speech : Option Content} (next : Option String)
    (hspeech : ∀ text ∈ Content.texts speech, Template.names text ⊆ t.flow.reads) :
    onTheWay speech b next = onTheWay speech other next := by
  cases speech with
  | none => rfl
  | some c => simp only [onTheWay, h.render_eq hb (hspeech c.text (by simp [Content.texts]))]

/-- A start node is run alike. -/
theorem runStart_alike {node : String} {c : StartConfig}
    (hc : (NodeConfig.start c).reads ⊆ t.flow.reads) :
    OutcomesAlike R (t.runStart node c b) (t.runStart node c other) := by
  refine ⟨onTheWay_eq h hb _ fun text htext => NodeConfig.names_text_subset hc ?_, hb⟩
  cases hspeaks : c.speaksFirst with
  | false => simp [hspeaks, Content.texts] at htext
  | true =>
    simp only [hspeaks, if_true] at htext
    exact htext

theorem runFixed_alike {node : String} {c : ConversationConfig}
    (hc : (NodeConfig.conversation c).reads ⊆ t.flow.reads) :
    Dialogue.Alike (OutcomesAlike R) (t.runFixed node c b) (t.runFixed node c other) := by
  have htext : Template.render c.content.text b = Template.render c.content.text other :=
    h.render_eq hb (NodeConfig.names_text_subset hc (List.mem_cons_self ..))
  have hresolve : Dialogue.Alike Eq (t.resolve c.transitions b) (t.resolve c.transitions other) :=
    resolve_alike h hb fun _ htr => NodeConfig.names_condition_subset hc htr
  simp only [runFixed, htext]
  cases Template.render c.content.text other with
  | none => exact .done ⟨rfl, hb⟩
  | some text =>
    simp only [say]
    split
    · exact .done ⟨rfl, hb⟩
    · split
      · exact .done ⟨rfl, hb⟩
      · refine .bind_eq hresolve fun handle => ?_
        split <;> exact .done ⟨rfl, hb⟩

theorem runGenerated_alike {node : String} {c : ConversationConfig}
    (hc : (NodeConfig.conversation c).reads ⊆ t.flow.reads) :
    Dialogue.Alike (OutcomesAlike R) (t.runGenerated node c b) (t.runGenerated node c other) := by
  refine .bind_eq (Engine.generate_alike (h.writable hb) ..) fun reply => ?_
  cases reply with
  | error e => exact .done ⟨rfl, hb⟩
  | ok u =>
    have hextracted := h.update hb u.extractedVariables
    dsimp only
    split
    · exact .done ⟨rfl, hextracted⟩
    · have hresolve := resolve_alike h hextracted fun _ htr =>
        NodeConfig.names_condition_subset hc htr
      exact .bind_eq hresolve fun _ => .done ⟨rfl, hextracted⟩

/-- A conversation node is run alike. -/
theorem runConversation_alike {node : String} {c : ConversationConfig}
    (hc : (NodeConfig.conversation c).reads ⊆ t.flow.reads) :
    Dialogue.Alike (OutcomesAlike R) (t.runConversation node c b)
      (t.runConversation node c other) := by
  unfold runConversation
  split
  · exact runFixed_alike h hb hc
  · exact runGenerated_alike h hb hc

/-- The variables after a function: none on both sides, or some that the flow can not tell
apart. -/
theorem call_alike {c : FunctionConfig} (hc : (NodeConfig.function c).reads ⊆ t.flow.reads) :
    Dialogue.Alike (Option.Rel R) (t.call c b) (t.call c other) := by
  have htext : ∀ text ∈ (NodeConfig.function c).texts,
      Template.render text b = Template.render text other :=
    fun text hmem => h.render_eq hb (NodeConfig.names_text_subset hc hmem)
  cases hkind : c.kind with
  | http =>
    have hheaders : Web.headers c b = Web.headers c other := by
      have hvalues : ∀ entry ∈ c.headers, Web.header b entry = Web.header other entry := by
        intro entry hmem
        rw [Web.header, Web.header,
          htext entry.2 (by simp [NodeConfig.texts, List.mem_map_of_mem hmem])]
      rw [Web.headers, Web.headers, Fallible.mapM_congr hvalues]
    have hcontent : Web.content c b = Web.content c other := by
      unfold Web.content Web.authoredBody
      split
      · rename_i body hbody
        have hauthored : c.body = some body :=
          (ite_eq_iff.1 hbody).elim (fun h => nomatch h.2) (·.2)
        rw [htext body (by simp [NodeConfig.texts, hauthored])]
      · rfl
    have hurl : Template.render c.url b = Template.render c.url other :=
      htext c.url (List.mem_cons_self ..)
    have hrequest : ∀ timeout, Web.request c b timeout = Web.request c other timeout := by
      intro timeout
      simp only [Web.request, hheaders, hcontent, hurl]
    have hexecute : Web.execute t.settings.functions c b (timeout c) =
        Web.execute t.settings.functions c other (timeout c) := by
      simp only [Web.execute, hrequest, hurl]
    simp only [call, hkind, callWeb, hexecute]
    refine .bind_eq (.refl _) fun reply => ?_
    cases reply with
    | error e => exact .done .none
    | ok r => exact .done (.some (h.set _ _ (h.set _ _ (h.update hb r.bindings))))
  | code =>
    have hinputs : inputs c b = inputs c other := by
      have hvalues : ∀ name ∈ c.inputVariables, (name, b.getD name) = (name, other.getD name) := by
        intro name hmem
        rw [h.read hb (hc (List.mem_append_right _ hmem))]
      simp only [inputs, List.map_congr_left hvalues]
    simp only [call, hkind, callCode, hinputs, Dialogue.bind_eq, Dialogue.bind_assoc]
    refine .bind_eq (.refl _) fun v => ?_
    by_cases houtput : c.outputVariable = ""
    · simp only [houtput, if_true]
      exact .done (.some hb)
    · simp only [houtput, if_false]
      exact .done (.some (h.set _ _ hb))

/-- A function node is run alike. -/
theorem runFunction_alike {node : String} {c : FunctionConfig}
    (hc : (NodeConfig.function c).reads ⊆ t.flow.reads) :
    Dialogue.Alike (OutcomesAlike R) (t.runFunction node c b) (t.runFunction node c other) := by
  refine (call_alike h hb hc).bind fun after after' hafter => ?_
  cases hafter with
  | none => exact .done ⟨rfl, hb⟩
  | some hafter =>
    have hresolve := resolve_alike h hafter fun _ htr => NodeConfig.names_condition_subset hc htr
    refine .bind_eq hresolve fun handle => .done ⟨onTheWay_eq h hafter _ ?_, hafter⟩
    intro text htext
    exact NodeConfig.names_text_subset hc (by simp [NodeConfig.texts, htext])

/-- An assignment of the flow gives the same value. -/
theorem assignment?_congr {a : Assignment} (hvalue : Template.names a.value ⊆ t.flow.reads)
    (htarget : a.operation ≠ .set → a.target ∈ t.flow.reads) :
    assignment? a b = assignment? a other := by
  rw [assignment?, assignment?, h.render_eq hb hvalue]
  refine congrArg _ (funext fun operand => ?_)
  cases hop : a.operation with
  | set => rfl
  | _ => rw [h.read hb (htarget (by simp [hop]))]

/-- Assignments fail at the same place or not at all, and set the same values. -/
theorem assignAll_alike (as : List Assignment)
    (hvalue : ∀ a ∈ as, Template.names a.value ⊆ t.flow.reads)
    (htarget : ∀ a ∈ as, a.operation ≠ .set → a.target ∈ t.flow.reads) :
    (assignAll as b).1 = (assignAll as other).1 ∧
      R (assignAll as b).2 (assignAll as other).2 := by
  induction as generalizing b other with
  | nil => exact ⟨rfl, hb⟩
  | cons a rest ih =>
    have hrest := fun b other (hb : R b other) =>
      ih hb (fun x hx => hvalue x (List.mem_cons_of_mem a hx))
        fun x hx => htarget x (List.mem_cons_of_mem a hx)
    have hassigned : assignment? a b = assignment? a other :=
      assignment?_congr h hb (hvalue a (by simp)) (htarget a (by simp))
    simp only [assignAll, hassigned]
    split
    · exact hrest _ _ hb
    · split
      · exact hrest _ _ (h.set _ _ hb)
      · exact ⟨rfl, hb⟩

/-- A node that sets variables is run alike. -/
theorem runSetVariable_alike {node : String} {c : SetVariableConfig}
    (hc : (NodeConfig.setVariable c).reads ⊆ t.flow.reads) :
    OutcomesAlike R (t.runSetVariable node c b) (t.runSetVariable node c other) := by
  have hassign := assignAll_alike h hb c.assignments
    (fun a ha => NodeConfig.names_text_subset hc (List.mem_map_of_mem ha))
    (fun a ha hop => hc (List.mem_append_right _
      (List.mem_map_of_mem (List.mem_filter.2 ⟨ha, by simpa using hop⟩))))
  refine ⟨?_, hassign.2⟩
  simp only [runSetVariable, hassign.1]

/-- Running a node of the flow. -/
theorem runNode_alike {n : Node} (hn : n.config.reads ⊆ t.flow.reads) :
    Dialogue.Alike (OutcomesAlike R) (t.runNode n b) (t.runNode n other) := by
  unfold runNode
  cases hconfig : n.config with
  | start c => exact .done (runStart_alike h hb (hconfig ▸ hn))
  | conversation c => exact runConversation_alike h hb (hconfig ▸ hn)
  | function c => exact runFunction_alike h hb (hconfig ▸ hn)
  | setVariable c => exact .done (runSetVariable_alike h hb (hconfig ▸ hn))
  | transfer c =>
    have hdestination := h.render_eq hb
      (NodeConfig.names_text_subset (hconfig ▸ hn) (List.mem_singleton.2 rfl))
    exact .done ⟨by simp only [runTransfer, hdestination], hb⟩
  | finish c =>
    refine .done ⟨?_, hb⟩
    cases hspeech : c.speech with
    | none => simp only [runEnd, farewell, hspeech]
    | some speech =>
      have hnames : Template.names speech.text ⊆ t.flow.reads :=
        NodeConfig.names_text_subset (hconfig ▸ hn)
          (by simp [NodeConfig.texts, Content.texts, hspeech])
      simp only [runEnd, farewell, hspeech, h.render_eq hb hnames]
  | unknown kind raw => exact .done ⟨rfl, hb⟩

end Turn

end CallFlow
