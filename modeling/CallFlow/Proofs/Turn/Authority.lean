import CallFlow.Proofs.Model.Choices
import CallFlow.Proofs.Turn.Walk

namespace CallFlow

namespace Resolution

variable {ts : List Transition} {b : Bindings} {userInput handle : String}

/-- Only equations bear the handle. -/
def OnlyEquations (ts : List Transition) (handle : String) : Prop :=
  ∀ t ∈ ts, t.handle = handle → t.criterion = .equation

/-- If only equations bear the handle, one of them holds. -/
def Warranted (ts : List Transition) (b : Bindings) (userInput handle : String) : Prop :=
  OnlyEquations ts handle → ∃ t ∈ ts, t.handle = handle ∧ holds b userInput t

/-- Transitions resolve to warranted handles only, whoever judges. -/
theorem resolve_warranted (judge : Option Judge) (ts : List Transition) (b : Bindings)
    (userInput : String) :
    (resolve judge ts b userInput).Always fun chosen =>
      ∀ handle, chosen = some handle → Warranted ts b userInput handle := by
  refine (resolve_eligible judge ts b userInput).mono fun chosen heligible => ?_
  intro handle hchosen honly
  obtain ⟨t, hmem, hhandle, hholds | hprompt⟩ := heligible handle hchosen
  · exact ⟨t, hmem, hhandle, hholds⟩
  · cases hprompt.symm.trans (honly t hmem hhandle)

end Resolution

open Resolution

/-- What a generated conversation comes to: what is said, the variables after it, and the handle by
which the node is left, none when it is not. -/
structure Departure where
  response : String
  bindings : Bindings
  handle : Option String

namespace Turn

variable (t : Turn) (node : String) (c : ConversationConfig) (b : Bindings)

/-- A handle if some node follows by it. -/
def leading? (handle : Option String) : Option String :=
  handle.filter fun h => (t.successor? node h).isSome

/-- Asks the model for what is said at a node. -/
def generation : Dialogue (Except Prompt.Error Utterance) :=
  Engine.generate t.settings (some c.content) t.userInput b t.history c.transitions
    { model := c.model.getD "", temperature := c.temperature.map .real, maxTokens := c.maxTokens }
    t.flow.settings.globalPrompt

/-- How a node is left after what the model said: by the handle that it proposes if that leads
anywhere, or else by the one that the transitions resolve to. -/
def depart (ts : List Transition) (u : Utterance) : Dialogue Departure :=
  let b := b.update u.extractedVariables
  match t.leading? node u.matchedTransition with
  | some handle => return ⟨u.response, b, some handle⟩
  | none => return ⟨u.response, b, t.leading? node (← t.resolve ts b)⟩

/-- The outcome of a departure. A node that is not left is where the call waits. -/
def outcome (d : Departure) : Outcome :=
  (.reply d.response (.gather ((d.handle.bind (t.successor? node)).getD node)), d.bindings)

variable {t node c b}

/-- A handle that leads nowhere is as good as none. -/
theorem leading?_bind_successor? (handle : Option String) :
    (t.leading? node handle).bind (t.successor? node) = handle.bind (t.successor? node) := by
  cases handle with
  | none => rfl
  | some h => cases hsucc : t.successor? node h <;> simp [leading?, Option.filter, hsucc]

/-- A handle leads nowhere exactly if no node follows by it. -/
theorem leading?_eq_none_iff {handle : Option String} :
    t.leading? node handle = none ↔ handle.bind (t.successor? node) = none := by
  cases handle with
  | none => simp [leading?]
  | some h => cases hsucc : t.successor? node h <;> simp [leading?, Option.filter, hsucc]

/-- A generated conversation asks the model, and what the model said decides on the departure. -/
theorem runGenerated_eq : t.runGenerated node c b = (t.generation c b).bind fun
    | .error _ => .done (.failed, b)
    | .ok u => (t.depart node b c.transitions u).bind fun d => .done (t.outcome node d) := by
  refine congrArg (Dialogue.bind (t.generation c b)) (funext fun reply => ?_)
  cases reply with
  | error e => rfl
  | ok u =>
    dsimp only [depart]
    cases hleads : t.leading? node u.matchedTransition with
    | none =>
      rw [leading?_eq_none_iff.1 hleads]
      simp only [Dialogue.bind_eq, Dialogue.pure_eq, Dialogue.bind_assoc, Dialogue.done_bind,
        outcome, leading?_bind_successor?]
    | some handle =>
      obtain ⟨hmatched, hsome⟩ := Option.filter_eq_some_iff.1 hleads
      obtain ⟨next, hnext⟩ := Option.isSome_iff_exists.1 hsome
      simp [hmatched, hnext, outcome]

/-- Whatever the model replies, a handle that only equations bear is left by only if one of them
holds with what the model extracted. -/
def EquationsDecide (t : Turn) (node : String) (c : ConversationConfig) (b : Bindings) : Prop :=
  (t.generation c b).Always fun r => ∀ u, r = .ok u →
    (t.depart node b c.transitions u).Always fun d =>
      ∀ handle, d.handle = some handle → Warranted c.transitions d.bindings t.userInput handle

/-- A departure is always warranted exactly if the model's handle is. -/
theorem depart_warranted_iff {ts : List Transition} {u : Utterance} :
    ((t.depart node b ts u).Always fun d =>
        ∀ handle, d.handle = some handle → Warranted ts d.bindings t.userInput handle) ↔
      ∀ handle, t.leading? node u.matchedTransition = some handle →
        Warranted ts (b.update u.extractedVariables) t.userInput handle := by
  unfold depart
  cases hleads : t.leading? node u.matchedTransition with
  | some handle => exact Iff.rfl
  | none =>
    refine iff_of_true ?_ fun handle => nofun
    refine (resolve_warranted _ ts _ t.userInput).bind fun chosen hwarranted handle hhandle => ?_
    exact hwarranted handle (Option.filter_eq_some_iff.1 hhandle).1

/-- Equations decide on a generated conversation unless the model itself proposes a handle that only
equations bear, with a node that follows by it, while none of them holds. In all other cases the
transitions are resolved after the model has spoken, and equations are then the only way to leave by
such a handle. -/
theorem equationsDecide_iff (t : Turn) (node : String) (c : ConversationConfig) (b : Bindings) :
    (t.runGenerated node c b = (t.generation c b).bind fun
      | .error _ => .done (.failed, b)
      | .ok u => (t.depart node b c.transitions u).bind fun d => .done (t.outcome node d)) ∧
    (t.EquationsDecide node c b ↔ (t.generation c b).Always fun r => ∀ u, r = .ok u →
      ∀ handle, t.leading? node u.matchedTransition = some handle →
        Warranted c.transitions (b.update u.extractedVariables) t.userInput handle) := by
  refine ⟨runGenerated_eq, fun h => ?_, fun h => ?_⟩
  · exact h.mono fun r hr u hu => depart_warranted_iff.1 (hr u hu)
  · exact h.mono fun r hr u hu => depart_warranted_iff.2 (hr u hu)

/-- As soon as the model can be asked, it has the last word: equations decide only where no proposal
could go against them, whatever variables it comes with. -/
theorem warranted_of_equationsDecide (hwritable : b.IsWritable) {messages : List Message}
    (hmessages : Prompt.messages t.history t.userInput = .ok messages)
    (htime : t.settings.model.timeout.isOver = false) (h : t.EquationsDecide node c b)
    {tr : Transition} (hmem : tr ∈ c.transitions) (hne : tr.handle ≠ "")
    (hsucc : (t.successor? node tr.handle).isSome) (extracted : Bindings) :
    Warranted c.transitions (b.update extracted) t.userInput tr.handle := by
  have hoffered : tr.handle ∈ c.transitions.map Transition.handle := List.mem_map_of_mem hmem
  have hproposed := Engine.generate_proposes hwritable hmessages htime hoffered hne extracted h
  have hleads : t.leading? node (some tr.handle) = some tr.handle := by simp [leading?, hsucc]
  exact depart_warranted_iff.1 (hproposed _ rfl) tr.handle hleads

private def nameTransition : Transition where
  criterion := .equation
  condition := "\x7b\x7bname\x7d\x7d exists"
  handle := "named"

private def nameConfig : ConversationConfig where
  content := { text := "Ask for the caller's name." }
  transitions := [nameTransition]

/-- Asks for a name, and goes on once there is one. -/
private def nameFlow : Flow where
  nodes :=
    [{ id := "begin", config := .start { speaksFirst := false } },
     { id := "ask", config := .conversation nameConfig }, { id := "thanks", config := .finish {} }]
  edges :=
    [{ source := "begin", target := "ask" },
     { source := "ask", target := "thanks", sourceHandle := some "named" }]

private def nameTurn : Turn where
  settings := { model := { provider := "anthropic", timeout := .whole 15 } }
  flow := nameFlow
  userInput := "I would rather not say"
  history := []

private def claimed : Script :=
  { model := [⟨Engine.proposing "process_conversation" "named" [], false⟩] }

/-- A model that claims to have heard a name, but extracts none, gets the caller past the question:
the only equation does not hold, and the turn goes on by its handle. -/
theorem nameFlow_overrules_equation :
    (∀ tr ∈ nameConfig.transitions, tr.criterion = .equation ∧ ¬holds [] nameTurn.userInput tr) ∧
      ¬nameTurn.EquationsDecide "ask" nameConfig [] ∧
      ((nameTurn.run "ask" []).run claimed).1.result.move = .gather "thanks" := by
  have hequation : ∀ tr ∈ nameConfig.transitions,
      tr.criterion = .equation ∧ ¬holds [] nameTurn.userInput tr := by decide
  refine ⟨hequation, fun h => ?_, ?_⟩
  · have hwarranted : Warranted nameConfig.transitions [] nameTurn.userInput "named" :=
      warranted_of_equationsDecide (by decide) rfl rfl h (List.mem_singleton_self nameTransition)
        (by decide) rfl []
    obtain ⟨tr, hmem, -, hholds⟩ := hwarranted fun tr hmem _ => (hequation tr hmem).1
    exact (hequation tr hmem).2 hholds
  · have hhistory : nameTurn.history.WellFormed := List.forall_mem_nil _
    have hreply : claimed.model =
      ⟨Engine.proposing "process_conversation" "named" [], false⟩ :: [] := rfl
    have hgenerated : ((nameTurn.generation nameConfig []).run claimed).1 =
        .ok ⟨Engine.emptyReply, some "named", []⟩ :=
      Engine.run_generate hhistory (List.forall_mem_nil _) rfl rfl hreply
    have hrun : nameTurn.runNode { id := "ask", config := .conversation nameConfig } [] =
      nameTurn.runGenerated "ask" nameConfig [] := rfl
    rw [run, walk_node (n := { id := "ask", config := .conversation nameConfig }) _ rfl, hrun,
      runGenerated_eq, Dialogue.bind_assoc, Dialogue.run_bind, hgenerated]
    rfl

end Turn

end CallFlow
