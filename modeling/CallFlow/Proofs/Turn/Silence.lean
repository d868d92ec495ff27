import CallFlow.Proofs.Model.Answers
import CallFlow.Proofs.Template.Occurrence
import CallFlow.Proofs.Turn.Authority
import CallFlow.Proofs.Turn.Exits

namespace CallFlow

/-- Nothing is left of a template exactly if it consists of placeholders that are shown as nothing.
-/
theorem Template.render_eq_empty_iff {text : String} {b : Bindings} :
    render text b = some "" ↔
      ∀ piece ∈ parse text, ∃ name, piece = .placeholder name ∧
        (b.getD name).display = some "" := by
  have hpiece : ∀ piece : Piece, (∀ name ∈ piece.name?,
      Json.isWritable Json.maxNesting (b.getD name) = true) ∧ piece.fill b = [] ↔
      ∃ name, piece = .placeholder name ∧ (b.getD name).display = some "" := by
    intro piece
    cases piece with
    | char c => simp [Piece.fill]
    | placeholder name => simp [Piece.fill, Piece.name?, Value.display_eq_some_iff]
  simp only [← hpiece, render_eq_some_iff, IsShown, names, fill, String.ofList_eq_empty_iff,
    List.flatMap_eq_nil_iff, List.mem_filterMap]
  constructor
  · rintro ⟨hshown, hempty⟩ piece hmem
    exact ⟨fun name hname => hshown name ⟨piece, hmem, hname⟩, hempty piece hmem⟩
  · intro h
    refine ⟨?_, fun piece hmem => (h piece hmem).2⟩
    rintro name ⟨piece, hmem, hname⟩
    exact (h piece hmem).1 name hname

/-- The sentence that a node is authored to say on its own. -/
def NodeConfig.sentence? : NodeConfig → Option String
  | start c => if c.speaksFirst then c.greeting.map Content.text else none
  | conversation c => if c.content.mode = .fixed then some c.content.text else none
  | function c => c.speech.map Content.text
  | _ => none

/-- A node has a sentence to say, but nothing is left of it. -/
def NodeConfig.Falters (c : NodeConfig) (b : Bindings) : Prop :=
  ∃ text, c.sentence? = some text ∧ text ≠ "" ∧ Template.render text b = some ""

namespace Engine

/-- Something is said, if the fallback message is something. -/
theorem said_ne_empty {s : Settings} {handles : List String} {answer : Option ModelAnswer}
    (h : s.engine.fallbackMessage ≠ "") : (said s handles answer).response ≠ "" := by
  cases answer with
  | none => exact h
  | some a =>
    intro hempty
    have hblank : blankText (said s handles (some a)).response = false := by
      cases houtput : a.output? with
      | none => simp [said, utterance_of_no_output houtput, blankText_spoken]
      | some t => simp [said, utterance_of_output houtput, blankText_spoken]
    rw [hempty] at hblank
    cases hblank

/-- A reply of the model is never empty, if the fallback message is something. -/
theorem generate_speaks {s : Settings} (h : s.engine.fallbackMessage ≠ "")
    (content : Option Content) (userInput : String) (b : Bindings) (history : History)
    (ts : List Transition) (tuning : Tuning) (globalPrompt : String) :
    (generate s content userInput b history ts tuning globalPrompt).Always fun r =>
      ∀ u, r = .ok u → u.response ≠ "" := by
  unfold generate
  split
  · exact fun u => nofun
  · exact fun u => nofun
  · refine Dialogue.always_bind.2 (.of_forall fun answer => ?_)
    have hsaid : (said s (ts.map Transition.handle) answer).response ≠ "" := said_ne_empty h
    cases answer <;> rintro u ⟨⟩ <;> exact hsaid

end Engine

namespace Turn

variable {t : Turn} {n : Node} {b : Bindings}

/-- If the node waits for the caller in silence, it falters. -/
def FaltersIfSilent (n : Node) (o : Outcome) : Prop :=
  ∀ next, o.1 = .reply "" (.gather next) → n.config.Falters o.2

theorem silently_ne_gather (chosen : Option String) (response next : String) :
    silently chosen ≠ .reply response (.gather next) := by
  cases chosen <;> simp [silently, Move.finish, Move.gather, Move.result]

/-- Only a speech that is rendered to nothing is silent. -/
theorem onTheWay_eq_silent {speech : Option Content} {chosen : Option String} {next : String}
    (h : onTheWay speech b chosen = .reply "" (.gather next)) :
    ∃ c, speech = some c ∧ c.text ≠ "" ∧ Template.render c.text b = some "" := by
  unfold onTheWay at h
  split at h
  next c =>
    split at h
    next => exact absurd h (silently_ne_gather _ _ _)
    next htext =>
      cases hrender : Template.render c.text b with
      | none =>
        rw [hrender] at h
        cases h
      | some text =>
        rw [hrender] at h
        rw [(Step.reply.inj h).1] at hrender
        exact ⟨c, rfl, htext, hrender⟩
  next => exact absurd h (silently_ne_gather _ _ _)

/-- A text does not make a step wait that would not. -/
theorem withText_ne_gather {text : Option String} {step : String → Step} {response next : String}
    (h : ∀ s, step s ≠ .reply response (.gather next)) :
    withText text step ≠ .reply response (.gather next) := by
  cases text with
  | none => nofun
  | some s => exact h s

/-- A fixed sentence is silent only if it is rendered to nothing. -/
theorem runFixed_faltersIfSilent {c : ConversationConfig} (hc : n.config = .conversation c)
    (hmode : c.content.mode = .fixed) (hcontent : c.content.text ≠ "") (huser : t.userInput = "") :
    (t.runFixed n.id c b).Always (FaltersIfSilent n) := by
  unfold runFixed
  cases hrender : Template.render c.content.text b with
  | none => exact fun next => nofun
  | some text =>
    have hfalters : ∀ move next, Step.reply text move = .reply "" (.gather next) →
        n.config.Falters b := by
      intro move next h
      rw [(Step.reply.inj h).1] at hrender
      exact ⟨c.content.text, by simp [hc, NodeConfig.sentence?, hmode], hcontent, hrender⟩
    dsimp only [say]
    split
    · exact hfalters _
    · exact hfalters _

/-- A generated sentence is never silent. -/
theorem runGenerated_faltersIfSilent (h : t.settings.engine.fallbackMessage ≠ "")
    (c : ConversationConfig) : (t.runGenerated n.id c b).Always (FaltersIfSilent n) := by
  refine (Engine.generate_speaks h ..).bind fun reply hspeaks => ?_
  cases reply with
  | error e => exact fun next => nofun
  | ok u =>
    have hsaid : ∀ move next, Step.reply u.response move ≠ .reply "" (.gather next) :=
      fun move next heq => hspeaks u rfl (Step.reply.inj heq).1
    dsimp only
    split
    · exact fun next heq => absurd heq (hsaid _ next)
    · exact Dialogue.always_bind.2 (.of_forall fun handle next heq => absurd heq (hsaid _ next))

/-- Without a word of the caller a node waits in silence only if it falters, provided that there is
something to say when the language model fails, and that what a conversation is to say is not
left empty. -/
theorem runNode_faltersIfSilent (hfallback : t.settings.engine.fallbackMessage ≠ "")
    (huser : t.userInput = "")
    (hcontent : ∀ c, n.config = .conversation c → c.content.text ≠ "") :
    (t.runNode n b).Always (FaltersIfSilent n) := by
  unfold runNode
  cases hc : n.config with
  | start c =>
    intro next hnext
    obtain ⟨content, hgreeting, hne, hempty⟩ := onTheWay_eq_silent hnext
    refine ⟨content.text, ?_, hne, hempty⟩
    cases hspeaks : c.speaksFirst <;> simp_all [NodeConfig.sentence?]
  | conversation c =>
    dsimp only [runConversation]
    split
    · exact runFixed_faltersIfSilent hc ‹_› (hcontent c hc) huser
    · exact runGenerated_faltersIfSilent hfallback c
  | function c =>
    refine Dialogue.always_bind.2 (.of_forall fun after => ?_)
    cases after with
    | none =>
      intro next hnext
      cases hnext
    | some after =>
      refine Dialogue.always_bind.2 (.of_forall fun handle next hnext => ?_)
      obtain ⟨content, hspeech, hne, hempty⟩ := onTheWay_eq_silent hnext
      exact ⟨content.text, by simp [hc, NodeConfig.sentence?, hspeech], hne, hempty⟩
  | setVariable c =>
    intro next hnext
    simp only [runSetVariable] at hnext
    split at hnext
    · exact absurd hnext (silently_ne_gather _ _ _)
    · cases hnext
  | transfer c =>
    refine fun next hnext => absurd hnext (withText_ne_gather fun _ => ?_)
    simp [Move.transfer, Move.gather, Move.result]
  | finish c =>
    refine fun next hnext => absurd hnext (withText_ne_gather fun _ => ?_)
    simp [Move.finish, Move.gather, Move.result]
  | unknown _ _ => exact fun next hnext => absurd hnext (silently_ne_gather _ _ _)

end Turn

/-- The walk comes to its end without a word, at a node that falters. -/
def Walk.IsMute (flow : Flow) (w : Walk) : Prop :=
  w.result.response = "" ∧
    ∃ id ∈ w.visited.getLast?, ∃ n, flow.node? id = some n ∧ n.config.Falters w.result.bindings

namespace Turn

variable {t : Turn}

/-- A walk that waits in silence falters at a text that is rendered to nothing. -/
theorem walk_isMute (hfallback : t.settings.engine.fallbackMessage ≠ "") (huser : t.userInput = "")
    (hcontent : ∀ n ∈ t.flow.nodes, ∀ c, n.config = .conversation c → c.content.text ≠ "")
    (hops : Nat) (id : String) (b : Bindings) :
    (t.walk hops id b).Always fun w => ∀ next, w.result.move = .gather next →
      w.result.response = "" → w.IsMute t.flow := by
  induction hops using Nat.strongRecOn generalizing id b with
  | ind hops ih =>
    cases hnode : t.flow.node? id with
    | none =>
      rw [walk_missing t hnode]
      exact fun next => nofun
    | some n =>
      obtain ⟨hmem, rfl, -⟩ := Flow.mem_nodes_of_node? hnode
      rw [walk_node t hnode]
      refine (runNode_faltersIfSilent hfallback huser (hcontent n hmem)).bind ?_
      rintro ⟨step, after⟩ hfalters
      cases step with
      | failed => exact fun next _ hempty => absurd hempty hfallback
      | reply response move =>
        rintro next rfl rfl
        exact ⟨rfl, n.id, rfl, n, hnode, hfalters next rfl⟩
      | hop next =>
        cases hops with
        | zero => exact fun next => nofun
        | succ hops =>
          refine (ih hops (Nat.lt_succ_self hops) next after).bind fun w hw next hmove hempty => ?_
          obtain ⟨hresponse, last, hlast, hrest⟩ := hw next hmove hempty
          exact ⟨hresponse, last, List.mem_getLast?_cons hlast, hrest⟩

end Turn

end CallFlow
