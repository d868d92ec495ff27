import CallFlow.Proofs.Dialogue.Always
import CallFlow.Turn.Walk
import Mathlib.Data.Option.Basic

namespace CallFlow

/-- A handle leads along an edge. -/
theorem Flow.exists_edge_of_next? {flow : Flow} {id : String} {handle : Option String}
    {target : String} (h : flow.next? id handle = some target) :
    ∃ e ∈ flow.edges, e.source = id ∧ e.target = target := by
  obtain ⟨e, he, rfl⟩ := Option.map_eq_some_iff.1 h
  have hout : e ∈ flow.outgoing id := by
    cases handle with
    | none => exact List.mem_of_find?_eq_some (by simpa using he)
    | some handle =>
      dsimp only at he
      split at he
      · exact List.mem_of_find?_eq_some (by simpa using he)
      · obtain hexact | ⟨-, hdefault⟩ := (Option.orElse_eq_some _ _ _).1 he
        · exact List.mem_of_find?_eq_some hexact
        · exact List.mem_of_find?_eq_some hdefault
  obtain ⟨hmem, hsource⟩ := List.mem_filter.1 hout
  exact ⟨e, hmem, by simpa using hsource, rfl⟩

namespace Turn

variable {t : Turn} {node next : String}

/-- A node is followed along an edge. -/
theorem exists_edge_of_successor? {handle : String} (h : t.successor? node handle = some next) :
    ∃ e ∈ t.flow.edges, e.source = node ∧ e.target = next :=
  Flow.exists_edge_of_next? (Option.filter_eq_some_iff.1 h).1

/-- Going on without a word hops to the chosen node. -/
theorem silently_eq_hop_iff {chosen : Option String} :
    silently chosen = .hop next ↔ chosen = some next := by
  cases chosen <;> simp [silently]

/-- What is rendered does not change that a node stays. -/
theorem withText_ne_hop {text : Option String} {step : String → Step}
    (h : ∀ s, step s ≠ .hop next) : withText text step ≠ .hop next := by
  cases text with
  | none => nofun
  | some s => exact h s

/-- Something to say keeps a node from hopping. -/
theorem onTheWay_eq_hop {speech : Option Content} {b : Bindings} {chosen : Option String}
    (h : onTheWay speech b chosen = .hop next) :
    (speech.any fun c => c.text ≠ "") = false ∧ chosen = some next := by
  cases speech with
  | none => exact ⟨rfl, silently_eq_hop_iff.1 h⟩
  | some c =>
    by_cases htext : c.text = ""
    · simp only [onTheWay, htext, if_true] at h
      exact ⟨by simp [htext], silently_eq_hop_iff.1 h⟩
    · simp only [onTheWay, htext, if_false] at h
      exact absurd h (withText_ne_hop fun _ => nofun)

/-- If a node hops, it is silent, and an edge leads from it to where it hops. -/
def HopsSilently (t : Turn) (n : Node) (o : Outcome) : Prop :=
  ∀ next, o.1 = .hop next →
    n.config.isSilent ∧ ∃ e ∈ t.flow.edges, e.source = n.id ∧ e.target = next

variable {n : Node} {b : Bindings}

/-- A fixed sentence never hops. -/
theorem runFixed_speaks {c : ConversationConfig} :
    (t.runFixed node c b).Always fun o => ∀ next, o.1 ≠ .hop next := by
  unfold runFixed
  split
  · unfold say
    split
    · exact fun next => nofun
    · split
      · exact fun next => nofun
      · refine Dialogue.always_bind.2 (.of_forall fun handle => ?_)
        split <;> exact fun next => nofun
  · exact fun next => nofun

/-- A generated sentence never hops. -/
theorem runGenerated_speaks {c : ConversationConfig} :
    (t.runGenerated node c b).Always fun o => ∀ next, o.1 ≠ .hop next := by
  refine Dialogue.always_bind.2 (.of_forall fun reply => ?_)
  cases reply with
  | error e => exact fun next => nofun
  | ok u =>
    dsimp only
    split
    · exact fun next => nofun
    · exact Dialogue.always_bind.2 (.of_forall fun handle next => nofun)

/-- A conversation waits for the caller, whatever the language model replies. -/
theorem runConversation_speaks {c : ConversationConfig} :
    (t.runConversation node c b).Always fun o => ∀ next, o.1 ≠ .hop next := by
  unfold runConversation
  split
  · exact runFixed_speaks
  · exact runGenerated_speaks

/-- A function hops only if it has nothing to say. -/
theorem runFunction_hopsSilently {c : FunctionConfig} (hc : n.config = .function c) :
    (t.runFunction n.id c b).Always (t.HopsSilently n) := by
  refine Dialogue.always_bind.2 (.of_forall fun after => ?_)
  cases after with
  | none => exact fun next => nofun
  | some after =>
    refine Dialogue.always_bind.2 (.of_forall fun handle next hnext => ?_)
    obtain ⟨hspeech, hchosen⟩ := onTheWay_eq_hop hnext
    refine ⟨by rw [hc, NodeConfig.isSilent, hspeech]; rfl, ?_⟩
    obtain htaken | ⟨-, hdefault⟩ := (Option.orElse_eq_some _ _ _).1 hchosen
    · obtain ⟨handle, -, hsucc⟩ := Option.bind_eq_some_iff.1 htaken
      exact exists_edge_of_successor? hsucc
    · exact exists_edge_of_successor? hdefault

/-- Whatever a node is and the world replies, the node hops only if it is silent, and only along
an edge. -/
theorem runNode_hopsSilently : (t.runNode n b).Always (t.HopsSilently n) := by
  unfold runNode
  cases hc : n.config with
  | start c =>
    intro next hnext
    obtain ⟨hspeech, hchosen⟩ := onTheWay_eq_hop hnext
    refine ⟨?_, exists_edge_of_successor? hchosen⟩
    rw [hc, NodeConfig.isSilent]
    cases hspeaks : c.speaksFirst with
    | false => rfl
    | true =>
      rw [hspeaks, if_pos rfl] at hspeech
      rw [hspeech]
      rfl
  | conversation c => exact runConversation_speaks.mono fun o h next hnext => absurd hnext (h next)
  | function c => exact runFunction_hopsSilently hc
  | setVariable c =>
    intro next hnext
    simp only [runSetVariable] at hnext
    split at hnext
    · exact ⟨by rw [hc]; rfl, exists_edge_of_successor? (silently_eq_hop_iff.1 hnext)⟩
    · cases hnext
  | transfer c => exact fun next hnext => absurd hnext (withText_ne_hop fun _ => nofun)
  | finish c => exact fun next hnext => absurd hnext (withText_ne_hop fun _ => nofun)
  | unknown _ _ =>
    exact fun next hnext =>
      ⟨by rw [hc]; rfl, exists_edge_of_successor? (silently_eq_hop_iff.1 hnext)⟩

end Turn

end CallFlow
