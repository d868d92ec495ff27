import CallFlow.Proofs.Turn.Exits
import Mathlib.Data.List.Find

namespace CallFlow

namespace Turn

/-- The same turn with other edges. -/
def withEdges (t : Turn) (edges : List Edge) : Turn := { t with flow := { t.flow with edges } }

variable {t : Turn} {edges : List Edge} {n : Node} {b : Bindings}

/-- From a node, the same nodes follow by its exits when the edges are others. -/
def SameExits (t : Turn) (edges : List Edge) (n : Node) : Prop :=
  ∀ handle ∈ n.config.exits, (t.withEdges edges).successor? n.id handle = t.successor? n.id handle

namespace SameExits

variable (h : t.SameExits edges n)
include h

/-- A node is followed by default by the same node. -/
theorem default (hgoes : n.config.goesOn) :
    (t.withEdges edges).defaultSuccessor? n.id = t.defaultSuccessor? n.id :=
  h defaultHandle (NodeConfig.default_mem_exits hgoes)

/-- The handle of a transition leads to the same node. -/
theorem bind_successor? {handle : Option String}
    (hhandle : ∀ x, handle = some x → ∃ tr ∈ n.config.transitions, tr.handle = x) :
    handle.bind ((t.withEdges edges).successor? n.id) = handle.bind (t.successor? n.id) := by
  cases handle with
  | none => rfl
  | some x =>
    obtain ⟨tr, hmem, rfl⟩ := hhandle x rfl
    exact h tr.handle (NodeConfig.mem_exits_of_transition hmem)

/-- The handle that transitions resolve to leads to the same node. -/
theorem resolve_bind_successor? {ts : List Transition} (hts : n.config.transitions = ts) :
    (t.resolve ts b).Always fun chosen =>
      chosen.bind ((t.withEdges edges).successor? n.id) = chosen.bind (t.successor? n.id) := by
  refine (Resolution.resolve_eligible _ ts b t.userInput).mono fun chosen heligible => ?_
  refine h.bind_successor? fun x hx => ?_
  obtain ⟨tr, hmem, hhandle, -⟩ := heligible x hx
  exact ⟨tr, hts ▸ hmem, hhandle⟩

/-- A fixed sentence is run alike over edges with the same exits. -/
theorem runFixed {c : ConversationConfig} (hc : n.config = .conversation c)
    (hmode : c.content.mode = .fixed) :
    (t.withEdges edges).runFixed n.id c b = t.runFixed n.id c b := by
  unfold Turn.runFixed
  cases Template.render c.content.text b with
  | none => rfl
  | some text =>
    dsimp only [say]
    split
    · rw [h.default (by simp [NodeConfig.goesOn, *])]
    · refine ite_congr rfl (fun _ => rfl) fun _ => ?_
      refine (h.resolve_bind_successor? (by rw [hc]; rfl)).bind_congr fun chosen hchosen => ?_
      rw [hchosen]

/-- A generated sentence is run alike over edges with the same exits. -/
theorem runGenerated {c : ConversationConfig} (hc : n.config = .conversation c) :
    (t.withEdges edges).runGenerated n.id c b = t.runGenerated n.id c b := by
  refine (Engine.generate_offered ..).bind_congr fun reply hoffered => ?_
  cases reply with
  | error e => rfl
  | ok u =>
    have hproposed : u.matchedTransition.bind ((t.withEdges edges).successor? n.id) =
        u.matchedTransition.bind (t.successor? n.id) := by
      refine h.bind_successor? fun x hx => ?_
      obtain ⟨tr, hmem, hhandle⟩ := List.mem_map.1 (hoffered u rfl x hx).2
      exact ⟨tr, by rw [hc]; exact hmem, hhandle⟩
    dsimp only
    rw [hproposed]
    split
    · rfl
    · refine (h.resolve_bind_successor? (by rw [hc]; rfl)).bind_congr fun chosen hchosen => ?_
      rw [hchosen]

/-- A function is run alike over edges with the same exits. -/
theorem runFunction {c : FunctionConfig} (hc : n.config = .function c) :
    (t.withEdges edges).runFunction n.id c b = t.runFunction n.id c b := by
  refine congrArg (Dialogue.bind (t.call c b)) (funext fun after => ?_)
  cases after with
  | none => rfl
  | some after =>
    dsimp only
    rw [h.default (by rw [hc]; rfl)]
    refine (h.resolve_bind_successor? (by rw [hc]; rfl)).bind_congr fun chosen hchosen => ?_
    rw [hchosen]

/-- Edges matter to a node through the nodes that follow by its exits, and not otherwise. -/
theorem runNode : (t.withEdges edges).runNode n b = t.runNode n b := by
  have hdefault := h.default
  unfold Turn.runNode
  cases hc : n.config with
  | start c => simp only [runStart, hdefault (by rw [hc]; rfl)]
  | conversation c =>
    dsimp only [runConversation]
    split
    · exact h.runFixed hc ‹_›
    · exact h.runGenerated hc
  | function c => exact h.runFunction hc
  | setVariable c => simp only [runSetVariable, hdefault (by rw [hc]; rfl)]
  | transfer c => rfl
  | finish c => rfl
  | unknown _ _ => simp only [hdefault (by rw [hc]; rfl)]

end SameExits

/-- A walk goes the same way over other edges with the same exits. -/
theorem walk_withEdges (h : ∀ id n, t.flow.node? id = some n → t.SameExits edges n) (hops : Nat)
    (id : String) (b : Bindings) : (t.withEdges edges).walk hops id b = t.walk hops id b := by
  apply walk_congr
  · rfl
  · rfl
  · exact fun _ => rfl
  · exact fun id n hnode _ => (h id n hnode).runNode

end Turn

namespace Flow

variable {flow : Flow} {e : Edge} {n : Node} {handle : String}

/-- Whether an edge leaves by default or by the handle of some transition of its source. -/
def isNamed (flow : Flow) (e : Edge) : Bool :=
  e.handle = defaultHandle || (flow.node? e.source).any fun n =>
    n.config.transitions.any fun t => t.handle = e.handle

/-- The edges that leave by default or by the handle of some transition of their source. -/
def namedEdges (flow : Flow) : List Edge := flow.edges.filter flow.isNamed

/-- An edge leaves by the handle that it names. -/
theorem handle_of_sourceHandle (h : e.sourceHandle = some handle) (hne : handle ≠ "") :
    e.handle = handle := by
  simp [Edge.handle, h, hne]

/-- An edge that leaves by an exit is named. -/
theorem isNamed_of_exit (hnode : flow.node? e.source = some n)
    (hexit : e.handle ∈ n.config.exits) : flow.isNamed e := by
  obtain htransition | hdefault := List.mem_append.1 hexit
  · obtain ⟨t, hmem, hhandle⟩ := List.mem_map.1 htransition
    simp only [isNamed, hnode, Option.any_some, Bool.or_eq_true, List.any_eq_true,
      decide_eq_true_eq]
    exact Or.inr ⟨t, hmem, hhandle⟩
  · have hhandle : e.handle = defaultHandle := by
      split at hdefault
      · exact List.mem_singleton.1 hdefault
      · cases hdefault
    simp [isNamed, hhandle]

/-- Leaving out edges does not change what is found first among those that stay. -/
theorem find?_outgoing_filter {p keep : Edge → Bool} {id : String}
    (h : ∀ e, e.source = id → p e → keep e) :
    (Flow.outgoing { flow with edges := flow.edges.filter keep } id).find? p =
      (flow.outgoing id).find? p := by
  simp only [outgoing, List.filter_filter, List.find?_filter]
  refine List.find?_congr fun e _ => ?_
  have hkeep := h e
  grind

/-- By an exit of a node, the same node follows when all but the named edges are left out. -/
theorem next?_namedEdges {id : String} (hnode : flow.node? id = some n)
    (hexit : handle ∈ n.config.exits) :
    Flow.next? { flow with edges := flow.namedEdges } id (some handle) =
      flow.next? id (some handle) := by
  have hdefault : (Flow.outgoing { flow with edges := flow.namedEdges } id).find?
      (fun e => e.handle = defaultHandle) =
        (flow.outgoing id).find? fun e => e.handle = defaultHandle :=
    find?_outgoing_filter fun e _ he => by simp_all [isNamed]
  have hexact : handle ≠ "" → (Flow.outgoing { flow with edges := flow.namedEdges } id).find?
      (fun e => e.sourceHandle = some handle) =
        (flow.outgoing id).find? fun e => e.sourceHandle = some handle := by
    refine fun hne => find?_outgoing_filter fun e hsource he =>
      isNamed_of_exit (hsource ▸ hnode) ?_
    rw [handle_of_sourceHandle (by simpa using he) hne]
    exact hexit
  simp only [next?, hdefault]
  split
  · rfl
  · rw [hexact ‹_›]

end Flow

namespace Turn

/-- A turn goes on from a node only to the node itself or to the one that follows by an exit of its
own: the handle of one of its transitions or, for a node that goes on when nothing else is decided,
the default. Whatever handles a language model makes up, the edges that leave by them could as well
not be there. Nothing is assumed of the flow, the variables, what was said, or the replies. -/
theorem run_leaves_by_exits (t : Turn) (id : String) (b : Bindings) :
    (∀ s : Script, Walk.GoesOn t id ((t.run id b).run s).1) ∧
      (t.withEdges t.flow.namedEdges).run id b = t.run id b := by
  refine ⟨fun s => (walk_goesOn t.settings.engine.hops id b).run s, ?_⟩
  refine walk_withEdges (fun id n hnode handle hexit => ?_) t.settings.engine.hops id b
  obtain ⟨-, rfl, -⟩ := Flow.mem_nodes_of_node? hnode
  exact congrArg (Option.filter _) (Flow.next?_namedEdges hnode hexit)

end Turn

end CallFlow
