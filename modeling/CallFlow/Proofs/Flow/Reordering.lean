import CallFlow.Proofs.Turn.Edges
import CallFlow.Proofs.Validation.Runnable
import Mathlib.Data.List.Perm.Basic

namespace CallFlow

open Relation

/-- The order of a list does not matter to a search that only one of its items satisfies. -/
theorem find?_eq_of_perm {α : Type} {p : α → Bool} {as bs : List α} (h : as.Perm bs)
    (hone : ∀ a ∈ as, ∀ b ∈ as, p a → p b → a = b) : as.find? p = bs.find? p := by
  cases hfound : as.find? p with
  | none =>
    refine (List.find?_eq_none.2 fun b hb => ?_).symm
    exact List.find?_eq_none.1 hfound b (h.mem_iff.2 hb)
  | some a =>
    have ha := List.mem_of_find?_eq_some hfound
    have hpa := List.find?_some hfound
    cases hfound' : bs.find? p with
    | none => exact absurd hpa (List.find?_eq_none.1 hfound' a (h.mem_iff.1 ha))
    | some b =>
      have hb := h.mem_iff.2 (List.mem_of_find?_eq_some hfound')
      rw [hone a ha b hb hpa (List.find?_some hfound')]

namespace Flow

variable {flow other : Flow}

/-- The other flow is the same but for the order of its nodes and of its edges. -/
structure Reordering (flow other : Flow) : Prop where
  nodes : flow.nodes.Perm other.nodes
  edges : flow.edges.Perm other.edges
  rest : other = { flow with nodes := other.nodes, edges := other.edges }

/-- Whatever a turn asks of one flow, the other answers in the same way. -/
structure AnswersAlike (flow other : Flow) : Prop where
  node? : ∀ id, other.node? id = flow.node? id
  next? : ∀ id handle, other.next? id handle = flow.next? id handle
  settings : other.settings = flow.settings

namespace Reordering

variable (h : flow.Reordering other)
include h

/-- The same ids, in some order. -/
theorem ids : flow.ids.Perm other.ids := h.nodes.map Node.id

/-- The same start nodes, in some order. -/
theorem starts : flow.starts.Perm other.starts := h.nodes.filter _

/-- The same edges leave a node, in some order. -/
theorem outgoing (id : String) : (flow.outgoing id).Perm (other.outgoing id) := h.edges.filter _

theorem declared : other.declared = flow.declared := by rw [h.rest]; rfl

/-- The same nodes are joined. -/
theorem joined {a b : String} : Joined other.edges a b ↔ Joined flow.edges a b := by
  simp only [Joined, h.edges.mem_iff]

/-- The same nodes are reached. -/
theorem reached {a b : String} (hpath : ReflTransGen (Joined flow.edges) a b) :
    ReflTransGen (Joined other.edges) a b :=
  ReflTransGen.mono (fun _ _ => h.joined.2) a b hpath

/-- A flow can be run in any order of its nodes and edges, if in one. -/
theorem runnable (hrun : flow.Runnable) : other.Runnable where
  start := by rw [← h.starts.length_eq, hrun.start]
  ids := h.ids.nodup_iff.1 hrun.ids
  joined e he := by
    rw [← h.ids.mem_iff, ← h.ids.mem_iff]
    exact hrun.joined e (h.edges.mem_iff.2 he)
  exits := (h.edges.map Edge.exit).nodup_iff.1 hrun.exits
  reached s hs n hn := by
    have hreached := hrun.reached s (h.starts.mem_iff.2 hs) n (h.nodes.mem_iff.2 hn)
    exact hreached.imp_right h.reached
  left n hn := by
    obtain hterminal | ⟨e, he, hsource⟩ := hrun.left n (h.nodes.mem_iff.2 hn)
    · exact Or.inl hterminal
    · exact Or.inr ⟨e, h.edges.mem_iff.1 he, hsource⟩
  settings n hn :=
    (errors_checkSettings_congr flow other n).1 (hrun.settings n (h.nodes.mem_iff.2 hn))
  declared := h.declared ▸ hrun.declared

variable (hrun : flow.Runnable)
include hrun

/-- A call begins at the same node. -/
theorem entry? : other.entry? = flow.entry? := by
  obtain ⟨start, hstarts, hentry⟩ := hrun.exists_start
  obtain ⟨start', hstarts', hentry'⟩ := (h.runnable hrun).exists_start
  have hperm : [start].Perm [start'] := hstarts ▸ hstarts' ▸ h.starts
  obtain rfl : start = start' := List.singleton_inj.1 (List.perm_singleton.1 hperm)
  rw [hentry, hentry']

/-- An id stands for the same node. -/
theorem node? (id : String) : other.node? id = flow.node? id := by
  have hfound := find?_eq_of_perm (p := fun n => n.id = id) h.nodes fun a ha b hb hida hidb => by
    simp only [decide_eq_true_eq] at hida hidb
    exact List.inj_on_of_nodup_map hrun.ids ha hb (hida.trans hidb.symm)
  simp only [Flow.node?, hfound]

/-- No two edges leave a node by one handle, so any search for a handle has one result. -/
theorem find?_outgoing {id handle : String} {p : Edge → Bool}
    (hp : ∀ e, p e → e.handle = handle) :
    (other.outgoing id).find? p = (flow.outgoing id).find? p := by
  refine (find?_eq_of_perm (h.outgoing id) fun a ha b hb hpa hpb => ?_).symm
  simp only [Flow.outgoing, List.mem_filter, decide_eq_true_eq] at ha hb
  refine List.inj_on_of_nodup_map hrun.exits ha.1 hb.1 ?_
  simp only [Edge.exit, ha.2, hb.2, hp a hpa, hp b hpb]

/-- A handle leads to the same node. -/
theorem next? (id : String) (handle : Option String) :
    other.next? id handle = flow.next? id handle := by
  have hdefault : (other.outgoing id).find? (fun e => e.handle = defaultHandle) =
      (flow.outgoing id).find? fun e => e.handle = defaultHandle :=
    h.find?_outgoing hrun fun e he => by simpa using he
  have hexact : ∀ x, x ≠ "" → (other.outgoing id).find? (fun e => e.sourceHandle = some x) =
      (flow.outgoing id).find? fun e => e.sourceHandle = some x := by
    intro x hx
    exact h.find?_outgoing hrun fun e he => handle_of_sourceHandle (by simpa using he) hx
  unfold Flow.next?
  cases handle with
  | none => simp only [hdefault]
  | some x =>
    by_cases hx : x = ""
    · simp only [hx, if_true, hdefault]
    · simp only [hx, if_false, hdefault, hexact x hx]

/-- Flows in another order answer alike. -/
theorem answersAlike : flow.AnswersAlike other where
  node? := h.node? hrun
  next? := h.next? hrun
  settings := by rw [h.rest]

end Reordering

end Flow

namespace Turn

variable {t : Turn} {other : Flow}

/-- The same turn in another flow. -/
def withFlow (t : Turn) (flow : Flow) : Turn := { t with flow }

section

variable (h : t.flow.AnswersAlike other)
include h

/-- Exits lead to the same nodes. -/
theorem successor?_withFlow : (t.withFlow other).successor? = t.successor? := by
  funext node handle
  simp only [successor?, withFlow, h.next?]

/-- A node is run alike. -/
theorem runNode_withFlow (n : Node) (b : Bindings) :
    (t.withFlow other).runNode n b = t.runNode n b := by
  have hsuccessor := successor?_withFlow h
  have hdefault : (t.withFlow other).defaultSuccessor? = t.defaultSuccessor? := by
    funext node
    simp only [defaultSuccessor?, hsuccessor]
  have hprompt : (t.withFlow other).flow.settings = t.flow.settings := h.settings
  unfold runNode
  cases n.config with
  | start c => simp only [runStart, hdefault]
  | conversation c =>
    simp only [runConversation, runFixed, say, runGenerated, hsuccessor, hdefault, hprompt]
    rfl
  | function c =>
    simp only [runFunction, hsuccessor, hdefault]
    rfl
  | setVariable c => simp only [runSetVariable, hdefault]
  | transfer c => rfl
  | finish c => rfl
  | unknown _ _ => simp only [hdefault]

/-- A walk goes the same way. -/
theorem walk_withFlow (hops : Nat) (id : String) (b : Bindings) :
    (t.withFlow other).walk hops id b = t.walk hops id b := by
  apply walk_congr
  · rfl
  · rfl
  · exact h.node?
  · exact fun _ n _ b => runNode_withFlow h n b

end

end Turn

namespace Flow

/-- The order in which the nodes and edges of a flow without errors are authored makes no
difference: in any other the flow has no errors either, every lookup finds the same, and every turn
is the same dialogue, which asks the same of the world and comes to the same result whatever is
replied. -/
theorem order_irrelevant {flow other : Flow} (h : flow.Reordering other)
    (hvalid : flow.validate.errors = []) :
    other.validate.errors = [] ∧ other.entry? = flow.entry? ∧
      (∀ id, other.node? id = flow.node? id) ∧
      (∀ id handle, other.next? id handle = flow.next? id handle) ∧
      ∀ settings userInput history id b,
        (⟨settings, other, userInput, history⟩ : Turn).run id b =
          (⟨settings, flow, userInput, history⟩ : Turn).run id b := by
  have hrun : flow.Runnable := errors_validateIn_eq_nil_iff.1 hvalid
  refine ⟨errors_validateIn_eq_nil_iff.2 (h.runnable hrun), h.entry? hrun, h.node? hrun,
    h.next? hrun, fun settings userInput history id b => ?_⟩
  exact Turn.walk_withFlow (t := ⟨settings, flow, userInput, history⟩) (h.answersAlike hrun)
    settings.engine.hops id b

private def wantsTable : Transition where
  criterion := .equation
  condition := "\x7b\x7buser_input\x7d\x7d contains table"
  handle := "table"

private def askNode : Node where
  id := "ask"
  config := .conversation
    { content := { mode := .fixed, text := "A room or a table?" }, transitions := [wantsTable] }

/-- Asks what is wanted. What is not a table is a room. -/
private def deskFlow : Flow where
  nodes :=
    [{ id := "begin", config := .start { speaksFirst := false } }, askNode,
     { id := "room", config := .transfer { destination := "front desk" } },
     { id := "table", config := .finish {} }]
  edges :=
    [{ source := "begin", target := "ask" }, { source := "ask", target := "room" },
     { source := "ask", target := "table", sourceHandle := some "table" }]

/-- The same flow from back to front. -/
private def deskFlowReversed : Flow :=
  { deskFlow with nodes := deskFlow.nodes.reverse, edges := deskFlow.edges.reverse }

theorem deskFlow_order_irrelevant :
    deskFlow.Reordering deskFlowReversed ∧ deskFlow.validate.errors = [] ∧
      deskFlowReversed.validate.errors = [] ∧ deskFlowReversed.entry? = some "begin" ∧
      deskFlowReversed.next? "ask" (some "table") = some "table" ∧
      deskFlowReversed.next? "ask" (some "other") = some "room" ∧
      (⟨{}, deskFlowReversed, "a table", []⟩ : Turn).run "ask" [] =
        (⟨{}, deskFlow, "a table", []⟩ : Turn).run "ask" [] := by
  have h : deskFlow.Reordering deskFlowReversed :=
    ⟨(List.reverse_perm _).symm, (List.reverse_perm _).symm, rfl⟩
  have hvalid : deskFlow.validate.errors = [] := List.isEmpty_iff.1 (by decide +kernel)
  obtain ⟨hvalid', hentry, -, hnext, hturns⟩ := order_irrelevant h hvalid
  have htable : deskFlow.next? "ask" (some "table") = some "table" := by decide +kernel
  have hother : deskFlow.next? "ask" (some "other") = some "room" := by decide +kernel
  exact ⟨h, hvalid, hvalid', hentry, (hnext _ _).trans htable, (hnext _ _).trans hother,
    hturns {} "a table" [] "ask" []⟩

end Flow

end CallFlow
