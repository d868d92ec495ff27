import CallFlow.Proofs.Turn.Exits
import CallFlow.Proofs.Turn.Hops
import CallFlow.Proofs.Validation.Edges

namespace CallFlow

/-- The fields of a move go together. A call waits at a node exactly if the caller speaks next, it
is handed over to somebody in some way exactly if that is what is done, and it has options only if
whoever it is handed over to is told about it first. -/
structure Move.IsWellFormed (m : Move) : Prop where
  action : m.action = .gather ∨ m.action = .finish ∨ m.action = .transfer
  next : m.next?.isSome ↔ m.action = .gather
  destination : m.destination?.isSome ↔ m.action = .transfer
  kind : m.kind?.isSome ↔ m.action = .transfer
  options : m.kind? ≠ some .warm → m.warmOptions? = none

namespace Move

theorem isWellFormed_gather (node : String) : (gather node).IsWellFormed := by
  constructor <;> simp [gather, result]

theorem isWellFormed_finish : finish.IsWellFormed := by constructor <;> simp [finish, result]

theorem isWellFormed_gatherOrFinish (next : Option String) :
    (gatherOrFinish next).IsWellFormed := by
  cases next with
  | none => exact isWellFormed_finish
  | some node => exact isWellFormed_gather node

theorem isWellFormed_transfer (destination : String) (kind : TransferKind)
    (options : Option WarmOptions) : (transfer destination kind options).IsWellFormed := by
  constructor <;> simp +contextual [transfer]

/-- A well formed move after which the caller speaks next has nothing but the node. -/
theorem IsWellFormed.eq_gather {m : Move} (h : m.IsWellFormed) (haction : m.action = .gather) :
    ∃ node, m = gather node := by
  obtain ⟨node, hnode⟩ := Option.isSome_iff_exists.1 (h.next.2 haction)
  have hdestination : m.destination? = none := by
    simpa [haction] using mt h.destination.1
  have hkind : m.kind? = none := by simpa [haction] using mt h.kind.1
  have hoptions : m.warmOptions? = none := h.options (by simp [hkind])
  refine ⟨node, ?_⟩
  cases m
  simp_all [gather, result]

end Move

/-- A step that replies does so with a well formed move. -/
def Step.IsWellFormed (step : Step) : Prop :=
  ∀ response move, step = .reply response move → move.IsWellFormed

namespace Turn

open Move

variable {t : Turn} {n : Node} {b : Bindings} {node : String}

theorem isWellFormed_reply {response : String} {move : Move} (h : move.IsWellFormed) :
    (Step.reply response move).IsWellFormed := by
  rintro _ _ ⟨⟩
  exact h

theorem isWellFormed_silently (next : Option String) : (silently next).IsWellFormed := by
  cases next with
  | none => exact isWellFormed_reply isWellFormed_finish
  | some node => exact nofun

/-- A step with a text is in good form if it is for every text. -/
theorem isWellFormed_withText {text : Option String} {step : String → Step}
    (h : ∀ s, (step s).IsWellFormed) : (withText text step).IsWellFormed := by
  cases text with
  | none => exact nofun
  | some s => exact h s

/-- A step on the way is in good form. -/
theorem isWellFormed_onTheWay (speech : Option Content) (next : Option String) :
    (onTheWay speech b next).IsWellFormed := by
  unfold onTheWay
  split
  · split
    · exact isWellFormed_silently next
    · exact isWellFormed_withText fun _ => isWellFormed_reply (isWellFormed_gatherOrFinish next)
  · exact isWellFormed_silently next

/-- A fixed sentence ends in good form. -/
theorem runFixed_wellFormed {c : ConversationConfig} :
    (t.runFixed node c b).Always fun o => o.1.IsWellFormed := by
  unfold runFixed
  split
  · unfold say
    split
    · exact isWellFormed_reply (isWellFormed_gatherOrFinish _)
    · split
      · exact isWellFormed_reply (isWellFormed_gather _)
      · refine Dialogue.always_bind.2 (.of_forall fun handle => ?_)
        split <;> exact isWellFormed_reply (isWellFormed_gather _)
  · exact nofun

theorem runGenerated_wellFormed {c : ConversationConfig} :
    (t.runGenerated node c b).Always fun o => o.1.IsWellFormed := by
  refine Dialogue.always_bind.2 (.of_forall fun reply => ?_)
  cases reply with
  | error e => exact nofun
  | ok u =>
    dsimp only
    split
    · exact isWellFormed_reply (isWellFormed_gather _)
    · exact Dialogue.always_bind.2 (.of_forall fun handle =>
        isWellFormed_reply (isWellFormed_gather _))

theorem runFunction_wellFormed {c : FunctionConfig} :
    (t.runFunction node c b).Always fun o => o.1.IsWellFormed := by
  refine Dialogue.always_bind.2 (.of_forall fun after => ?_)
  cases after with
  | none => exact nofun
  | some after =>
    exact Dialogue.always_bind.2 (.of_forall fun handle => isWellFormed_onTheWay c.speech _)

/-- Whatever a node is and the world replies, a reply at it comes with a well formed move. -/
theorem runNode_wellFormed : (t.runNode n b).Always fun o => o.1.IsWellFormed := by
  unfold runNode
  cases n.config with
  | start c => exact isWellFormed_onTheWay _ _
  | conversation c =>
    dsimp only [runConversation]
    split
    · exact runFixed_wellFormed
    · exact runGenerated_wellFormed
  | function c => exact runFunction_wellFormed
  | setVariable c =>
    dsimp only [runSetVariable]
    split
    · exact isWellFormed_silently _
    · exact nofun
  | transfer c =>
    exact isWellFormed_withText fun _ => isWellFormed_reply (isWellFormed_transfer _ _ _)
  | finish c => exact isWellFormed_withText fun _ => isWellFormed_reply isWellFormed_finish
  | unknown _ _ => exact isWellFormed_silently _

/-- However a walk ends, be it by a reply, over a node that fails or is not there, or for want of
hops, its move is well formed. -/
theorem walk_wellFormed (hops : Nat) (id : String) (b : Bindings) :
    (t.walk hops id b).Always fun w => w.result.move.IsWellFormed := by
  induction hops using Nat.strongRecOn generalizing id b with
  | ind hops ih =>
    cases hnode : t.flow.node? id with
    | none =>
      rw [walk_missing t hnode]
      exact isWellFormed_finish
    | some n =>
      rw [walk_node t hnode]
      refine runNode_wellFormed.bind ?_
      rintro ⟨step, after⟩ hstep
      cases step with
      | failed => exact isWellFormed_gather n.id
      | reply response move => exact hstep response move rfl
      | hop next =>
        cases hops with
        | zero => exact isWellFormed_finish
        | succ hops => exact (ih hops (Nat.lt_succ_self hops) next after).bind fun w hw => hw

end Turn

namespace Turn

variable {t : Turn} {n : Node} {id next : String}

/-- A way on leads to a node of the flow, unless an edge is dangling. -/
theorem Leads.isSome_node? (h : t.Leads id next)
    (hedges : ∀ p ∈ t.flow.validate.errors, p.code ≠ "DANGLING_EDGE") :
    (t.flow.node? next).isSome := by
  obtain ⟨n, hnode, rfl | ⟨handle, -, hsucc⟩⟩ := h
  · obtain ⟨-, rfl, -⟩ := Flow.mem_nodes_of_node? hnode
    rw [hnode]
    rfl
  · obtain ⟨e, he, -, rfl⟩ := exists_edge_of_successor? hsucc
    have hne : e.target ≠ "" := by simpa using (Option.filter_eq_some_iff.1 hsucc).2
    exact Flow.isSome_node?_iff.2 ⟨hne, (Flow.mem_ids_of_no_danglingEdge hedges he).2⟩

/-- No way on leads to the empty id. -/
theorem Leads.ne_empty (h : t.Leads id next) : next ≠ "" := by
  obtain ⟨n, hnode, rfl | ⟨handle, -, hsucc⟩⟩ := h
  · obtain ⟨-, rfl, hne⟩ := Flow.mem_nodes_of_node? hnode
    exact hne
  · simpa using (Option.filter_eq_some_iff.1 hsucc).2

/-- Whatever a turn begins with and the world replies, its result is well formed, and if the call
goes on, it waits at a node whose id is not empty. That node belongs to the flow, unless validation
finds a dangling edge. Nothing else is assumed of the flow: ids may be repeated, and edges may lead
to the empty id. -/
theorem run_wellFormed (t : Turn) (id : String) (b : Bindings) (s : Script) :
    ((t.run id b).run s).1.result.move.IsWellFormed ∧
      ∀ next, ((t.run id b).run s).1.result.move.next? = some next → next ≠ "" ∧
        ((∀ p ∈ t.flow.validate.errors, p.code ≠ "DANGLING_EDGE") →
          (t.flow.node? next).isSome) := by
  refine ⟨(walk_wellFormed t.settings.engine.hops id b).run s, fun next hnext => ?_⟩
  have hwalk : Walk.GoesOn t id ((t.run id b).run s).1 :=
    (walk_goesOn t.settings.engine.hops id b).run s
  obtain ⟨last, -, hleads⟩ := hwalk.waits next hnext
  exact ⟨hleads.ne_empty, hleads.isSome_node?⟩

private def doorStart : Node where
  id := "begin"
  config := .start { greeting := some { text := "Who is it?" } }

/-- A greeting before a question, where the nodes that follow the question share its id or have
none. -/
private def doorFlow : Flow where
  nodes :=
    [doorStart, { id := "ask", config := .conversation { content := { mode := .fixed } } },
     { id := "ask", config := .finish {} }, { id := "", config := .finish {} }]
  edges := [{ source := "begin", target := "ask" }, { source := "ask", target := "" }]

theorem run_doorFlow_waits_at_ask :
    let r := (((⟨{}, doorFlow, "", []⟩ : Turn).run "begin" []).run {}).1.result
    r.move.next? = some "ask" ∧
      (∀ p ∈ doorFlow.validate.errors, p.code ≠ "DANGLING_EDGE") ∧
      r.move.IsWellFormed ∧ "ask" ≠ "" ∧ (doorFlow.node? "ask").isSome := by
  have hmove : (((⟨{}, doorFlow, "", []⟩ : Turn).run "begin" []).run {}).1.result.move.next? =
      some "ask" := by
    have hgreeting : Template.render "Who is it?" [] = some "Who is it?" :=
      Template.render_of_not_mem (by decide) []
    have hrun : (⟨{}, doorFlow, "", []⟩ : Turn).runNode doorStart [] =
        .done (saying "Who is it?" (some "ask"), []) := by
      have hstart : onTheWay (some { text := "Who is it?" }) [] (some "ask") =
          withText (Template.render "Who is it?" []) fun text => saying text (some "ask") := rfl
      rw [hgreeting] at hstart
      exact congrArg (fun step => Dialogue.done (step, [])) hstart
    rw [run, walk_node (n := doorStart) _ rfl, hrun]
    rfl
  have hedges : ∀ p ∈ doorFlow.validate.errors, p.code ≠ "DANGLING_EDGE" := by decide +kernel
  obtain ⟨hwell, hwaits⟩ := run_wellFormed ⟨{}, doorFlow, "", []⟩ "begin" [] {}
  exact ⟨hmove, hedges, hwell, (hwaits "ask" hmove).1, (hwaits "ask" hmove).2 hedges⟩

end Turn

end CallFlow
