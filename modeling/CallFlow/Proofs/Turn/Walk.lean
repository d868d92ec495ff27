import CallFlow.Turn.Walk

namespace CallFlow

/-- A node that is found is one of the flow, with that id. -/
theorem Flow.mem_nodes_of_node? {flow : Flow} {id : String} {n : Node}
    (h : flow.node? id = some n) : n ∈ flow.nodes ∧ n.id = id ∧ id ≠ "" := by
  simp only [Flow.node?, Option.ite_none_left_eq_some] at h
  exact ⟨List.mem_of_find?_eq_some h.2, by simpa using List.find?_some h.2, h.1⟩

namespace Turn

variable (t : Turn)

/-- How a walk goes on after a node, with so many hops left. -/
def onward (hops : Nat) (node : String) : Outcome → Dialogue Walk
  | (.failed, b) => .done ⟨t.retry node b, [node], .failed⟩
  | (.reply response move, b) => .done ⟨⟨response, move, b⟩, [node], .replied⟩
  | (.hop next, b) =>
    match hops with
    | 0 => .done ⟨t.apology b, [node], .cut⟩
    | hops + 1 => (t.walk hops next b).bind fun w => .done (w.after node)

/-- A walk from no node ends at once. -/
theorem walk_missing {hops : Nat} {id : String} {b : Bindings} (h : t.flow.node? id = none) :
    t.walk hops id b = .done ⟨t.apology b, [], .missing⟩ := by
  unfold walk
  simp only [h, Dialogue.pure_eq]

/-- A walk runs its node and goes on. -/
theorem walk_node {hops : Nat} {id : String} {b : Bindings} {n : Node}
    (h : t.flow.node? id = some n) :
    t.walk hops id b = (t.runNode n b).bind (t.onward hops n.id) := by
  unfold walk
  simp only [h]
  refine congrArg (Dialogue.bind _) (funext fun outcome => ?_)
  obtain ⟨step, b⟩ := outcome
  cases step with
  | hop next => cases hops <;> rfl
  | reply response move => rfl
  | failed => rfl

/-- Two turns that find the same nodes and run them in the same way take the same walks. -/
theorem walk_congr {t other : Turn} (happology : other.apology = t.apology)
    (hretry : other.retry = t.retry) (hnode : ∀ id, other.flow.node? id = t.flow.node? id)
    (hrun : ∀ id n, t.flow.node? id = some n → ∀ b, other.runNode n b = t.runNode n b)
    (hops : Nat) (id : String) (b : Bindings) : other.walk hops id b = t.walk hops id b := by
  induction hops using Nat.strongRecOn generalizing id b with
  | ind hops ih =>
    cases hfound : t.flow.node? id with
    | none =>
      have hmissing : other.flow.node? id = none := (hnode id).trans hfound
      rw [walk_missing t hfound, walk_missing other hmissing, happology]
    | some n =>
      have hfound' : other.flow.node? id = some n := (hnode id).trans hfound
      rw [walk_node t hfound, walk_node other hfound', hrun id n hfound]
      refine congrArg _ (funext fun outcome => ?_)
      obtain ⟨step, after⟩ := outcome
      cases step with
      | failed => simp only [onward, hretry]
      | reply response move => rfl
      | hop next =>
        cases hops with
        | zero => simp only [onward, happology]
        | succ hops => simp only [onward, ih hops (Nat.lt_succ_self hops)]

end Turn

end CallFlow
