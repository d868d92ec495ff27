import CallFlow.Proofs.Validation.Report

namespace CallFlow

namespace Flow

variable {flow : Flow} {e : Edge} {id : String}

/-- An edge with an end that is no id is reported, whatever edges stand before it. -/
theorem danglingEdge_mem_checkEdges {ids : List String} {es : List Edge} (he : e ∈ es)
    (hends : ¬(e.source ∈ ids ∧ e.target ∈ ids)) (seen : List (String × String)) :
    .danglingEdge e (ids.contains e.source) ∈ (checkEdges ids es seen).errors := by
  induction es generalizing seen with
  | nil => cases he
  | cons first rest ih =>
    unfold checkEdges
    dsimp only
    obtain rfl | hrest := List.mem_cons.1 he
    · have hdangling : ¬(ids.contains e.source && ids.contains e.target) := by
        simpa only [Bool.and_eq_true, List.contains_iff_mem] using hends
      rw [if_neg hdangling]
      exact List.mem_append_left _ (List.mem_singleton.2 rfl)
    · split <;> exact List.mem_append_right _ (ih hrest _)

/-- Every edge joins two nodes, if none is reported. -/
theorem mem_ids_of_no_danglingEdge
    (h : ∀ p ∈ flow.validate.errors, p.code ≠ "DANGLING_EDGE") (he : e ∈ flow.edges) :
    e.source ∈ flow.ids ∧ e.target ∈ flow.ids := by
  refine Decidable.byContradiction fun hends => ?_
  have hreported := danglingEdge_mem_checkEdges he hends []
  refine h (.danglingEdge e (flow.ids.contains e.source)) ?_ rfl
  simp only [validate, validateIn, checkStructure, Report.errors_append, List.mem_append]
  exact Or.inl (Or.inl (Or.inl (Or.inl (Or.inr hreported))))

/-- An id that some node bears leads to a node, unless it is empty. -/
theorem isSome_node?_iff : (flow.node? id).isSome ↔ id ≠ "" ∧ id ∈ flow.ids := by
  by_cases hid : id = "" <;> simp [node?, ids, hid]

end Flow

end CallFlow
