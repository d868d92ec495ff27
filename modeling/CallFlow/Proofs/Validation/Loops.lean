import CallFlow.Proofs.Validation.Report
import CallFlow.Proofs.Validation.Search

namespace CallFlow

namespace Flow

open Relation

variable {flow : Flow} {order : List String} {id : String}

/-- An id that goes by a silent node. Other nodes may bear it too. -/
def IsSilentId (flow : Flow) (id : String) : Prop :=
  ∃ n ∈ flow.nodes, n.id = id ∧ n.config.isSilent

/-- An edge leads from one silent node to another. -/
def SilentEdge (flow : Flow) (a b : String) : Prop :=
  flow.IsSilentId a ∧ flow.IsSilentId b ∧ ∃ e ∈ flow.edges, e.source = a ∧ e.target = b

/-- Edges between silent nodes, at least one, lead from a node back to it. -/
def OnSilentLoop (flow : Flow) (id : String) : Prop := TransGen flow.SilentEdge id id

/-- The silent ids are those of silent nodes. -/
theorem mem_silentIds_iff : id ∈ flow.silentIds ↔ flow.IsSilentId id := by
  simp only [silentIds, List.mem_eraseDups, List.mem_map, List.mem_filter, IsSilentId]
  constructor
  · rintro ⟨n, ⟨hmem, hsilent⟩, hid⟩
    exact ⟨n, hmem, hid, hsilent⟩
  · rintro ⟨n, hmem, hid, hsilent⟩
    exact ⟨n, ⟨hmem, hsilent⟩, hid⟩

theorem nodup_silentIds : flow.silentIds.Nodup := nodup_eraseDups _

/-- Silent nodes follow each other along edges. -/
theorem follows_silentNext_iff {a b : String} : Follows flow.silentNext a b ↔
    flow.IsSilentId b ∧ ∃ e ∈ flow.edges, e.source = a ∧ e.target = b := by
  simp only [Follows, silentNext, outgoing, List.mem_filter, List.mem_map, List.contains_iff_mem,
    decide_eq_true_eq, mem_silentIds_iff, and_assoc]
  exact And.comm

/-- The search runs along the edges between silent nodes, and no others. -/
theorem onLoop_silentNext_iff : OnLoop flow.silentNext id ↔ flow.OnSilentLoop id := by
  constructor
  · intro h
    -- Only the ends of edges are known to be silent, but on a loop the first node is one too.
    have hsilent : flow.IsSilentId id := by
      obtain ⟨last, -, hedge⟩ := TransGen.tail'_iff.1 h
      exact (follows_silentNext_iff.1 hedge).1
    have hway : ∀ b, TransGen (Follows flow.silentNext) id b →
        flow.IsSilentId b ∧ TransGen flow.SilentEdge id b := by
      intro b hb
      induction hb with
      | single hedge =>
        obtain ⟨hb, he⟩ := follows_silentNext_iff.1 hedge
        exact ⟨hb, .single ⟨hsilent, hb, he⟩⟩
      | tail _ hedge ih =>
        obtain ⟨hb, he⟩ := follows_silentNext_iff.1 hedge
        exact ⟨hb, ih.2.tail ⟨ih.1, hb, he⟩⟩
    exact (hway id h).2
  · intro h
    exact TransGen.mono (fun _ _ hedge => follows_silentNext_iff.2 hedge.2) id id h

/-- What the search finds lies on a loop, wherever it begins. -/
theorem onSilentLoop_of_mem_silentLoops (h : id ∈ flow.silentLoops order) :
    flow.OnSilentLoop id :=
  onLoop_silentNext_iff.1 (searchFrom_onLoop (fun _ hx => (List.not_mem_nil hx).elim) id h)

/-- A flow in which the search finds nothing has no loop of silent nodes. -/
theorem not_onSilentLoop_of_silentLoops_eq_nil (horder : order.Perm flow.silentIds)
    (hnone : flow.silentLoops order = []) : ¬flow.OnSilentLoop id := by
  intro hloop
  have hclosed : ∀ a c, Follows flow.silentNext a c → c ∈ order := fun a c hc =>
    horder.mem_iff.2 (mem_silentIds_iff.2 (follows_silentNext_iff.1 hc).1)
  have hloop' := onLoop_silentNext_iff.2 hloop
  obtain ⟨last, -, hedge⟩ := TransGen.tail'_iff.1 hloop'
  have hfinished := finished_of_searchFrom hclosed (horder.nodup_iff.2 nodup_silentIds)
    ⟨trivial, fun x hx => Or.inl hx⟩ (fun x hx => hx) hnone id (hclosed last id hedge)
  exact hfinished.not_onLoop hloop'

/-- The check for loops is exact, in whatever order it begins at the silent nodes: it warns about a
flow if and only if edges between silent nodes close a loop, and the nodes that it names lie on
such loops. Ids may be repeated, and edges may lead nowhere. -/
theorem checkLoopsIn_exact (flow : Flow) {order : List String}
    (horder : order.Perm flow.silentIds) :
    ((flow.checkLoopsIn order).warnings ≠ [] ↔ ∃ id, flow.OnSilentLoop id) ∧
      ∀ p ∈ (flow.checkLoopsIn order).warnings,
        ∃ id, p = .silentLoop id ∧ flow.OnSilentLoop id := by
  have hsound : ∀ p ∈ (flow.checkLoopsIn order).warnings,
      ∃ id, p = .silentLoop id ∧ flow.OnSilentLoop id := by
    intro p hp
    obtain ⟨id, hid, rfl⟩ := List.mem_map.1 hp
    exact ⟨id, rfl, onSilentLoop_of_mem_silentLoops hid⟩
  refine ⟨⟨fun hwarned => ?_, fun ⟨id, hloop⟩ hnone => ?_⟩, hsound⟩
  · obtain ⟨p, hp⟩ := List.exists_mem_of_ne_nil _ hwarned
    obtain ⟨id, -, hloop⟩ := hsound p hp
    exact ⟨id, hloop⟩
  · exact not_onSilentLoop_of_silentLoops_eq_nil horder (List.map_eq_nil_iff.1 hnone) hloop

/-- Two assignments that lead to each other, and a third that leads to both and to no node. -/
private def roundabout : Flow where
  nodes :=
    [{ id := "west", config := .setVariable {} }, { id := "east", config := .setVariable {} },
     { id := "approach", config := .setVariable {} }]
  edges :=
    [{ source := "west", target := "east" }, { source := "east", target := "west" },
     { source := "approach", target := "east" }, { source := "approach", target := "nowhere" }]

theorem checkLoopsIn_roundabout :
    let order := ["approach", "east", "west"]
    order.Perm roundabout.silentIds ∧
      ((roundabout.checkLoopsIn order).warnings ≠ [] ↔ ∃ id, roundabout.OnSilentLoop id) ∧
      ∀ p ∈ (roundabout.checkLoopsIn order).warnings,
        ∃ id, p = .silentLoop id ∧ roundabout.OnSilentLoop id := by
  have horder : ["approach", "east", "west"].Perm roundabout.silentIds := by decide
  exact ⟨horder, checkLoopsIn_exact roundabout horder⟩

end Flow

end CallFlow
