import CallFlow.Proofs.Turn.Hops
import CallFlow.Proofs.Turn.Walk
import CallFlow.Proofs.Validation.Loops

namespace CallFlow

open Relation

namespace Flow

variable {flow : Flow} {a b : String}

/-- An edge leads on from a silent node, to any node or none. -/
def SilentHop (flow : Flow) (a b : String) : Prop :=
  flow.IsSilentId a ∧ ∃ e ∈ flow.edges, e.source = a ∧ e.target = b

/-- Hops that lead to a silent node run between silent nodes all the way. -/
theorem transGen_silentEdge (h : TransGen flow.SilentHop a b) (hb : flow.IsSilentId b) :
    TransGen flow.SilentEdge a b := by
  induction h with
  | single hop => exact .single ⟨hop.1, hb, hop.2⟩
  | tail _ hop ih => exact (ih hop.1).tail ⟨hop.1, hb, hop.2⟩

/-- Hops that lead back close a loop of silent nodes. -/
theorem onSilentLoop_of_hops (h : TransGen flow.SilentHop a a) : flow.OnSilentLoop a := by
  obtain ⟨_, hop, -⟩ := TransGen.head'_iff.1 h
  exact transGen_silentEdge h hop.1

/-- A path of hops comes to no node twice unless silent nodes form a loop. -/
theorem nodup_of_isChain_silentHop {ids : List String} (hchain : ids.IsChain flow.SilentHop)
    (hacyclic : ∀ id, ¬flow.OnSilentLoop id) : ids.Nodup := by
  have hpairs : ids.Pairwise (TransGen flow.SilentHop) :=
    List.isChain_iff_pairwise.1 (hchain.imp fun _ _ hop => .single hop)
  refine hpairs.imp ?_
  rintro x _ hway rfl
  exact hacyclic x (onSilentLoop_of_hops hway)

end Flow

/-- The nodes that a walk ran form a path of hops from where it began. A walk that was cut off ran
one node more than it had hops, all of them silent. -/
structure Walk.Hops (flow : Flow) (hops : Nat) (id : String) (w : Walk) : Prop where
  path : w.visited.IsChain flow.SilentHop
  begins : ∀ x ∈ w.visited.head?, x = id
  cut : w.ending = .cut → w.visited.length = hops + 1 ∧ ∀ x ∈ w.visited, flow.IsSilentId x

namespace Turn

variable {t : Turn}

/-- A walk runs nodes along a path of silent hops, as long as its hops allow. -/
theorem walk_hops (hops : Nat) (id : String) (b : Bindings) :
    (t.walk hops id b).Always (Walk.Hops t.flow hops id) := by
  induction hops using Nat.strongRecOn generalizing id b with
  | ind hops ih =>
    cases hnode : t.flow.node? id with
    | none =>
      rw [walk_missing t hnode]
      exact ⟨.nil, nofun, nofun⟩
    | some n =>
      obtain ⟨hmem, rfl, -⟩ := Flow.mem_nodes_of_node? hnode
      rw [walk_node t hnode]
      refine runNode_hopsSilently.bind ?_
      rintro ⟨step, after⟩ hstep
      have hsingle : ∀ x ∈ [n.id].head?, x = n.id := fun x hx => (Option.some.inj hx).symm
      cases step with
      | failed => exact ⟨.singleton _, hsingle, nofun⟩
      | reply response move => exact ⟨.singleton _, hsingle, nofun⟩
      | hop next =>
        obtain ⟨hsilent, hedge⟩ := hstep next rfl
        have hid : t.flow.IsSilentId n.id := ⟨n, hmem, rfl, hsilent⟩
        cases hops with
        | zero =>
          refine ⟨.singleton _, hsingle, fun _ => ⟨rfl, fun x hx => ?_⟩⟩
          exact List.mem_singleton.1 hx ▸ hid
        | succ hops =>
          refine (ih hops (Nat.lt_succ_self hops) next after).bind fun w hw => ⟨?_, hsingle, ?_⟩
          · exact List.isChain_cons.2 ⟨fun x hx => hw.begins x hx ▸ ⟨hid, hedge⟩, hw.path⟩
          · intro hcut
            obtain ⟨hlength, hsilents⟩ := hw.cut hcut
            exact ⟨congrArg (· + 1) hlength, List.forall_mem_cons.2 ⟨hid, hsilents⟩⟩

/-- A turn of a flow that is not warned about for a loop runs no node twice and is never cut off,
if it may hop as often as the flow has silent nodes, where nodes of one id count as one. It does not
matter in what order the check came to the silent nodes, nor what the world replies. -/
theorem run_uncut (t : Turn) {order : List String} (horder : order.Perm t.flow.silentIds)
    (hloops : ∀ id, .silentLoop id ∉ (t.flow.validateIn order).warnings)
    (hhops : (t.flow.silentIds.length : Int) ≤ t.settings.engine.maxHops)
    (id : String) (b : Bindings) (s : Script) :
    ((t.run id b).run s).1.visited.Nodup ∧ ((t.run id b).run s).1.ending ≠ .cut := by
  have hnone : t.flow.silentLoops order = [] := by
    refine List.eq_nil_iff_forall_not_mem.2 fun id hid => hloops id ?_
    exact Flow.silentLoop_mem_warnings_iff.2 hid
  have hacyclic : ∀ id, ¬t.flow.OnSilentLoop id := fun id =>
    Flow.not_onSilentLoop_of_silentLoops_eq_nil horder hnone
  have hwalk : Walk.Hops t.flow t.settings.engine.hops id ((t.run id b).run s).1 :=
    (walk_hops t.settings.engine.hops id b).run s
  have hnodup := Flow.nodup_of_isChain_silentHop hwalk.path hacyclic
  refine ⟨hnodup, fun hcut => ?_⟩
  obtain ⟨hlength, hsilents⟩ := hwalk.cut hcut
  have hbound := hnodup.length_le_of_subset fun x hx => Flow.mem_silentIds_iff.2 (hsilents x hx)
  have hallowed : t.flow.silentIds.length ≤ t.settings.engine.hops := by
    rw [EngineSettings.hops]
    omega
  omega

/-- A flow that counts, asks and counts again: its only loop leads through a question. -/
private def surveyFlow : Flow where
  nodes :=
    [{ id := "begin", config := .start {} },
     { id := "count", config := .setVariable
        { assignments := [{ target := "n", value := "1", operation := .increment }] } },
     { id := "ask", config := .conversation { content := { text := "Next?" } } }]
  edges :=
    [{ source := "begin", target := "count" }, { source := "count", target := "ask" },
     { source := "ask", target := "count" }, { source := "ask", target := "nowhere" }]

theorem run_surveyFlow_uncut :
    let t : Turn := ⟨{ engine := { maxHops := 2 } }, surveyFlow, "", []⟩
    let order := ["count", "begin"]
    order.Perm surveyFlow.silentIds ∧
      (∀ id, .silentLoop id ∉ (surveyFlow.validateIn order).warnings) ∧
      (surveyFlow.silentIds.length : Int) ≤ t.settings.engine.maxHops ∧
      ((t.run "begin" []).run {}).1.visited.Nodup ∧
      ((t.run "begin" []).run {}).1.ending ≠ .cut := by
  intro t order
  have horder : order.Perm surveyFlow.silentIds := by decide
  have hnone : surveyFlow.silentLoops order = [] := by cbv
  have hloops : ∀ id, .silentLoop id ∉ (surveyFlow.validateIn order).warnings := by
    intro id hwarned
    have hid := Flow.silentLoop_mem_warnings_iff.1 hwarned
    rw [hnone] at hid
    cases hid
  have hhops : (surveyFlow.silentIds.length : Int) ≤ t.settings.engine.maxHops := by decide
  exact ⟨horder, hloops, hhops, run_uncut t horder hloops hhops "begin" [] {}⟩

end Turn

end CallFlow
