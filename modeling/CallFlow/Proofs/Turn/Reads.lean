import CallFlow.Proofs.Turn.Handler
import CallFlow.Proofs.Validation.Report

namespace CallFlow

namespace Turn

variable {t : Turn} {R : Bindings → Bindings → Prop} (h : t.flow.Overlooks R)
  {b other : Bindings} (hb : R b other)

/-- Both walks run the same nodes, end for the same reason, and give results that differ in
nothing but variables that the flow can not tell apart. -/
structure WalksAlike (R : Bindings → Bindings → Prop) (w w' : Walk) : Prop where
  response : w.result.response = w'.result.response
  move : w.result.move = w'.result.move
  bindings : R w.result.bindings w'.result.bindings
  visited : w.visited = w'.visited
  ending : w.ending = w'.ending

include h hb

/-- A walk goes the same way over bindings that the flow does not tell apart. -/
theorem walk_alike (hops : Nat) (id : String) :
    Dialogue.Alike (WalksAlike R) (t.walk hops id b) (t.walk hops id other) := by
  induction hops using Nat.strongRecOn generalizing id b other with
  | ind hops ih =>
    cases hnode : t.flow.node? id with
    | none =>
      rw [walk_missing t hnode, walk_missing t hnode]
      exact .done ⟨rfl, rfl, hb, rfl, rfl⟩
    | some n =>
      rw [walk_node t hnode, walk_node t hnode]
      refine (runNode_alike h hb (Flow.reads_node_subset hnode)).bind ?_
      rintro ⟨step, after⟩ ⟨_, after'⟩ ⟨rfl, hafter⟩
      change R after after' at hafter
      cases step with
      | failed => exact .done ⟨rfl, rfl, hafter, rfl, rfl⟩
      | reply response move => exact .done ⟨rfl, rfl, hafter, rfl, rfl⟩
      | hop next =>
        cases hops with
        | zero => exact .done ⟨rfl, rfl, hafter, rfl, rfl⟩
        | succ hops =>
          refine (ih hops (Nat.lt_succ_self hops) hafter next).bind fun w w' hw => .done ?_
          exact { hw with visited := congrArg (n.id :: ·) hw.visited }

omit h hb

/-- Two runs that look the same from outside: alike walks and the same requests to functions. All
that differs in the worlds they leave are logged instructions to a language model. -/
structure RunsAlike (R : Bindings → Bindings → Prop) (r r' : Walk × Script) : Prop where
  walks : WalksAlike R r.1 r'.1
  functions : r.2.functionCalls = r'.2.functionCalls
  worlds : r.2.unprompted = r'.2.unprompted

theorem RunsAlike.mono {R' : Bindings → Bindings → Prop} {r r' : Walk × Script}
    (hr : RunsAlike R r r') (himp : ∀ b other, R b other → R' b other) : RunsAlike R' r r' where
  walks := { hr.walks with bindings := himp _ _ hr.walks.bindings }
  functions := hr.functions
  worlds := hr.worlds

/-- A turn is run alike over bindings that the flow does not tell apart. -/
theorem run_alike (h : t.flow.Overlooks R) (hb : R b other) (id : String) (s : Script) :
    RunsAlike R ((t.run id b).run s) ((t.run id other).run s) := by
  obtain ⟨hwalks, hworlds⟩ := (walk_alike h hb t.settings.engine.hops id).run (s := s) rfl
  exact ⟨hwalks, Script.functionCalls_congr hworlds, hworlds⟩

/-- A flow that reads the price to set a total, and declares a note that nothing uses. -/
private def tollFlow : Flow where
  nodes :=
    [{ id := "begin", config := .start {} },
     { id := "add", config := .setVariable
        { assignments := [{ target := "total", value := "\x7b\x7bprice\x7d\x7d euro" }] } },
     { id := "end", config := .finish { speech := some { text := "\x7b\x7btotal\x7d\x7d" } } }]
  edges := [{ source := "begin", target := "add" }, { source := "add", target := "end" }]
  declarations := [{ name := "price" }, { name := "note" }]

end Turn

end CallFlow
