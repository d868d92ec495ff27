import CallFlow.Proofs.Bindings
import CallFlow.Proofs.Condition.Names
import CallFlow.Proofs.Model.Composed
import CallFlow.Proofs.Turn.Walk

namespace CallFlow

section

variable {c : NodeConfig} {reads : List String} (hc : c.reads ⊆ reads)
include hc

/-- Placeholders of a node's texts are read by the node. -/
theorem NodeConfig.names_text_subset {text : String} (h : text ∈ c.texts) :
    Template.names text ⊆ reads := by
  intro name hname
  exact hc (List.mem_append_left _ (List.mem_flatMap.2 ⟨text, h, hname⟩))

/-- Placeholders of a node's equations are read by the node. -/
theorem NodeConfig.names_condition_subset {tr : Transition} (h : tr ∈ c.transitions) :
    Template.names tr.condition ⊆ reads := by
  apply NodeConfig.names_text_subset hc
  cases c with
  | conversation c => exact List.mem_cons_of_mem _ (List.mem_map_of_mem h)
  | function c => exact List.mem_append_right _ (List.mem_map_of_mem h)
  | _ => cases h

end

/-- What a node of a flow reads, the flow reads. -/
theorem Flow.reads_node_subset {flow : Flow} {id : String} {n : Node} (h : flow.node? id = some n) :
    n.config.reads ⊆ flow.reads := by
  intro name hname
  exact List.mem_append_left _ (List.mem_flatMap.2 ⟨n, (Flow.mem_nodes_of_node? h).1, hname⟩)

/-- A relation between variables that the flow can not tell apart: what it reads is the same on
both sides, both can be listed for a language model or neither, and all stays so when the same name
is set to the same value. -/
structure Flow.Overlooks (flow : Flow) (R : Bindings → Bindings → Prop) : Prop where
  read {b other : Bindings} {name : String} :
    R b other → name ∈ flow.reads → b.getD name = other.getD name
  writable {b other : Bindings} : R b other → (b.IsWritable ↔ other.IsWritable)
  set {b other : Bindings} (name : String) (v : Value) :
    R b other → R (b.set name v) (other.set name v)

namespace Flow.Overlooks

variable {flow : Flow} {R : Bindings → Bindings → Prop} (h : flow.Overlooks R)
  {b other : Bindings} (hb : R b other)
include h hb

/-- A text of the flow is rendered alike from bindings that agree on what the flow reads. -/
theorem render_eq {text : String} (htext : Template.names text ⊆ flow.reads) :
    Template.render text b = Template.render text other :=
  Template.render_congr fun _ hname => h.read hb (htext hname)

/-- An equation of the flow is evaluated alike on bindings that agree on what the flow reads. -/
theorem evaluate_eq {text : String} (htext : Template.names text ⊆ flow.reads)
    (userInput : String) :
    Condition.evaluate text b userInput = Condition.evaluate text other userInput :=
  Condition.evaluate_congr userInput fun _ hname => h.read (h.set _ _ hb) (htext hname)

theorem update (new : Bindings) : R (b.update new) (other.update new) := by
  induction new generalizing b other with
  | nil => exact hb
  | cons entry rest ih => exact ih (h.set entry.1 entry.2 hb)

end Flow.Overlooks

namespace Bindings

/-- No name is bound twice on either side, and a value that can be written goes with one that
can. -/
structure WritableAlike (b other : Bindings) : Prop where
  isMap : b.IsMap
  isMap_other : other.IsMap
  values (name : String) : Json.isWritable Json.maxNesting (b.getD name) =
    Json.isWritable Json.maxNesting (other.getD name)

namespace WritableAlike

variable {b other : Bindings} (h : b.WritableAlike other)
include h

/-- Bindings that are alike are writable together. -/
theorem isWritable_iff : b.IsWritable ↔ other.IsWritable := by
  simp only [h.isMap.isWritable_iff, h.isMap_other.isWritable_iff, h.values]

theorem set (name : String) (v : Value) : (b.set name v).WritableAlike (other.set name v) where
  isMap := h.isMap.set name v
  isMap_other := h.isMap_other.set name v
  values n := by
    have hn := h.values n
    rw [getD, getD] at hn ⊢
    rw [get?_set, get?_set]
    split
    · rfl
    · exact hn

end WritableAlike

end Bindings

namespace Flow

variable {flow : Flow}

open Bindings

/-- A flow overlooks all that it does not read, as long as it can be written as well. -/
theorem overlooks_agreeOn_reads :
    flow.Overlooks fun b other => AgreeOn flow.reads b other ∧ WritableAlike b other where
  read hb hname := by rw [getD, getD, hb.1 _ hname]
  writable hb := hb.2.isWritable_iff
  set name v hb := ⟨hb.1.set name v, hb.2.set name v⟩

/-- A flow overlooks the value of a variable that it does not read, as long as it can be written as
well. -/
theorem overlooks_sameBut {name : String} (h : name ∉ flow.reads) :
    flow.Overlooks fun b other => SameBut name b other ∧ WritableAlike b other where
  read hb hname := by rw [getD, getD, hb.1.get? fun heq => h (heq ▸ hname)]
  writable hb := hb.2.isWritable_iff
  set other v hb := ⟨hb.1.set other v, hb.2.set other v⟩

end Flow

end CallFlow
