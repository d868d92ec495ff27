import CallFlow.Validation.Structure
import Mathlib.Logic.Function.Iterate
import Mathlib.Logic.Relation

namespace CallFlow

open Relation

namespace Flow

/-- Some edge leads from one id to another. -/
def Joined (edges : List Edge) (a b : String) : Prop := ∃ e ∈ edges, e.source = a ∧ e.target = b

variable {flow : Flow} {start id : String} {queue rest seen : List String}

/-- What holds all along a search from a start: whatever is seen is reached and was queued once, and
an edge is still to be followed only if its source is still in the queue. -/
structure Exploring (flow : Flow) (start : String) (queue seen : List String) : Prop where
  nodup : seen.Nodup
  begun : start ∈ seen
  queued : queue ⊆ seen
  reached : ∀ id ∈ seen, ReflTransGen (Joined flow.edges) start id
  followed : ∀ e ∈ flow.edges, e.source ∈ seen → e.source ∈ queue ∨ e.target ∈ seen

namespace Exploring

/-- The search begins at the start. -/
theorem initial (flow : Flow) (start : String) : flow.Exploring start [start] [start] where
  nodup := List.nodup_cons.2 ⟨List.not_mem_nil, List.nodup_nil⟩
  begun := List.mem_singleton_self start
  queued := List.Subset.refl _
  reached := by
    intro id hid
    rw [List.mem_singleton.1 hid]
  followed e _ hsource := Or.inl hsource

/-- Looking at one node keeps the search sound. -/
theorem step (h : flow.Exploring start (id :: rest) seen) :
    flow.Exploring start (rest ++ flow.discoveries seen id) (seen ++ flow.discoveries seen id) where
  nodup := by
    refine List.nodup_append.2 ⟨h.nodup, nodup_eraseDups _, fun a ha b hb hab => ?_⟩
    exact (mem_discoveries_iff.1 hb).2 (hab ▸ ha)
  begun := List.mem_append_left _ h.begun
  queued := by
    intro x hx
    obtain hrest | hfound := List.mem_append.1 hx
    · exact List.mem_append_left _ (h.queued (List.mem_cons_of_mem id hrest))
    · exact List.mem_append_right _ hfound
  reached := by
    intro x hx
    obtain hseen | hfound := List.mem_append.1 hx
    · exact h.reached x hseen
    · obtain ⟨hedge, -⟩ := mem_discoveries_iff.1 hfound
      exact (h.reached id (h.queued List.mem_cons_self)).tail hedge
  followed := by
    intro e he hsource
    obtain hseen | hfound := List.mem_append.1 hsource
    · obtain hqueued | htarget := h.followed e he hseen
      · obtain hid | hrest := List.mem_cons.1 hqueued
        · -- the edges of the id at the head are the ones that are followed now
          by_cases htarget : e.target ∈ seen
          · exact Or.inr (List.mem_append_left _ htarget)
          · have hfound := mem_discoveries_iff.2 ⟨⟨e, he, hid, rfl⟩, htarget⟩
            exact Or.inr (List.mem_append_right _ hfound)
        · exact Or.inl (List.mem_append_left _ hrest)
      · exact Or.inr (List.mem_append_left _ htarget)
    · exact Or.inl (List.mem_append_right _ hfound)

/-- A search that has come to its end has followed every edge. -/
theorem explore (h : flow.Exploring start queue seen) :
    flow.Exploring start [] (flow.explore queue seen) := by
  induction queue, seen using Flow.explore.induct flow with
  | case1 seen =>
    rw [Flow.explore]
    exact h
  | case2 seen id rest found ih =>
    rw [Flow.explore]
    exact ih h.step

/-- A search that ends has seen what can be reached. -/
theorem mem_iff (h : flow.Exploring start [] seen) :
    id ∈ seen ↔ ReflTransGen (Joined flow.edges) start id := by
  refine ⟨h.reached id, fun hpath => ?_⟩
  induction hpath with
  | refl => exact h.begun
  | tail _ hedge ih =>
    obtain ⟨e, he, rfl, rfl⟩ := hedge
    exact (h.followed e he ih).resolve_left List.not_mem_nil

end Exploring

/-- The search ends. -/
theorem reachableFrom_exploring (flow : Flow) (start : String) :
    flow.Exploring start [] (flow.reachableFrom start) :=
  (Exploring.initial flow start).explore

/-- What is found can be reached, and the other way round. -/
theorem mem_reachableFrom_iff :
    id ∈ flow.reachableFrom start ↔ ReflTransGen (Joined flow.edges) start id :=
  (reachableFrom_exploring flow start).mem_iff

/-- No id is queued twice. -/
theorem nodup_reachableFrom (flow : Flow) (start : String) : (flow.reachableFrom start).Nodup :=
  (reachableFrom_exploring flow start).nodup

/-- One turn of the loop: the id at the head of the queue is looked at. -/
def advance (flow : Flow) : List String × List String → List String × List String
  | ([], seen) => ([], seen)
  | (id :: rest, seen) => (rest ++ flow.discoveries seen id, seen ++ flow.discoveries seen id)

/-- The loop empties the queue, in as many turns at most as there are ids in it and edges left to
explore. -/
theorem exists_iterate_advance (flow : Flow) (queue seen : List String) :
    ∃ turns ≤ queue.length + (flow.unexplored seen).length,
      flow.advance^[turns] (queue, seen) = ([], flow.explore queue seen) := by
  induction queue, seen using Flow.explore.induct flow with
  | case1 seen =>
    refine ⟨0, Nat.zero_le _, ?_⟩
    rw [explore]
    rfl
  | case2 seen id rest found ih =>
    obtain ⟨turns, hle, hturns⟩ := ih
    have hexplored : found.length + (flow.unexplored (seen ++ found)).length ≤
        (flow.unexplored seen).length := length_discoveries_add_le flow seen id
    refine ⟨turns + 1, ?_, ?_⟩
    · rw [List.length_append] at hle
      rw [List.length_cons]
      omega
    · rw [explore, Function.iterate_succ_apply]
      exact hturns

/-- From one id the loop takes one turn more than there are edges at most. -/
theorem exists_iterate_advance_of_start (flow : Flow) (start : String) :
    ∃ turns ≤ flow.edges.length + 1,
      flow.advance^[turns] ([start], [start]) = ([], flow.reachableFrom start) := by
  obtain ⟨turns, hle, hturns⟩ := flow.exists_iterate_advance [start] [start]
  have hedges : (flow.unexplored [start]).length ≤ flow.edges.length := List.length_filter_le _ _
  rw [List.length_singleton] at hle
  exact ⟨turns, by omega, hturns⟩

end Flow

end CallFlow
