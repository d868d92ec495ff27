import CallFlow.Proofs.Validation.Reachability
import CallFlow.Proofs.Validation.Report

namespace CallFlow

open Relation

namespace Report

variable {a b r : Report} {rs : List Report} {p : Problem} {code : String}

/-- The errors of a kind. -/
def errorsOf (r : Report) (code : String) : List Problem := r.errors.filter fun p => p.code = code

@[simp] theorem errorsOf_append : (a ++ b).errorsOf code = a.errorsOf code ++ b.errorsOf code :=
  List.filter_append _ _

/-- The errors of a kind are collected from all reports. -/
theorem errorsOf_join : (join rs).errorsOf code = rs.flatMap fun r => r.errorsOf code := by
  induction rs with
  | nil => rfl
  | cons r rs ih =>
    have hjoin : join (r :: rs) = r ++ join rs := rfl
    rw [hjoin, errorsOf_append, ih, List.flatMap_cons]

/-- A requirement reports its problem if it is not met. -/
theorem errorsOf_require (holds : Bool) :
    (require holds p).errorsOf code = if holds = false ∧ p.code = code then [p] else [] := by
  cases holds <;> simp [require, errorsOf, List.filter_cons]

theorem errorsOf_eq_nil (h : ∀ p ∈ r.errors, p.code ≠ code) : r.errorsOf code = [] := by
  simpa [errorsOf] using h

end Report

open Report

namespace Flow

variable {flow : Flow}

theorem orphans_checkStarts : flow.checkStarts.errorsOf "ORPHANED_NODE" = [] := by
  refine errorsOf_eq_nil fun p hp => ?_
  unfold checkStarts at hp
  split at hp
  · cases List.mem_singleton.1 hp
    decide
  · obtain ⟨n, -, rfl⟩ := List.mem_map.1 hp
    simp [Problem.code]

theorem orphans_checkIds : flow.checkIds.errorsOf "ORPHANED_NODE" = [] := by
  refine errorsOf_eq_nil fun p hp => ?_
  obtain ⟨entry, -, rfl⟩ := List.mem_map.1 hp
  simp [Problem.code]

theorem orphans_checkEdges {ids : List String} {es : List Edge} {seen : List (String × String)} :
    (checkEdges ids es seen).errorsOf "ORPHANED_NODE" = [] := by
  induction es generalizing seen with
  | nil => rfl
  | cons e es ih =>
    unfold checkEdges
    dsimp only
    split
    · simp [errorsOf_require, Problem.code, ih]
    · rw [errorsOf_append, ih, List.append_nil]
      exact errorsOf_eq_nil fun p hp => List.mem_singleton.1 hp ▸ by simp [Problem.code]

theorem orphans_checkTransitions {node : String} {ts : List Transition} :
    (flow.checkTransitions node ts).errorsOf "ORPHANED_NODE" = [] := by
  rw [checkTransitions, errorsOf_join, List.flatMap_eq_nil_iff]
  intro r hr
  obtain ⟨index, hindex, rfl⟩ := List.mem_mapIdx.1 hr
  unfold checkTransition
  split
  · simp [errorsOf, Problem.code]
  · split <;> rfl

theorem orphans_checkSettings {n : Node} :
    (flow.checkSettings n).errorsOf "ORPHANED_NODE" = [] := by
  unfold checkSettings
  cases n.config with
  | unknown kind raw => rfl
  | conversation c => simp [errorsOf_require, Problem.code, orphans_checkTransitions]
  | function c => simp [errorsOf_require, Problem.code, orphans_checkTransitions]
  | transfer c => simp [errorsOf_require, Problem.code]
  | start c => rfl
  | finish c => rfl
  | setVariable c =>
    have hassignments : (join (c.assignments.mapIdx fun i a => require (!blankText a.target)
        (.unnamedAssignment n.id i))).errorsOf "ORPHANED_NODE" = [] := by
      rw [errorsOf_join, List.flatMap_eq_nil_iff]
      intro r hr
      obtain ⟨index, hindex, rfl⟩ := List.mem_mapIdx.1 hr
      simp [errorsOf_require, Problem.code]
    simp [errorsOf_require, Problem.code, hassignments]

theorem orphans_checkVariables : flow.checkVariables.errorsOf "ORPHANED_NODE" = [] := by
  refine errorsOf_eq_nil fun p hp => ?_
  obtain ⟨entry, -, rfl⟩ := List.mem_map.1 hp
  simp [Problem.code]

/-- No path of edges leads to a node from a start, and it is none itself. -/
def Orphaned (flow : Flow) (start n : Node) : Prop :=
  ¬n.config.isStart ∧ ¬ReflTransGen (Joined flow.edges) start.id n.id

instance (start : Node) : DecidablePred (flow.Orphaned start) := fun n =>
  haveI : Decidable (ReflTransGen (Joined flow.edges) start.id n.id) :=
    decidable_of_iff _ mem_reachableFrom_iff
  inferInstanceAs (Decidable (_ ∧ _))

/-- A node without a path from the start is reported. -/
theorem orphans_checkConnections (start n : Node) :
    (flow.checkConnections (some (flow.reachableFrom start.id)) n).errorsOf "ORPHANED_NODE" =
      if flow.Orphaned start n then [.orphaned n] else [] := by
  rw [checkConnections, errorsOf_append, errorsOf_require, errorsOf_require]
  simp [Problem.code, Orphaned, ← mem_reachableFrom_iff]

/-- The nodes without a path from the start are reported, and no others. -/
theorem orphans_checkStructure {start : Node} (hstart : flow.starts.head? = some start) :
    flow.checkStructure.errorsOf "ORPHANED_NODE" =
      (flow.nodes.filter fun n => flow.Orphaned start n).map .orphaned := by
  have hconnections : ∀ ns : List Node,
      (ns.flatMap fun n => (flow.checkConnections (some (flow.reachableFrom start.id)) n).errorsOf
        "ORPHANED_NODE") = (ns.filter fun n => flow.Orphaned start n).map .orphaned := by
    intro ns
    induction ns with
    | nil => rfl
    | cons n ns ih =>
      rw [List.flatMap_cons, ih, orphans_checkConnections, List.filter_cons]
      by_cases h : flow.Orphaned start n <;> simp [h]
  simp only [checkStructure, errorsOf_append, hstart, Option.map_some, orphans_checkStarts,
    orphans_checkIds, orphans_checkEdges, errorsOf_join, List.flatMap_map, hconnections,
    List.nil_append]

/-- The search for what is reached from a start comes to its end after one turn more than there are
edges, at the most, and finds exactly the ids to which a path of edges leads. So the errors report
as orphaned each node that is no start and to which none leads, as often as it is listed and in that
order, and no other; and no warning does. -/
theorem orphans_exact (flow : Flow) {start : Node} (hstart : flow.starts.head? = some start) :
    (∃ turns ≤ flow.edges.length + 1,
      flow.advance^[turns] ([start.id], [start.id]) = ([], flow.reachableFrom start.id)) ∧
    (∀ id, id ∈ flow.reachableFrom start.id ↔
      ReflTransGen (Joined flow.edges) start.id id) ∧
    flow.validate.errorsOf "ORPHANED_NODE" =
      (flow.nodes.filter fun n => flow.Orphaned start n).map .orphaned ∧
    ∀ p ∈ flow.validate.warnings, p.code ≠ "ORPHANED_NODE" := by
  refine ⟨exists_iterate_advance_of_start flow start.id, fun id => mem_reachableFrom_iff, ?_, ?_⟩
  · have hsettings : (join (flow.nodes.map flow.checkSettings)).errorsOf "ORPHANED_NODE" = [] := by
      rw [errorsOf_join, List.flatMap_eq_nil_iff, List.forall_mem_map]
      exact fun n _ => orphans_checkSettings
    have hloops : (flow.checkLoopsIn flow.silentIds).errorsOf "ORPHANED_NODE" = [] := rfl
    simp only [validate, validateIn, errorsOf_append, orphans_checkStructure hstart, hsettings,
      orphans_checkVariables, hloops, List.append_nil]
  · intro p hp
    obtain ⟨n, -, hn⟩ | hp | hp | ⟨id, -, rfl⟩ := mem_warnings_validateIn.1 hp
    · obtain ⟨kind, rfl⟩ | ⟨index, handle, rfl⟩ := mem_warnings_checkSettings hn <;>
        simp [Problem.code]
    · obtain ⟨reader, -, rfl⟩ := List.mem_map.1 hp
      simp [Problem.code]
    · obtain ⟨name, -, rfl⟩ := List.mem_map.1 hp
      simp [Problem.code]
    · simp [Problem.code]

/-- Two nodes that lead to each other and to nowhere else, one of them listed twice, and a third to
which an edge leads from an id that is no node's. -/
private def detached : Flow where
  nodes :=
    [{ id := "begin", config := .start {} }, { id := "bye", config := .finish {} },
     { id := "ping", config := .setVariable {} }, { id := "pong", config := .setVariable {} },
     { id := "pong", config := .setVariable {} }, { id := "far", config := .finish {} }]
  edges :=
    [{ source := "begin", target := "bye" }, { source := "ping", target := "pong" },
     { source := "pong", target := "ping" }, { source := "begin", target := "nowhere" },
     { source := "nowhere", target := "far" }, { source := "begin", target := "begin" }]

theorem orphans_detached :
    detached.starts.head? = some { id := "begin", config := .start {} } ∧
      (detached.validate.errorsOf "ORPHANED_NODE").map Problem.node? =
        [some "ping", some "pong", some "pong"] := by
  have hstart : detached.starts.head? = some { id := "begin", config := .start {} } := rfl
  obtain ⟨-, -, hreported, -⟩ := orphans_exact detached hstart
  refine ⟨hstart, ?_⟩
  rw [hreported, List.map_map]
  decide +kernel

end Flow

end CallFlow
