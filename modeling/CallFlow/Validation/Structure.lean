import CallFlow.Validation.Problem

namespace CallFlow

/-- The texts of a list in the order of their first occurrence, with the number of times that
each occurs. -/
def tally (names : List String) : List (String × Nat) :=
  names.eraseDups.map fun n => (n, names.count n)

/-- Without repetitions nothing is repeated. -/
theorem nodup_eraseDups (ids : List String) : ids.eraseDups.Nodup := by
  induction hlength : ids.length using Nat.strongRecOn generalizing ids with
  | ind n ih =>
    cases ids with
    | nil => exact List.nodup_nil
    | cons id ids =>
      have hle : (ids.filter fun other => !other == id).length ≤ ids.length :=
        List.length_filter_le _ ids
      rw [List.length_cons] at hlength
      rw [List.eraseDups_cons]
      refine List.nodup_cons.2 ⟨fun hmem => ?_, ih _ (by omega) _ rfl⟩
      simp at hmem

/-- Leaving repetitions out makes a list no longer. -/
theorem length_eraseDups_le (ids : List String) : ids.eraseDups.length ≤ ids.length := by
  induction hlength : ids.length using Nat.strongRecOn generalizing ids with
  | ind n ih =>
    cases ids with
    | nil => exact Nat.zero_le n
    | cons id ids =>
      have hle : (ids.filter fun other => !other == id).length ≤ ids.length :=
        List.length_filter_le _ ids
      rw [List.length_cons] at hlength
      rw [List.eraseDups_cons, List.length_cons]
      have hrest := ih _ (Nat.lt_of_le_of_lt hle (by omega)) _ rfl
      omega

namespace Flow

variable (flow : Flow)

/-- The ids of the nodes. -/
def ids : List String := flow.nodes.map Node.id

/-- The nodes where a call may begin. -/
def starts : List Node := flow.nodes.filter fun n => n.config.isStart

/-- The ids not seen so far to which edges from an id lead, each once, in the order of the edges. -/
def discoveries (seen : List String) (id : String) : List String :=
  (((flow.outgoing id).map Edge.target).filter fun t => !seen.contains t).eraseDups

/-- What is discovered follows and was not seen before. -/
theorem mem_discoveries_iff {flow : Flow} {seen : List String} {id target : String} :
    target ∈ flow.discoveries seen id ↔
      (∃ e ∈ flow.edges, e.source = id ∧ e.target = target) ∧ target ∉ seen := by
  simp [discoveries, outgoing, and_assoc]

/-- The edges that lead to ids not seen so far. -/
def unexplored (seen : List String) : List Edge :=
  flow.edges.filter fun e => !seen.contains e.target

/-- Whatever is discovered explores an edge of its own. -/
theorem length_discoveries_add_le (flow : Flow) (seen : List String) (id : String) :
    (flow.discoveries seen id).length +
      (flow.unexplored (seen ++ flow.discoveries seen id)).length ≤
        (flow.unexplored seen).length := by
  have hfound : (flow.discoveries seen id).length ≤
      (flow.unexplored seen).countP fun e => e.source = id := by
    refine Nat.le_trans (length_eraseDups_le _) (Nat.le_of_eq ?_)
    simp only [outgoing, unexplored, List.filter_map, List.length_map, List.filter_filter,
      List.countP_eq_length_filter, Function.comp_def, Bool.and_comm]
  have hleft : (flow.unexplored (seen ++ flow.discoveries seen id)).length ≤
      (flow.unexplored seen).countP fun e => ¬e.source = id := by
    rw [unexplored, unexplored, ← List.countP_eq_length_filter, List.countP_filter]
    refine List.countP_mono_left fun e he hunseen => ?_
    have hunseen : e.target ∉ seen ∧ e.target ∉ flow.discoveries seen id := by
      simpa using hunseen
    have hother : e.source ≠ id := fun hsource =>
      hunseen.2 (mem_discoveries_iff.2 ⟨⟨e, he, hsource, rfl⟩, hunseen.1⟩)
    simp [hother, hunseen.1]
  rw [List.length_eq_countP_add_countP (l := flow.unexplored seen) fun e => e.source = id]
  simpa using Nat.add_le_add hfound hleft

/-- Searches breadth first along edges from the ids of a queue. Whatever is discovered is seen from
then on and joins the queue, so no id joins it twice. -/
def explore (queue seen : List String) : List String :=
  match queue with
  | [] => seen
  | id :: rest =>
    let found := flow.discoveries seen id
    explore (rest ++ found) (seen ++ found)
termination_by queue.length + (flow.unexplored seen).length
decreasing_by
  have hle := length_discoveries_add_le flow seen id
  rw [List.length_append, List.length_cons]
  omega

/-- The ids that are reached from a node along edges, the node's own among them. -/
def reachableFrom (id : String) : List String := flow.explore [id] [id]

/-- All start nodes but one are too many. -/
def checkStarts : Report :=
  match flow.starts with
  | [] => { errors := [.noStart] }
  | _ :: rest => { errors := rest.map fun n => .secondStart n.id }

/-- Every id belongs to one node. -/
def checkIds : Report :=
  { errors := ((tally flow.ids).filter fun p => p.2 > 1).map fun p => .duplicateNode p.1 p.2 }

/-- Every edge joins two nodes and no other leaves its source by the same handle. `seen` are the
exits of the edges before. -/
def checkEdges (ids : List String) : List Edge → List (String × String) → Report
  | [], _ => {}
  | e :: rest, seen =>
    let hasSource := ids.contains e.source
    if hasSource && ids.contains e.target then
      let exit := (e.source, e.handle)
      .require (!seen.contains exit) (.duplicateHandle e.source e.handle)
        ++ checkEdges ids rest (exit :: seen)
    else { errors := [.danglingEdge e hasSource] } ++ checkEdges ids rest seen

/-- The node is reached from the first start node, if there is one, and is left by an edge. -/
def checkConnections (reachable : Option (List String)) (n : Node) : Report :=
  .require (n.config.isStart || reachable.all fun ids => ids.contains n.id) (.orphaned n)
    ++ .require (n.config.isTerminal || flow.edges.any fun e => e.source = n.id) (.noExit n)

/-- All checks of nodes and edges. -/
def checkStructure : Report :=
  let reachable := flow.starts.head?.map fun n => flow.reachableFrom n.id
  flow.checkStarts ++ flow.checkIds ++ checkEdges flow.ids flow.edges []
    ++ .join (flow.nodes.map (flow.checkConnections reachable))

end Flow

end CallFlow
