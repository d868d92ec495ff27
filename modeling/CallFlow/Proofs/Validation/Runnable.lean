import CallFlow.Proofs.Validation.Reachability
import CallFlow.Proofs.Validation.Report
import Mathlib.Data.List.Nodup

namespace CallFlow

open Relation

namespace Report

variable {a b : Report} {rs : List Report} {p : Problem} {holds : Bool}

theorem errors_append_eq_nil : (a ++ b).errors = [] ↔ a.errors = [] ∧ b.errors = [] :=
  List.append_eq_nil_iff

theorem errors_require_eq_nil : (require holds p).errors = [] ↔ holds := by
  cases holds <;> simp [require]

/-- Reports are free of errors together if each of them is. -/
theorem errors_join_eq_nil : (join rs).errors = [] ↔ ∀ r ∈ rs, r.errors = [] := by
  induction rs with
  | nil => simp [join]
  | cons r rs ih =>
    have hjoin : join (r :: rs) = r ++ join rs := rfl
    rw [hjoin, errors_append_eq_nil, ih, List.forall_mem_cons]

end Report

open Report

/-- Nothing occurs twice if the tally shows nothing twice. -/
theorem filter_tally_eq_nil_iff {names : List String} :
    (tally names).filter (fun p => p.2 > 1) = [] ↔ names.Nodup := by
  rw [List.nodup_iff_count_le_one, List.filter_eq_nil_iff]
  constructor
  · intro h name
    by_cases hname : name ∈ names
    · have hmem : (name, names.count name) ∈ tally names :=
        List.mem_map.2 ⟨name, List.mem_eraseDups.2 hname, rfl⟩
      have hcount := h _ hmem
      simp only [gt_iff_lt, decide_eq_true_eq] at hcount
      omega
    · simp [List.count_eq_zero_of_not_mem hname]
  · intro h p hp
    obtain ⟨name, -, rfl⟩ := List.mem_map.1 hp
    have hcount := h name
    simp only [gt_iff_lt, decide_eq_true_eq]
    omega

/-- The node that an edge leaves, and the handle by which it leaves. -/
def Edge.exit (e : Edge) : String × String := (e.source, e.handle)

namespace Flow

variable {flow : Flow}

/-- Nothing keeps a flow from being run. -/
structure Runnable (flow : Flow) : Prop where
  start : flow.starts.length = 1
  ids : flow.ids.Nodup
  joined : ∀ e ∈ flow.edges, e.source ∈ flow.ids ∧ e.target ∈ flow.ids
  exits : (flow.edges.map Edge.exit).Nodup
  reached : ∀ s ∈ flow.starts, ∀ n ∈ flow.nodes,
    n.config.isStart ∨ ReflTransGen (Joined flow.edges) s.id n.id
  left : ∀ n ∈ flow.nodes, n.config.isTerminal ∨ ∃ e ∈ flow.edges, e.source = n.id
  settings : ∀ n ∈ flow.nodes, (flow.checkSettings n).errors = []
  declared : flow.declared.Nodup

/-- There is no error about the start exactly if there is one start. -/
theorem errors_checkStarts_eq_nil : flow.checkStarts.errors = [] ↔ flow.starts.length = 1 := by
  unfold checkStarts
  cases flow.starts with
  | nil => simp
  | cons n rest => cases rest <;> simp

/-- There is no error about ids exactly if they differ. -/
theorem errors_checkIds_eq_nil : flow.checkIds.errors = [] ↔ flow.ids.Nodup := by
  rw [checkIds, List.map_eq_nil_iff, filter_tally_eq_nil_iff]

/-- There is no error about edges exactly if they join nodes and leave by exits that differ. -/
theorem errors_checkEdges_eq_nil {ids : List String} {es : List Edge}
    {seen : List (String × String)} :
    (checkEdges ids es seen).errors = [] ↔ (∀ e ∈ es, e.source ∈ ids ∧ e.target ∈ ids) ∧
      (es.map Edge.exit).Nodup ∧ ∀ e ∈ es, e.exit ∉ seen := by
  -- over the edges that are left, with the exits of those before in `seen`
  induction es generalizing seen with
  | nil => simp [checkEdges]
  | cons e es ih =>
    unfold checkEdges
    dsimp only
    split
    · rename_i hends
      simp only [Bool.and_eq_true, List.contains_iff_mem] at hends
      rw [errors_append_eq_nil, errors_require_eq_nil, ih]
      have hfresh : (!seen.contains (e.source, e.handle)) ↔ e.exit ∉ seen := by
        simp [Edge.exit]
      have hrest : (∀ x ∈ es, x.exit ∉ (e.source, e.handle) :: seen) ↔
          e.exit ∉ es.map Edge.exit ∧ ∀ x ∈ es, x.exit ∉ seen := by
        simp only [List.mem_cons, List.mem_map, Edge.exit]
        grind
      rw [hfresh, hrest, List.forall_mem_cons, List.forall_mem_cons, List.map_cons, List.nodup_cons]
      tauto
    · rename_i hends
      simp only [Bool.and_eq_true, List.contains_iff_mem] at hends
      refine iff_of_false (by simp) fun h => hends (h.1 e List.mem_cons_self)

/-- There is no error about a node's place exactly if it can be reached and left. -/
theorem errors_checkConnections_eq_nil {start : Node} {n : Node} :
    (flow.checkConnections (some (flow.reachableFrom start.id)) n).errors = [] ↔
      (n.config.isStart ∨ ReflTransGen (Joined flow.edges) start.id n.id) ∧
        (n.config.isTerminal ∨ ∃ e ∈ flow.edges, e.source = n.id) := by
  rw [checkConnections, errors_append_eq_nil, errors_require_eq_nil, errors_require_eq_nil]
  simp [mem_reachableFrom_iff]

/-- Without errors the flow can be run, and the other way round, whatever the order in which loops
are searched for. -/
theorem errors_validateIn_eq_nil_iff {order : List String} :
    (flow.validateIn order).errors = [] ↔ flow.Runnable := by
  have hsplit : (flow.validateIn order).errors = [] ↔
      (((flow.starts.length = 1 ∧ flow.ids.Nodup) ∧
        (checkEdges flow.ids flow.edges []).errors = []) ∧
        ∀ n ∈ flow.nodes, (flow.checkConnections
          (flow.starts.head?.map fun n => flow.reachableFrom n.id) n).errors = []) ∧
      (∀ n ∈ flow.nodes, (flow.checkSettings n).errors = []) ∧ flow.declared.Nodup := by
    simp only [validateIn, checkStructure, errors_append_eq_nil, errors_checkStarts_eq_nil,
      errors_checkIds_eq_nil, errors_join_eq_nil, List.forall_mem_map, checkVariables,
      List.map_eq_nil_iff, filter_tally_eq_nil_iff, checkLoopsIn, and_true]
    tauto
  rw [hsplit, errors_checkEdges_eq_nil]
  constructor
  · rintro ⟨⟨⟨⟨hstart, hids⟩, hjoined, hexits, -⟩, hconnected⟩, hsettings, hdeclared⟩
    obtain ⟨start, hstarts⟩ := List.length_eq_one_iff.1 hstart
    have hconnected : ∀ n ∈ flow.nodes,
        (n.config.isStart ∨ ReflTransGen (Joined flow.edges) start.id n.id) ∧
          (n.config.isTerminal ∨ ∃ e ∈ flow.edges, e.source = n.id) := by
      intro n hn
      have hnone := hconnected n hn
      rw [hstarts] at hnone
      exact errors_checkConnections_eq_nil.1 hnone
    refine ⟨hstart, hids, hjoined, hexits, ?_, fun n hn => (hconnected n hn).2, hsettings,
      hdeclared⟩
    intro s hs n hn
    obtain rfl : s = start := by simpa [hstarts] using hs
    exact (hconnected n hn).1
  · intro h
    obtain ⟨start, hstarts⟩ := List.length_eq_one_iff.1 h.start
    refine ⟨⟨⟨⟨h.start, h.ids⟩, h.joined, h.exits, by simp⟩, ?_⟩, h.settings, h.declared⟩
    intro n hn
    rw [hstarts]
    refine errors_checkConnections_eq_nil.2 ⟨h.reached start ?_ n hn, h.left n hn⟩
    simp [hstarts]

/-- A flow is loaded if it can be read and, by a strict load, if no errors are found in it. -/
theorem load_eq_ok_iff {raw : Value} {strict : Bool} {f : Flow} :
    load raw strict = .ok f ↔ reader raw = .read f ∧ (strict → f.validate.isValid) := by
  unfold load
  cases reader raw with
  | refused issues => exact ⟨nofun, fun h => nomatch h.1⟩
  | read f' =>
    cases strict with
    | false => simp
    | true => cases hvalid : f'.validate.isValid <;> simp [hvalid] <;> grind

/-- A strict load lets no flow with errors through. -/
theorem errors_eq_nil_of_load {raw : Value} (h : Flow.load raw true = .ok flow) :
    flow.validate.errors = [] := by
  have hvalid : flow.validate.isValid := (load_eq_ok_iff.1 h).2 rfl
  simpa [Report.isValid] using hvalid

/-- The one start node is the first that is found. -/
theorem Runnable.exists_start (h : flow.Runnable) :
    ∃ start, flow.starts = [start] ∧ flow.entry? = some start.id := by
  obtain ⟨start, hstarts⟩ := List.length_eq_one_iff.1 h.start
  have hfound : flow.nodes.find? (fun n => n.config.isStart) = some start := by
    rw [← List.head?_filter]
    exact congrArg List.head? hstarts
  exact ⟨start, hstarts, by simp only [Flow.entry?, hfound]⟩

/-- The edges do not matter to errors about transitions. -/
theorem errors_checkTransitions_congr (flow other : Flow) (node : String) (ts : List Transition) :
    (flow.checkTransitions node ts).errors = [] ↔ (other.checkTransitions node ts).errors = [] := by
  have hindex : ∀ index t, (flow.checkTransition node index t).errors =
      (other.checkTransition node index t).errors := by
    intro index t
    unfold checkTransition
    split
    · rfl
    · split <;> split <;> rfl
  simp only [checkTransitions, errors_join_eq_nil, List.mem_mapIdx]
  grind

/-- The rest of the flow does not matter to errors about settings. -/
theorem errors_checkSettings_congr (flow other : Flow) (n : Node) :
    (flow.checkSettings n).errors = [] ↔ (other.checkSettings n).errors = [] := by
  unfold checkSettings
  cases n.config with
  | conversation c =>
    simp only [errors_append_eq_nil, errors_checkTransitions_congr flow other]
  | function c =>
    simp only [errors_append_eq_nil, errors_checkTransitions_congr flow other]
  | _ => exact Iff.rfl

end Flow

end CallFlow
