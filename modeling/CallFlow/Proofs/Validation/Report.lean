import CallFlow.Validation
import Mathlib.Logic.Basic

namespace CallFlow

namespace Report

variable {a b : Report} {rs : List Report} {p : Problem}

@[simp] theorem errors_append : (a ++ b).errors = a.errors ++ b.errors := rfl

@[simp] theorem warnings_append : (a ++ b).warnings = a.warnings ++ b.warnings := rfl

@[simp] theorem warnings_require (holds : Bool) : (require holds p).warnings = [] := by
  cases holds <;> rfl

/-- The warnings are collected from all reports. -/
theorem mem_warnings_join : p ∈ (join rs).warnings ↔ ∃ r ∈ rs, p ∈ r.warnings := by
  induction rs with
  | nil => simp [join]
  | cons r rs ih =>
    have hjoin : (join (r :: rs)).warnings = r.warnings ++ (join rs).warnings := rfl
    simp [hjoin, ih]

end Report

/-- Sorting drops no problem. -/
theorem mem_sortByMessage {p : Problem} {ps : List Problem} : p ∈ sortByMessage ps ↔ p ∈ ps :=
  List.mem_mergeSort

namespace Flow

variable {flow : Flow} {p : Problem}

private theorem warnings_checkEdges (ids : List String) (es : List Edge)
    (seen : List (String × String)) : (checkEdges ids es seen).warnings = [] := by
  induction es generalizing seen with
  | nil => rfl
  | cons e es ih =>
    unfold checkEdges
    dsimp only
    split <;> simp [ih]

/-- Edges and ids that do not fit together are errors. -/
theorem warnings_checkStructure : flow.checkStructure.warnings = [] := by
  have hstarts : flow.checkStarts.warnings = [] := by
    unfold checkStarts
    split <;> rfl
  have hconnections : ∀ reachable,
      (Report.join (flow.nodes.map (flow.checkConnections reachable))).warnings = [] := by
    intro reachable
    refine List.eq_nil_iff_forall_not_mem.2 fun p hp => ?_
    obtain ⟨r, hr, hmem⟩ := Report.mem_warnings_join.1 hp
    obtain ⟨n, -, rfl⟩ := List.mem_map.1 hr
    simp [checkConnections] at hmem
  simp [checkStructure, hstarts, checkIds, warnings_checkEdges, hconnections]

/-- The settings of a node are warned about for their kind or a transition without an edge. -/
theorem mem_warnings_checkSettings {n : Node} (h : p ∈ (flow.checkSettings n).warnings) :
    (∃ kind, p = .unknownKind n.id kind) ∨
      ∃ index handle, p = .unconnectedTransition n.id index handle := by
  have htransitions : ∀ ts, p ∈ (flow.checkTransitions n.id ts).warnings →
      ∃ index handle, p = .unconnectedTransition n.id index handle := by
    intro ts hp
    obtain ⟨r, hr, hmem⟩ := Report.mem_warnings_join.1 hp
    obtain ⟨index, hindex, rfl⟩ := List.mem_mapIdx.1 hr
    unfold checkTransition at hmem
    split at hmem
    · cases hmem
    · split at hmem
      · cases hmem
      · exact ⟨_, _, List.mem_singleton.1 hmem⟩
  unfold checkSettings at h
  split at h
  · exact Or.inl ⟨_, List.mem_singleton.1 h⟩
  · exact Or.inr (htransitions _ (by simpa using h))
  · exact Or.inr (htransitions _ (by simpa using h))
  · simp at h
  · obtain ⟨r, hr, hmem⟩ := Report.mem_warnings_join.1 (by simpa using h)
    obtain ⟨index, hindex, rfl⟩ := List.mem_mapIdx.1 hr
    simp at hmem
  · cases h
  · cases h

/-- Warnings come from settings, from variables and from loops. -/
theorem mem_warnings_validateIn {order : List String} :
    p ∈ (flow.validateIn order).warnings ↔
      (∃ n ∈ flow.nodes, p ∈ (flow.checkSettings n).warnings) ∨
        p ∈ flow.undefinedVariables ∨ p ∈ flow.unusedVariables ∨
        ∃ id ∈ flow.silentLoops order, p = .silentLoop id := by
  have hsettings : p ∈ (Report.join (flow.nodes.map flow.checkSettings)).warnings ↔
      ∃ n ∈ flow.nodes, p ∈ (flow.checkSettings n).warnings := by
    simp only [Report.mem_warnings_join, List.mem_map, exists_exists_and_eq_and]
  have hloops : p ∈ (flow.checkLoopsIn order).warnings ↔
      ∃ id ∈ flow.silentLoops order, p = .silentLoop id := by
    simp [checkLoopsIn, eq_comm]
  simp [validateIn, warnings_checkStructure, checkVariables, mem_sortByMessage, hsettings, hloops]

/-- Exactly the silent nodes that close a loop are warned about. -/
theorem silentLoop_mem_warnings_iff {order : List String} {id : String} :
    .silentLoop id ∈ (flow.validateIn order).warnings ↔ id ∈ flow.silentLoops order := by
  rw [mem_warnings_validateIn]
  constructor
  · rintro (⟨n, -, h⟩ | h | h | ⟨other, hmem, heq⟩)
    · obtain ⟨_, h⟩ | ⟨_, _, h⟩ := mem_warnings_checkSettings h <;> cases h
    · simp [undefinedVariables] at h
    · simp [unusedVariables] at h
    · cases heq
      exact hmem
  · exact fun h => Or.inr (Or.inr (Or.inr ⟨id, h, rfl⟩))

/-- Exactly the declared variables that no node reads or sets are warned about. -/
theorem unusedVariable_mem_warnings_iff {order : List String} {name : String} :
    .unusedVariable name ∈ (flow.validateIn order).warnings ↔
      name ∈ flow.declared ∧ name ∉ flow.reads ∧ name ∉ flow.writes := by
  have hunused : .unusedVariable name ∈ flow.unusedVariables ↔
      name ∈ flow.declared ∧ name ∉ flow.reads ∧ name ∉ flow.writes := by
    simp [unusedVariables, tally, uses, Function.comp_def]
  rw [mem_warnings_validateIn, ← hunused]
  constructor
  · rintro (⟨n, -, h⟩ | h | h | ⟨other, hmem, heq⟩)
    · obtain ⟨_, h⟩ | ⟨_, _, h⟩ := mem_warnings_checkSettings h <;> cases h
    · simp [undefinedVariables] at h
    · exact h
    · cases heq
  · exact fun h => Or.inr (Or.inr (Or.inl h))

end Flow

end CallFlow
