import CallFlow.Proofs.Session.Invariants
import CallFlow.Proofs.Turn.Results
import CallFlow.Proofs.Validation.Runnable

namespace CallFlow

/-- Every node that a walk looks for is there, and so is the one where the caller speaks next. -/
structure Walk.Finds (flow : Flow) (w : Walk) : Prop where
  ending : w.ending ≠ .missing
  visited : ∀ id ∈ w.visited, (flow.node? id).isSome
  next : ∀ id, w.result.move.next? = some id → (flow.node? id).isSome

namespace Turn

variable {t : Turn}

section

variable (hedges : ∀ p ∈ t.flow.validate.errors, p.code ≠ "DANGLING_EDGE")
include hedges

/-- Wherever a node goes on to, there is a node. -/
theorem runNode_finds {id : String} {n : Node} (hnode : t.flow.node? id = some n) (b : Bindings) :
    (t.runNode n b).Always fun o =>
      ∀ next, o.1.next? n.id = some next → (t.flow.node? next).isSome := by
  obtain ⟨-, rfl, -⟩ := Flow.mem_nodes_of_node? hnode
  refine runNode_goesOn.mono fun o hway next hnext => ?_
  have hleads : t.Leads n.id next := ⟨n, hnode, hway next hnext⟩
  exact hleads.isSome_node? hedges

/-- A walk from a node that is there comes to no other. -/
theorem walk_finds (hops : Nat) {id : String} (hid : (t.flow.node? id).isSome) (b : Bindings) :
    (t.walk hops id b).Always (Walk.Finds t.flow) := by
  induction hops using Nat.strongRecOn generalizing id b with
  | ind hops ih =>
    obtain ⟨n, hnode⟩ := Option.isSome_iff_exists.1 hid
    obtain ⟨-, rfl, -⟩ := Flow.mem_nodes_of_node? hnode
    have hvisited : ∀ id ∈ [n.id], (t.flow.node? id).isSome :=
      fun id hmem => List.mem_singleton.1 hmem ▸ hid
    rw [walk_node t hnode]
    refine (runNode_finds hedges hnode b).bind ?_
    rintro ⟨step, after⟩ hnext
    cases step with
    | failed => exact ⟨nofun, hvisited, hnext⟩
    | reply response move => exact ⟨nofun, hvisited, hnext⟩
    | hop next =>
      cases hops with
      | zero => exact ⟨nofun, hvisited, nofun⟩
      | succ hops =>
        refine (ih hops (Nat.lt_succ_self hops) (hnext next rfl) after).bind fun w hw => ?_
        exact ⟨hw.ending, List.forall_mem_cons.2 ⟨hid, hw.visited⟩, hw.next⟩

end

end Turn

/-- A session is at a node of its flow, and the walk that is under way finds every node that it
looks for, whatever will be replied. -/
structure Moment.Found (m : Moment) : Prop where
  node : ∃ id, m.session.node = some id ∧ (m.session.flow.node? id).isSome
  walk : ∀ e ∈ m.errand, e.rest.Always (Walk.Finds m.session.flow)

namespace Session

open Moment

variable {settings : Settings} {flow : Flow} {s : Session}

/-- Where no edge dangles, a walk from a node of the flow leads to a node of the flow. -/
theorem maintains_node (hedges : ∀ p ∈ flow.validate.errors, p.code ≠ "DANGLING_EDGE") :
    Maintains settings flow (fun memory => ∃ id, memory.node = some id ∧ (flow.node? id).isSome)
      (Walk.Finds flow) where
  walk s utterance hflow hnode := by
    subst hflow
    obtain ⟨id, hid, hfound⟩ := hnode
    have hid : s.node = some id := hid
    unfold walk
    rw [hid]
    exact Turn.walk_finds (t := s.turn settings utterance) hedges settings.engine.hops hfound _
  commit s utterance w hnode hw := by
    obtain hsame | ⟨next, hnext, hafter⟩ := node_commit settings.engine s utterance w.result
    · obtain ⟨id, hid, hfound⟩ := hnode
      exact ⟨id, hsame.trans hid, hfound⟩
    · exact ⟨next, hafter, hw.next next hnext⟩

/-- A call that begins where there is no node begins with the apology. -/
theorem start_missing (hpending : s.status = .pending)
    (hnode : s.flow.node? (s.node.getD "") = none) :
    (s.start settings).Always fun o => ∃ p, o.1 = .ok p ∧ p.first.ending = .missing := by
  have hwalk : ({ s with status := .active } : Session).walk settings none =
      .done ⟨(s.turn settings none).apology s.bindings, [], .missing⟩ :=
    Turn.walk_missing (s.turn settings none) hnode
  have hstart : s.start settings = (advance settings { s with status := .active } none).bind
      fun o => .done (.ok o.1, o.2) := by
    simp [start, hpending]
  rw [hstart, Dialogue.always_bind, advance, execute_eq, hwalk]
  intro gone
  refine (followUp_commits settings settings.engine.hops _ _).mono fun o ho => ⟨o.1, rfl, ?_⟩
  rw [ho.1]

/-- In a flow that is strictly loaded a node hops only to nodes of the flow. So a call of it is at a
node of the flow all along, and no walk misses one, exactly if the start node has an id that is not
empty. With the empty id, which is let through, the call begins with a walk that finds no node. -/
theorem runs_found_iff {raw : Value} (hload : Flow.load raw true = .ok flow) (settings : Settings)
    (id : String) (bindings : Bindings) :
    (∀ s, (start settings s).Always fun o => Run settings ⟨s, none⟩ ⟨o.2, none⟩) ∧
    (∀ s text, (input settings s text).Always fun o => Run settings ⟨s, none⟩ ⟨o.2, none⟩) ∧
    (∀ t : Turn, t.flow = flow → ∀ node n b, flow.node? node = some n →
      (t.runNode n b).Always fun o => ∀ next, o.1 = .hop next → (flow.node? next).isSome) ∧
    ((∀ m, Run settings ⟨Session.new id flow bindings, none⟩ m → m.Found) ↔
      flow.entry? ≠ some "") ∧
    (flow.entry? = some "" → ((Session.new id flow bindings).start settings).Always fun o =>
      ∃ p, o.1 = .ok p ∧ p.first.ending = .missing) := by
  have herrors := Flow.errors_eq_nil_of_load hload
  have hedges : ∀ p ∈ flow.validate.errors, p.code ≠ "DANGLING_EDGE" := by simp [herrors]
  have hrun : flow.Runnable := Flow.errors_validateIn_eq_nil_iff.1 herrors
  obtain ⟨first, hstarts, hentry⟩ := hrun.exists_start
  refine ⟨start_run, input_run, ?_, ⟨fun hfound hempty => ?_, fun hne m hm => ?_⟩, fun hempty => ?_⟩
  · rintro t rfl node n b hnode
    exact (Turn.runNode_finds hedges hnode b).mono fun o hnext next hhop =>
      hnext next (by rw [hhop]; rfl)
  · obtain ⟨node, hnode, hsome⟩ := (hfound _ .refl).node
    obtain rfl : node = "" := Option.some.inj (hnode.symm.trans hempty)
    cases hsome
  · -- the start node is one of the nodes, so its id is found if it is not empty
    have hfirst : first ∈ flow.nodes := List.mem_of_mem_filter (hstarts ▸ List.mem_singleton_self _)
    have hid : first.id ≠ "" := fun hid => hne (hid ▸ hentry)
    have hsome : (flow.node? first.id).isSome :=
      Flow.isSome_node?_iff.2 ⟨hid, List.mem_map_of_mem hfirst⟩
    have hkeeps := hm.keeps_of_new (maintains_node hedges) ⟨first.id, hentry, hsome⟩
    obtain ⟨hflow, hnode, hwalk⟩ := hkeeps
    subst hflow
    exact ⟨hnode, hwalk⟩
  · have hnode : (Session.new id flow bindings).node = some "" := hempty
    refine start_missing rfl ?_
    rw [hnode]
    rfl

/-- A greeting before a question, authored with an id for the start node. -/
private def greetingFlow (start : String) : Value :=
  let said (text : String) : Value :=
    .object [("mode", .text "static"), ("content", .text text)]
  let node (id type : String) (config : List (String × Value)) : Value :=
    .object [("id", .text id), ("type", .text type), ("config", .object config)]
  let edge (source target : String) : Value :=
    .object [("source", .text source), ("target", .text target)]
  .object
    [("id", .text "f"),
     ("nodes", .list
      [node start "start" [("greeting", said "Hello!")],
       node "ask" "conversation" [("content", said "What is your name?")],
       node "bye" "end" []]),
     ("edges", .list [edge start "ask", edge "ask" "bye"])]

private theorem exists_of_load_greetingFlow (start : String)
    (h : (Flow.load (greetingFlow start) true).toOption.map Flow.entry? = some (some start)) :
    ∃ flow, Flow.load (greetingFlow start) true = .ok flow ∧ flow.entry? = some start := by
  obtain ⟨flow, hflow, hentry⟩ := Option.map_eq_some_iff.1 h
  cases hload : Flow.load (greetingFlow start) true with
  | error report => simp [hload, Except.toOption] at hflow
  | ok loaded =>
    rw [hload] at hflow
    cases hflow
    exact ⟨flow, rfl, hentry⟩

theorem greetingFlow_found : ∃ flow, Flow.load (greetingFlow "begin") true = .ok flow ∧
    ∀ m, Run {} ⟨Session.new "call-1" flow [], none⟩ m → m.Found := by
  obtain ⟨flow, hload, hentry⟩ := exists_of_load_greetingFlow "begin" (by decide +kernel)
  obtain ⟨-, -, -, hfound, -⟩ := runs_found_iff hload {} "call-1" []
  exact ⟨flow, hload, hfound.2 (by simp [hentry])⟩

/-- The empty id counts as that of a node when a flow is loaded, but no call finds it: the greeting
is never said. -/
theorem greetingFlow_missing : ∃ flow, Flow.load (greetingFlow "") true = .ok flow ∧
    ¬(∀ m, Run {} ⟨Session.new "call-1" flow [], none⟩ m → m.Found) ∧
    ∃ p, (((Session.new "call-1" flow []).start {}).run {}).1.1 = .ok p ∧
      p.first.ending = .missing := by
  obtain ⟨flow, hload, hentry⟩ := exists_of_load_greetingFlow "" (by decide +kernel)
  have hnode : (Session.new "call-1" flow []).node = some "" := hentry
  have hnone : flow.node? ((Session.new "call-1" flow []).node.getD "") = none := by
    rw [hnode]
    rfl
  refine ⟨flow, hload, fun hfound => ?_, (start_missing rfl hnone).run {}⟩
  obtain ⟨node, hsome, hthere⟩ := (hfound _ .refl).node
  obtain rfl : "" = node := Option.some.inj (hnode.symm.trans hsome)
  cases hthere

end Session

end CallFlow
