import CallFlow.Proofs.Model.Proposals
import CallFlow.Proofs.Turn.Walk
import Mathlib.Data.List.Chain

namespace CallFlow

namespace NodeConfig

/-- Whether a node goes on by default when no transition decides. A conversation does so only if its
sentence is passed by. -/
def goesOn : NodeConfig → Bool
  | conversation c => c.content.mode = .fixed && c.skipResponse
  | start _ | function _ | setVariable _ | unknown _ _ => true
  | transfer _ | finish _ => false

/-- The handles by which a node can be left. -/
def exits (c : NodeConfig) : List String :=
  c.transitions.map Transition.handle ++ if c.goesOn then [defaultHandle] else []

variable {c : NodeConfig} {handle : String}

theorem mem_exits_of_transition {t : Transition} (h : t ∈ c.transitions) : t.handle ∈ c.exits :=
  List.mem_append_left _ (List.mem_map_of_mem h)

theorem default_mem_exits (h : c.goesOn) : defaultHandle ∈ c.exits :=
  List.mem_append_right _ (by simp [h])

end NodeConfig

/-- Where a step goes on to from a node. A node that failed is run again. -/
def Step.next? (node : String) : Step → Option String
  | hop next => some next
  | reply _ move => move.next?
  | failed => some node

namespace Turn

variable {t : Turn} {n : Node} {b : Bindings} {node next : String}

@[simp] theorem next?_silently (chosen : Option String) :
    (silently chosen).next? node = chosen := by
  cases chosen <;> rfl

@[simp] theorem next?_saying (response : String) (chosen : Option String) :
    (saying response chosen).next? node = chosen := by
  cases chosen <;> rfl

/-- What is said on the way to the next node is said there, or the node is run again because its
speech can not be rendered. -/
theorem eq_or_eq_of_next?_onTheWay {speech : Option Content} {chosen : Option String}
    (h : (onTheWay speech b chosen).next? node = some next) : next = node ∨ chosen = some next := by
  unfold onTheWay at h
  split at h
  · split at h
    · exact Or.inr (by simpa using h)
    · rename_i c _
      cases hrender : Template.render c.text b with
      | none =>
        rw [hrender] at h
        exact Or.inl (Option.some.inj h).symm
      | some text =>
        rw [hrender] at h
        exact Or.inr (by simpa [withText] using h)
  · exact Or.inr (by simpa using h)

/-- A text that is needed to leave the call keeps the call at its node, if it can not be rendered.
-/
theorem eq_of_next?_withText {text : Option String} {step : String → Step}
    (hstep : ∀ s, (step s).next? node = none) (h : (withText text step).next? node = some next) :
    next = node := by
  cases text with
  | none => exact (Option.some.inj h).symm
  | some s => cases (hstep s).symm.trans h

/-- A way on from a node: back to it, or by one of its exits to the node that follows. -/
def Way (t : Turn) (n : Node) (next : String) : Prop :=
  next = n.id ∨ ∃ handle ∈ n.config.exits, t.successor? n.id handle = some next

/-- The way by default is a way. -/
theorem Way.default (hgoes : n.config.goesOn) (h : t.defaultSuccessor? n.id = some next) :
    t.Way n next :=
  Or.inr ⟨defaultHandle, NodeConfig.default_mem_exits hgoes, h⟩

/-- Wherever a step goes on to, it takes one of the ways on from its node. -/
def GoesOn (t : Turn) (n : Node) (o : Outcome) : Prop :=
  ∀ next, o.1.next? n.id = some next → t.Way n next

/-- The handle that transitions resolve to leads on by an exit. -/
theorem resolve_way {ts : List Transition} (hts : n.config.transitions = ts) :
    (t.resolve ts b).Always fun chosen =>
      ∀ next, chosen.bind (t.successor? n.id) = some next → t.Way n next := by
  refine (Resolution.resolve_eligible _ ts b t.userInput).mono fun chosen heligible next hnext => ?_
  obtain ⟨handle, hchosen, hsucc⟩ := Option.bind_eq_some_iff.1 hnext
  obtain ⟨tr, hmem, rfl, -⟩ := heligible handle hchosen
  exact Or.inr ⟨tr.handle, NodeConfig.mem_exits_of_transition (hts ▸ hmem), hsucc⟩

variable {c : ConversationConfig}

/-- A fixed sentence is left by a way of its node. -/
theorem runFixed_goesOn (hc : n.config = .conversation c) (hmode : c.content.mode = .fixed) :
    (t.runFixed n.id c b).Always (t.GoesOn n) := by
  unfold runFixed
  split
  · unfold say
    split
    · intro next hnext
      exact .default (by simp [NodeConfig.goesOn, *]) (by simpa using hnext)
    · split
      · intro next hnext
        exact Or.inl (Option.some.inj hnext).symm
      · refine (resolve_way (by rw [hc]; rfl)).bind fun chosen hway => ?_
        split
        · rintro next ⟨⟩
          exact hway _ ‹_›
        · rintro next ⟨⟩
          exact Or.inl rfl
  · rintro next ⟨⟩
    exact Or.inl rfl

/-- A generated sentence is left by a way of its node. -/
theorem runGenerated_goesOn (hc : n.config = .conversation c) :
    (t.runGenerated n.id c b).Always (t.GoesOn n) := by
  refine (Engine.generate_offered ..).bind fun reply hoffered => ?_
  cases reply with
  | error e =>
    rintro next ⟨⟩
    exact Or.inl rfl
  | ok u =>
    dsimp only
    split
    · rename_i taken htaken
      rintro next ⟨⟩
      obtain ⟨handle, hmatched, hsucc⟩ := Option.bind_eq_some_iff.1 htaken
      obtain ⟨tr, hmem, rfl⟩ := List.mem_map.1 (hoffered u rfl handle hmatched).2
      refine Or.inr ⟨tr.handle, NodeConfig.mem_exits_of_transition ?_, hsucc⟩
      rw [hc]
      exact hmem
    · refine (resolve_way (by rw [hc]; rfl)).bind fun chosen hway => ?_
      rintro next ⟨⟩
      cases hchosen : chosen.bind (t.successor? n.id) with
      | none => exact Or.inl rfl
      | some next => exact hway next hchosen

/-- A conversation node is left by one of its ways. -/
theorem runConversation_goesOn (hc : n.config = .conversation c) :
    (t.runConversation n.id c b).Always (t.GoesOn n) := by
  unfold runConversation
  split
  · exact runFixed_goesOn hc ‹_›
  · exact runGenerated_goesOn hc

/-- A function node is left by one of its ways. -/
theorem runFunction_goesOn {c : FunctionConfig} (hc : n.config = .function c) :
    (t.runFunction n.id c b).Always (t.GoesOn n) := by
  refine Dialogue.always_bind.2 (.of_forall fun after => ?_)
  cases after with
  | none =>
    rintro next ⟨⟩
    exact Or.inl rfl
  | some after =>
    refine (resolve_way (by rw [hc]; rfl)).bind fun chosen hway next hnext => ?_
    obtain hagain | hnext := eq_or_eq_of_next?_onTheWay hnext
    · exact Or.inl hagain
    obtain htaken | ⟨-, hdefault⟩ := (Option.orElse_eq_some _ _ _).1 hnext
    · exact hway next htaken
    · exact .default (by rw [hc]; rfl) hdefault

/-- Whatever a node is and the world replies, the turn goes on by one of the ways on from it. -/
theorem runNode_goesOn : (t.runNode n b).Always (t.GoesOn n) := by
  unfold runNode
  cases hc : n.config with
  | start c =>
    intro next hnext
    exact (eq_or_eq_of_next?_onTheWay hnext).imp_right fun hdefault =>
      ⟨defaultHandle, NodeConfig.default_mem_exits (by rw [hc]; rfl), hdefault⟩
  | conversation c => exact runConversation_goesOn hc
  | function c => exact runFunction_goesOn hc
  | setVariable c =>
    intro next hnext
    simp only [runSetVariable] at hnext
    split at hnext
    · exact .default (by rw [hc]; rfl) (by simpa using hnext)
    · exact Or.inl (Option.some.inj hnext).symm
  | transfer c => exact fun next hnext => Or.inl (eq_of_next?_withText (fun _ => rfl) hnext)
  | finish c => exact fun next hnext => Or.inl (eq_of_next?_withText (fun _ => rfl) hnext)
  | unknown _ _ =>
    intro next hnext
    exact .default (by rw [hc]; rfl) (by simpa using hnext)

/-- There is a way on from the node of an id. -/
def Leads (t : Turn) (id next : String) : Prop := ∃ n, t.flow.node? id = some n ∧ t.Way n next

end Turn

/-- A walk takes a way on from each node that it runs: to the node that it runs next, and from the
last one to the node where the caller speaks next. -/
structure Walk.GoesOn (t : Turn) (id : String) (w : Walk) : Prop where
  begins : ∀ x ∈ w.visited.head?, x = id
  hops : w.visited.IsChain t.Leads
  waits : ∀ next, w.result.move.next? = some next → ∃ last ∈ w.visited.getLast?, t.Leads last next

namespace Turn

variable {t : Turn}

/-- A walk goes on by the ways of its nodes. -/
theorem walk_goesOn (hops : Nat) (id : String) (b : Bindings) :
    (t.walk hops id b).Always (Walk.GoesOn t id) := by
  induction hops using Nat.strongRecOn generalizing id b with
  | ind hops ih =>
    cases hnode : t.flow.node? id with
    | none =>
      rw [walk_missing t hnode]
      exact ⟨nofun, .nil, nofun⟩
    | some n =>
      obtain ⟨-, rfl, -⟩ := Flow.mem_nodes_of_node? hnode
      rw [walk_node t hnode]
      refine runNode_goesOn.bind ?_
      rintro ⟨step, after⟩ hway
      have hleads : ∀ next, step.next? n.id = some next → t.Leads n.id next :=
        fun next hnext => ⟨n, hnode, hway next hnext⟩
      have hbegins : ∀ x ∈ [n.id].head?, x = n.id := fun x hx => (Option.some.inj hx).symm
      cases step with
      | failed => exact ⟨hbegins, .singleton _, fun next hnext => ⟨n.id, rfl, hleads next hnext⟩⟩
      | reply response move =>
        exact ⟨hbegins, .singleton _, fun next hnext => ⟨n.id, rfl, hleads next hnext⟩⟩
      | hop next =>
        cases hops with
        | zero => exact ⟨hbegins, .singleton _, nofun⟩
        | succ hops =>
          refine (ih hops (Nat.lt_succ_self hops) next after).bind fun w hw => ⟨hbegins, ?_, ?_⟩
          · exact List.isChain_cons.2 ⟨fun x hx => hw.begins x hx ▸ hleads next rfl, hw.hops⟩
          · intro last hlast
            obtain ⟨x, hx, hxlast⟩ := hw.waits last hlast
            exact ⟨x, List.mem_getLast?_cons hx, hxlast⟩

end Turn

end CallFlow
