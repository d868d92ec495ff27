import CallFlow.Proofs.Bindings
import CallFlow.Proofs.Dialogue.Ensures
import CallFlow.Proofs.Turn.Authority

namespace CallFlow

open Bindings

namespace Web

variable {ms : List ResponseMapping}

/-- What is mapped is bound to the targets. -/
theorem map_fst_of_mapM {data : Value} {parts : List (String × Value)}
    (h : ms.mapM (mappedPart data) = .ok parts) :
    parts.map Prod.fst = ms.map ResponseMapping.target := by
  induction ms generalizing parts with
  | nil =>
    cases h
    rfl
  | cons m ms ih =>
    rw [List.mapM_cons] at h
    cases hpart : mappedPart data m with
    | error e =>
      rw [hpart] at h
      cases h
    | ok part =>
      rw [hpart] at h
      cases hrest : ms.mapM (mappedPart data) with
      | error e =>
        rw [hrest] at h
        cases h
      | ok rest =>
        rw [hrest] at h
        cases h
        have htarget : part.1 = m.target := by
          unfold mappedPart at hpart
          split at hpart <;> cases hpart
          rfl
        exact congrArg₂ List.cons htarget (ih hrest)

/-- A response is mapped into the variables of the mapping and the one for the whole. -/
theorem mem_names_of_mapped {data : Value} {vs : Bindings} (h : mapped ms data = .ok vs)
    {name : String} (hname : name ∈ vs.names) :
    name ∈ ms.map ResponseMapping.target ∨ name = responseName := by
  unfold mapped at h
  cases hparts : ms.mapM (mappedPart data) with
  | error e =>
    rw [hparts] at h
    cases h
  | ok parts =>
    rw [hparts] at h
    cases h
    rw [mem_names_set, mem_names_ofMembers, map_fst_of_mapM hparts] at hname
    exact hname.symm

/-- A response sets the targets and the response variable. -/
theorem mem_names_of_result {reply : HttpReply} {r : WebResult} (h : result ms reply = .ok r)
    {name : String} (hname : name ∈ r.bindings.names) :
    name ∈ ms.map ResponseMapping.target ∨ name = responseName := by
  cases reply with
  | response response =>
    simp only [result] at h
    split at h
    · cases hbody : bodyValue response with
      | error e =>
        rw [hbody] at h
        cases h
      | ok data =>
        cases hmapped : mapped ms data with
        | error e =>
          rw [hbody, Except.bind, hmapped] at h
          cases h
        | ok vs =>
          rw [hbody, Except.bind, hmapped] at h
          cases h
          exact mem_names_of_mapped hmapped hname
    · cases h
      cases hname
  | _ =>
    cases h
    cases hname

/-- A function over HTTP sets the targets and the response variable. -/
theorem execute_names (s : FunctionSettings) (c : FunctionConfig) (b : Bindings)
    (timeout : Option Amount) :
    (execute s c b timeout).Always fun reply => ∀ r, reply = .ok r → ∀ name ∈ r.bindings.names,
      name ∈ c.responseMapping.map ResponseMapping.target ∨ name = responseName := by
  unfold execute
  dsimp only
  split
  · rintro r ⟨⟩
    nofun
  · exact fun r => nofun
  · split
    · rintro r ⟨⟩
      nofun
    · refine Dialogue.always_bind.2 (.of_forall fun reply r hr name hname => ?_)
      exact mem_names_of_result hr hname

end Web

namespace Turn

/-- The variables that are set by functions, whatever their settings are. -/
def functionNames : List String := [Web.responseName, successName, statusName]

/-- The language model came to say something at a node that is a conversation, in the course of some
exchanges. -/
def Generates (t : Turn) (n : Node) (es : List Exchange) (u : Utterance) : Prop :=
  ∃ c b before mid after, n.config = .conversation c ∧ es = before ++ mid ++ after ∧
    (t.generation c b).Transcript mid (.ok u)

/-- A node may set a variable in the course of some exchanges. -/
def MaySet (t : Turn) (n : Node) (es : List Exchange) (name : String) : Prop :=
  name ∈ n.config.writes ∨ name ∈ functionNames ∨
    ∃ u, t.Generates n es u ∧ u.extractedVariables.has name

variable {t : Turn} {n : Node} {b : Bindings} {es : List Exchange} {name : String}

/-- What a node may set it may set in a longer talk. -/
theorem MaySet.append (h : t.MaySet n es name) (before after : List Exchange) :
    t.MaySet n (before ++ es ++ after) name := by
  refine h.imp_right (Or.imp_right ?_)
  rintro ⟨u, ⟨c, b, front, mid, back, hc, rfl, hmid⟩, hname⟩
  exact ⟨u, ⟨c, b, before ++ front, mid, back ++ after, hc, by simp, hmid⟩, hname⟩

/-- Assignments set their targets. -/
theorem assignAll_extends {as : List Assignment} {changes : String → Prop}
    (h : ∀ a ∈ as, a.target ≠ "" → changes a.target) : Extends changes b (assignAll as b).2 := by
  induction as generalizing b with
  | nil => exact .refl b
  | cons a rest ih =>
    obtain ⟨htarget, hrest⟩ := List.forall_mem_cons.1 h
    unfold assignAll
    split
    · exact ih hrest
    · split
      · exact (Extends.set (htarget ‹_›) _).trans (ih hrest)
      · exact .refl b

/-- A function over HTTP sets what it may. -/
theorem callWeb_extends (c : FunctionConfig) :
    (t.callWeb c b).Always fun after => ∀ b', after = some b' →
      Extends (fun name => name ∈ c.responseMapping.map ResponseMapping.target ∨
        name ∈ functionNames) b b' := by
  refine (Web.execute_names t.settings.functions c b (timeout c)).bind fun reply hnames => ?_
  cases reply with
  | error e => exact fun b' => nofun
  | ok r =>
    rintro b' ⟨⟩
    have hresponse : Web.responseName ∈ functionNames := by simp [functionNames]
    have hsuccess : successName ∈ functionNames := by simp [functionNames]
    have hstatus : statusName ∈ functionNames := by simp [functionNames]
    have hmapped : ∀ name ∈ r.bindings.names,
        name ∈ c.responseMapping.map ResponseMapping.target ∨ name ∈ functionNames := by
      intro name hname
      obtain htarget | rfl := hnames r rfl name hname
      · exact Or.inl htarget
      · exact Or.inr hresponse
    exact ((Extends.update hmapped).trans (.set (Or.inr hsuccess) _)).trans
      (.set (Or.inr hstatus) _)

/-- A function sets what it may. -/
theorem call_extends {c : FunctionConfig} (hc : n.config = .function c) :
    (t.call c b).Always fun after => ∀ b', after = some b' → Extends (t.MaySet n []) b b' := by
  have hwrites : n.config.writes = c.responseMapping.map ResponseMapping.target ++
      if c.outputVariable = "" then [] else [c.outputVariable] := by
    rw [hc]
    rfl
  unfold call
  split
  · refine (callWeb_extends c).mono fun after h b' hafter => (h b' hafter).mono fun name hname => ?_
    refine hname.imp (fun htarget => ?_) Or.inl
    rw [hwrites]
    exact List.mem_append_left _ htarget
  · simp only [callCode, Dialogue.bind_eq, Dialogue.bind_assoc]
    -- whatever comes of the snippet, which is not to be unfolded here
    generalize Sandbox.run t.settings.functions c.code (inputs c b) (timeout c) = snippet
    refine Dialogue.always_bind.2 (.of_forall fun v => ?_)
    rintro b' ⟨⟩
    by_cases hout : c.outputVariable = ""
    · simp only [hout, if_true]
      exact .refl b
    · simp only [hout, if_false]
      refine .set (Or.inl ?_) v
      rw [hwrites, if_neg hout]
      exact List.mem_append_right _ (List.mem_singleton_self _)

/-- A function node sets what it may. -/
theorem runFunction_extends {c : FunctionConfig} (hc : n.config = .function c) :
    (t.runFunction n.id c b).Always fun o => Extends (t.MaySet n []) b o.2 := by
  refine (call_extends hc).bind fun after hafter => ?_
  cases after with
  | none => exact .refl b
  | some after => exact Dialogue.always_bind.2 (.of_forall fun handle => hafter after rfl)

/-- A fixed sentence sets nothing. -/
theorem runFixed_bindings (node : String) (c : ConversationConfig) :
    (t.runFixed node c b).Always fun o => o.2 = b := by
  unfold runFixed
  split
  · unfold say
    split
    · rfl
    · split
      · rfl
      · refine Dialogue.always_bind.2 (.of_forall fun handle => ?_)
        split <;> rfl
  · rfl

/-- A departure sets what was extracted. -/
theorem depart_bindings (node : String) (ts : List Transition) (u : Utterance) :
    (t.depart node b ts u).Always fun d => d.bindings = b.update u.extractedVariables := by
  unfold depart
  dsimp only
  split
  · rfl
  · exact Dialogue.always_bind.2 (.of_forall fun handle => rfl)

/-- A generated conversation sets what the language model extracted. -/
theorem runGenerated_extends {c : ConversationConfig} (hc : n.config = .conversation c) :
    (t.runGenerated n.id c b).Ensures fun es o => Extends (t.MaySet n es) b o.2 := by
  rw [runGenerated_eq]
  intro es o hes
  obtain ⟨asked, reply, left, rfl, hasked, hleft⟩ := hes.exists_of_bind
  cases reply with
  | error e =>
    cases hleft
    exact .refl b
  | ok u =>
    have hbindings : o.2 = b.update u.extractedVariables := by
      refine Dialogue.Always.ensures (P := fun o => o.2 = b.update u.extractedVariables) ?_
        left o hleft
      exact (depart_bindings n.id c.transitions u).bind fun d hd => hd
    rw [hbindings]
    refine .update fun name hname => Or.inr (Or.inr ⟨u, ?_, has_iff_mem_names.2 hname⟩)
    exact ⟨c, b, [], asked, left, hc, rfl, hasked⟩

/-- A node sets what it may. -/
theorem runNode_extends :
    (t.runNode n b).Ensures fun es o => Extends (t.MaySet n es) b o.2 := by
  unfold runNode
  cases hc : n.config with
  | start c => exact Dialogue.ensures_done (.refl b)
  | conversation c =>
    dsimp only [runConversation]
    split
    · refine (runFixed_bindings n.id c).ensures.mono fun es o ho => ?_
      rw [ho]
      exact .refl b
    · exact runGenerated_extends hc
  | function c =>
    refine (runFunction_extends hc).ensures.mono fun es o ho => ho.mono fun name hname => ?_
    simpa using hname.append [] es
  | setVariable c =>
    refine Dialogue.ensures_done (assignAll_extends fun a ha hne => Or.inl ?_)
    rw [hc]
    exact List.mem_filter.2 ⟨List.mem_map_of_mem ha, by simpa using hne⟩
  | transfer c => exact Dialogue.ensures_done (.refl b)
  | finish c => exact Dialogue.ensures_done (.refl b)
  | unknown kind raw => exact Dialogue.ensures_done (.refl b)

/-- A walk may set what the nodes may that it runs. -/
def WalkMaySet (t : Turn) (w : Walk) (es : List Exchange) (name : String) : Prop :=
  ∃ id ∈ w.visited, ∃ n, t.flow.node? id = some n ∧ t.MaySet n es name

/-- A walk sets what its nodes may. -/
theorem walk_extends (hops : Nat) (id : String) (b : Bindings) :
    (t.walk hops id b).Ensures fun es w => Extends (t.WalkMaySet w es) b w.result.bindings := by
  induction hops using Nat.strongRecOn generalizing id b with
  | ind hops ih =>
    cases hnode : t.flow.node? id with
    | none =>
      rw [walk_missing t hnode]
      exact Dialogue.ensures_done (.refl b)
    | some n =>
      obtain ⟨-, rfl, -⟩ := Flow.mem_nodes_of_node? hnode
      rw [walk_node t hnode]
      refine runNode_extends.bind ?_
      rintro es ⟨step, after⟩ hset
      have hlast : ∀ r ending, r.bindings = after →
          Extends (t.WalkMaySet ⟨r, [n.id], ending⟩ (es ++ [])) b r.bindings := by
        rintro r ending rfl
        refine hset.mono fun name hname => ⟨n.id, List.mem_singleton_self _, n, hnode, ?_⟩
        simpa using hname
      cases step with
      | failed => exact Dialogue.ensures_done (hlast _ _ rfl)
      | reply response move => exact Dialogue.ensures_done (hlast _ _ rfl)
      | hop next =>
        cases hops with
        | zero => exact Dialogue.ensures_done (hlast _ _ rfl)
        | succ hops =>
          -- what was extracted at a node is still extracted when exchanges go before or follow
          refine (ih hops (Nat.lt_succ_self hops) next after).map fun es' w hw => ?_
          have hfirst : Extends (t.WalkMaySet (w.after n.id) (es ++ es')) b after :=
            hset.mono fun name hname =>
              ⟨n.id, List.mem_cons_self, n, hnode, hname.append [] es'⟩
          refine hfirst.trans (hw.mono ?_)
          rintro name ⟨id, hid, n, hn, hname⟩
          refine ⟨id, List.mem_cons_of_mem _ hid, n, hn, ?_⟩
          simpa using hname.append es []

end Turn

end CallFlow
