import CallFlow.Proofs.Dialogue.Noted
import CallFlow.Proofs.Turn.Writes

namespace CallFlow

/-- One evaluation of an equation: its condition, the variables, and what counts as the caller's
words. -/
structure Appraisal where
  condition : String
  bindings : Bindings
  userInput : String

/-- What the evaluation comes to. -/
def Appraisal.holds (a : Appraisal) : Bool :=
  Condition.evaluate a.condition a.bindings a.userInput

namespace Resolution

/-- Looks for the first equation that holds, and notes every evaluation. -/
def appraise (b : Bindings) (userInput : String) :
    List Transition → Option String × List Appraisal
  | [] => (none, [])
  | t :: rest =>
    if t.criterion = .equation then
      let a : Appraisal := ⟨t.condition, b, userInput⟩
      if a.holds then (some t.handle, [a])
      else
        let (handle, as) := appraise b userInput rest
        (handle, a :: as)
    else appraise b userInput rest

/-- What is noted decides: the first equation that holds is found by these evaluations alone. -/
theorem appraise_fst (b : Bindings) (userInput : String) (ts : List Transition) :
    (appraise b userInput ts).1 = equation? ts b userInput := by
  unfold equation?
  induction ts with
  | nil => rfl
  | cons t rest ih =>
    unfold appraise
    by_cases hcriterion : t.criterion = .equation
    · cases hholds : Condition.evaluate t.condition b userInput with
      | true => simp [hcriterion, Appraisal.holds, hholds, holds]
      | false => simpa [hcriterion, Appraisal.holds, hholds, holds] using ih
    · simpa [hcriterion, holds] using ih

/-- All equations are tried on the same variables and the same words. -/
theorem appraise_snd (b : Bindings) (userInput : String) (ts : List Transition) :
    ∀ a ∈ (appraise b userInput ts).2, a.bindings = b ∧ a.userInput = userInput := by
  induction ts with
  | nil => nofun
  | cons t rest ih =>
    unfold appraise
    split
    · dsimp only
      split
      · simp
      · exact List.forall_mem_cons.2 ⟨⟨rfl, rfl⟩, ih⟩
    · exact ih

end Resolution

namespace Turn

variable (t : Turn)

/-- The handle by which a node is left when no equation decides. -/
def undecided (ts : List Transition) (b : Bindings) : Dialogue (Option String) :=
  let prompts := Resolution.prompts ts
  if prompts.isEmpty then .done none
  else (t.judge b prompts).bind fun handle => .done (Resolution.accept prompts handle)

/-- The handle by which a node is left, with the evaluations that it comes of. -/
def resolveNoted (ts : List Transition) (b : Bindings) : Noted Appraisal (Option String) :=
  let appraised := Resolution.appraise b t.userInput ts
  let decided? := appraised.1.filter (· ≠ "")
  ⟨(if decided?.isSome then .done decided? else t.undecided ts b).bind fun handle =>
    .done (handle, appraised.2)⟩

theorem erase_resolveNoted (ts : List Transition) (b : Bindings) :
    (t.resolveNoted ts b).erase = t.resolve ts b := by
  have hdecided : (Resolution.appraise b t.userInput ts).1.filter (· ≠ "") =
      Resolution.decided? ts b t.userInput := by
    rw [Resolution.appraise_fst, Resolution.decided?]
  simp only [Noted.erase, resolveNoted, hdecided, Dialogue.bind_assoc, Dialogue.done_bind,
    Dialogue.bind_done]
  unfold undecided resolve Resolution.resolve Resolution.referred?
  cases Resolution.decided? ts b t.userInput with
  | some handle => rfl
  | none => cases hprompts : (Resolution.prompts ts).isEmpty <;> simp [hprompts]

/-- Says an authored sentence, and notes every evaluation of an equation. -/
def sayNoted (node : String) (c : ConversationConfig) (text : String) (b : Bindings) :
    Noted Appraisal Outcome := do
  if c.skipResponse then return (saying text (t.defaultSuccessor? node), b)
  if t.userInput = "" then return (.reply text (.gather node), b)
  match (← t.resolveNoted c.transitions b).bind (t.successor? node) with
  | some next => return (.reply "" (.gather next), b)
  | none => return (.reply text (.gather node), b)

/-- Runs a conversation with a fixed sentence, and notes every evaluation. -/
def runFixedNoted (node : String) (c : ConversationConfig) (b : Bindings) :
    Noted Appraisal Outcome :=
  match Template.render c.content.text b with
  | some text => t.sayNoted node c text b
  | none => return (.failed, b)

/-- Runs a conversation that the language model conducts, and notes every evaluation. -/
def runGeneratedNoted (node : String) (c : ConversationConfig) (b : Bindings) :
    Noted Appraisal Outcome := do
  match ← liftM (t.generation c b) with
  | .error _ => return (.failed, b)
  | .ok u =>
    let b := b.update u.extractedVariables
    match u.matchedTransition.bind (t.successor? node) with
    | some next => return (.reply u.response (.gather next), b)
    | none =>
      let next := (← t.resolveNoted c.transitions b).bind (t.successor? node)
      return (.reply u.response (.gather (next.getD node)), b)

/-- Runs a function, and notes every evaluation. -/
def runFunctionNoted (node : String) (c : FunctionConfig) (b : Bindings) :
    Noted Appraisal Outcome := do
  match ← liftM (t.call c b) with
  | none => return (.failed, b)
  | some b =>
    let chosen := (← t.resolveNoted c.transitions b).bind (t.successor? node)
    return (onTheWay c.speech b (chosen <|> t.defaultSuccessor? node), b)

/-- Runs a node, and notes every evaluation. Nodes without transitions evaluate nothing. -/
def runNodeNoted (n : Node) (b : Bindings) : Noted Appraisal Outcome :=
  match n.config with
  | .conversation c =>
    match c.content.mode with
    | .fixed => t.runFixedNoted n.id c b
    | .prompt => t.runGeneratedNoted n.id c b
  | .function c => t.runFunctionNoted n.id c b
  | _ => liftM (t.runNode n b)

theorem erase_sayNoted (node : String) (c : ConversationConfig) (text : String) (b : Bindings) :
    (t.sayNoted node c text b).erase = t.say node c text b := by
  unfold sayNoted say
  split
  · rfl
  split
  · rfl
  simp only [Noted.erase_bind, erase_resolveNoted]
  refine congrArg (Dialogue.bind _) (funext fun handle => ?_)
  cases handle.bind (t.successor? node) <;> rfl

theorem erase_runFixedNoted (node : String) (c : ConversationConfig) (b : Bindings) :
    (t.runFixedNoted node c b).erase = t.runFixed node c b := by
  unfold runFixedNoted runFixed
  cases Template.render c.content.text b with
  | none => rfl
  | some text => exact t.erase_sayNoted node c text b

theorem erase_runGeneratedNoted (node : String) (c : ConversationConfig) (b : Bindings) :
    (t.runGeneratedNoted node c b).erase = t.runGenerated node c b := by
  unfold runGeneratedNoted
  simp only [Noted.erase_bind, Noted.erase_lift]
  refine congrArg (Dialogue.bind (t.generation c b)) (funext fun reply => ?_)
  cases reply with
  | error e => rfl
  | ok u =>
    dsimp only
    cases u.matchedTransition.bind (t.successor? node) with
    | some next => rfl
    | none =>
      simp only [Noted.erase_bind, erase_resolveNoted]
      rfl

theorem erase_runFunctionNoted (node : String) (c : FunctionConfig) (b : Bindings) :
    (t.runFunctionNoted node c b).erase = t.runFunction node c b := by
  unfold runFunctionNoted
  simp only [Noted.erase_bind, Noted.erase_lift]
  refine congrArg (Dialogue.bind (t.call c b)) (funext fun after => ?_)
  cases after with
  | none => rfl
  | some after =>
    simp only [Noted.erase_bind, erase_resolveNoted]
    rfl

/-- A node that is run with notes is run. -/
theorem erase_runNodeNoted (n : Node) (b : Bindings) :
    (t.runNodeNoted n b).erase = t.runNode n b := by
  unfold runNodeNoted
  cases hc : n.config with
  | conversation c =>
    simp only [runNode, hc, runConversation]
    cases c.content.mode with
    | fixed => exact t.erase_runFixedNoted n.id c b
    | prompt => exact t.erase_runGeneratedNoted n.id c b
  | function c =>
    simp only [runNode, hc]
    exact t.erase_runFunctionNoted n.id c b
  | _ => exact Noted.erase_lift _

/-- All equations were evaluated with the variables that the node leaves and with what the caller
said in the turn. -/
def Heard (o : Outcome × List Appraisal) : Prop :=
  ∀ a ∈ o.2, a.bindings = o.1.2 ∧ a.userInput = t.userInput

/-- The equations that are tried hear the caller. -/
theorem resolveNoted_heard (ts : List Transition) (b : Bindings) :
    (t.resolveNoted ts b).dialogue.Always fun o =>
      ∀ a ∈ o.2, a.bindings = b ∧ a.userInput = t.userInput :=
  Dialogue.always_bind.2 (.of_forall fun _ => Resolution.appraise_snd b t.userInput ts)

theorem sayNoted_heard (node : String) (c : ConversationConfig) (text : String) (b : Bindings) :
    (t.sayNoted node c text b).dialogue.Always t.Heard := by
  unfold sayNoted
  split
  · nofun
  split
  · nofun
  refine (t.resolveNoted_heard c.transitions b).bind fun o ho => ?_
  dsimp only
  split <;> simpa [Heard] using ho

theorem runFixedNoted_heard (node : String) (c : ConversationConfig) (b : Bindings) :
    (t.runFixedNoted node c b).dialogue.Always t.Heard := by
  unfold runFixedNoted
  split
  · exact t.sayNoted_heard node c _ b
  · nofun

theorem runGeneratedNoted_heard (node : String) (c : ConversationConfig) (b : Bindings) :
    (t.runGeneratedNoted node c b).dialogue.Always t.Heard := by
  unfold runGeneratedNoted
  simp only [Noted.dialogue_bind, Noted.dialogue_lift, Dialogue.bind_assoc, Dialogue.done_bind]
  refine Dialogue.always_bind.2 (.of_forall fun reply => ?_)
  cases reply with
  | error e => nofun
  | ok u =>
    dsimp only
    split
    · nofun
    · -- the variables by then are those that the language model has added to
      simp only [Noted.dialogue_bind, Dialogue.bind_assoc]
      refine (t.resolveNoted_heard c.transitions _).bind fun o ho => ?_
      simpa [Heard] using ho

theorem runFunctionNoted_heard (node : String) (c : FunctionConfig) (b : Bindings) :
    (t.runFunctionNoted node c b).dialogue.Always t.Heard := by
  unfold runFunctionNoted
  simp only [Noted.dialogue_bind, Noted.dialogue_lift, Dialogue.bind_assoc, Dialogue.done_bind]
  refine Dialogue.always_bind.2 (.of_forall fun after => ?_)
  cases after with
  | none => nofun
  | some after =>
    simp only [Noted.dialogue_bind, Dialogue.bind_assoc]
    refine (t.resolveNoted_heard c.transitions after).bind fun o ho => ?_
    simpa [Heard] using ho

/-- The equations of a node hear the caller. -/
theorem runNodeNoted_heard (n : Node) (b : Bindings) :
    (t.runNodeNoted n b).dialogue.Always t.Heard := by
  have hlift : ∀ d : Dialogue Outcome,
      (liftM d : Noted Appraisal Outcome).dialogue.Always t.Heard :=
    fun d => Dialogue.always_bind.2 (.of_forall fun o => nofun)
  unfold runNodeNoted
  cases n.config with
  | conversation c =>
    dsimp only
    split
    · exact t.runFixedNoted_heard n.id c b
    · exact t.runGeneratedNoted_heard n.id c b
  | function c => exact t.runFunctionNoted_heard n.id c b
  | _ => exact hlift _

/-- A node sets only what it may, and its equations hear the caller. -/
theorem runNodeNoted_ensures (n : Node) (b : Bindings) :
    (t.runNodeNoted n b).dialogue.Ensures fun es o =>
      b.Extends (t.MaySet n es) o.1.2 ∧ t.Heard o := by
  have hextends : (t.runNodeNoted n b).erase.Ensures fun es o => b.Extends (t.MaySet n es) o.2 := by
    rw [erase_runNodeNoted]
    exact runNode_extends
  intro es o hes
  exact ⟨Noted.ensures_of_erase hextends es o hes, (t.runNodeNoted_heard n b).ensures es o hes⟩

/-- Walks from a node, with so many hops at most, and notes every evaluation of an equation. -/
def walkNoted (hops : Nat) (id : String) (b : Bindings) : Noted Appraisal Walk :=
  match t.flow.node? id with
  | none => return ⟨t.apology b, [], .missing⟩
  | some node => do
    let (step, b) ← t.runNodeNoted node b
    match step with
    | .failed => return ⟨t.retry node.id b, [node.id], .failed⟩
    | .reply response move => return ⟨⟨response, move, b⟩, [node.id], .replied⟩
    | .hop next =>
      match hops with
      | 0 => return ⟨t.apology b, [node.id], .cut⟩
      | hops + 1 => return (← walkNoted hops next b).after node.id

/-- A walk with notes is the walk. -/
theorem erase_walkNoted (hops : Nat) (id : String) (b : Bindings) :
    (t.walkNoted hops id b).erase = t.walk hops id b := by
  induction hops using Nat.strongRecOn generalizing id b with
  | ind hops ih =>
    unfold walkNoted walk
    cases t.flow.node? id with
    | none => rfl
    | some n =>
      simp only [Noted.erase_bind, erase_runNodeNoted]
      refine congrArg (Dialogue.bind (t.runNode n b)) (funext fun o => ?_)
      obtain ⟨step, after⟩ := o
      cases step with
      | failed => rfl
      | reply response move => rfl
      | hop next =>
        cases hops with
        | zero => rfl
        | succ hops =>
          simp only [Noted.erase_bind, ih hops (Nat.lt_succ_self hops)]
          rfl

/-- Every equation of a walk is evaluated with what the caller said, and with variables that differ
from those at the beginning only where the nodes of the walk may have set them. -/
theorem walkNoted_heard (hops : Nat) (id : String) (b : Bindings) :
    (t.walkNoted hops id b).dialogue.Ensures fun es o => ∀ a ∈ o.2,
      a.userInput = t.userInput ∧ b.Extends (t.WalkMaySet o.1 es) a.bindings := by
  induction hops using Nat.strongRecOn generalizing id b with
  | ind hops ih =>
    unfold walkNoted
    cases hnode : t.flow.node? id with
    | none => exact Dialogue.ensures_done nofun
    | some n =>
      obtain ⟨-, rfl, -⟩ := Flow.mem_nodes_of_node? hnode
      refine (t.runNodeNoted_ensures n b).bind ?_
      rintro es ⟨⟨step, after⟩, as⟩ ⟨hset, hheard⟩
      have hhere : ∀ (w : Walk) es', n.id ∈ w.visited → ∀ a ∈ as,
          a.userInput = t.userInput ∧ b.Extends (t.WalkMaySet w (es ++ es')) a.bindings := by
        intro w es' hmem a ha
        obtain ⟨rfl, huser⟩ := hheard a ha
        exact ⟨huser, hset.mono fun name hname => ⟨n.id, hmem, n, hnode, hname.append [] es'⟩⟩
      have hlast : ∀ r ending, (Dialogue.done
          ((⟨r, [n.id], ending⟩ : Walk), as ++ ([] : List Appraisal))).Ensures fun es' o =>
            ∀ a ∈ o.2, a.userInput = t.userInput ∧
              b.Extends (t.WalkMaySet o.1 (es ++ es')) a.bindings := by
        intro r ending
        refine Dialogue.ensures_done fun a ha => ?_
        exact hhere _ [] (List.mem_singleton_self n.id) a (by simpa using ha)
      cases step with
      | failed => exact hlast _ _
      | reply response move => exact hlast _ _
      | hop next =>
        cases hops with
        | zero => exact hlast _ _
        | succ hops =>
          simp only [Noted.dialogue_bind, Noted.dialogue_pure, Dialogue.bind_assoc,
            Dialogue.done_bind, List.append_nil]
          refine (ih hops (Nat.lt_succ_self hops) next after).map fun es' o ho a ha => ?_
          obtain hold | hnew := List.mem_append.1 ha
          · exact hhere (o.1.after n.id) es' List.mem_cons_self a hold
          · -- the rest of the walk begins with what this node has set
            obtain ⟨huser, hrest⟩ := ho a hnew
            have hfirst : b.Extends (t.WalkMaySet (o.1.after n.id) (es ++ es')) after :=
              hset.mono fun name hname =>
                ⟨n.id, List.mem_cons_self, n, hnode, hname.append [] es'⟩
            refine ⟨huser, hfirst.trans (hrest.mono ?_)⟩
            rintro name ⟨id, hid, n', hn', hname⟩
            refine ⟨id, List.mem_cons_of_mem _ hid, n', hn', ?_⟩
            simpa using hname.append es []

end Turn

end CallFlow
