import CallFlow.Proofs.Dialogue.Effort
import CallFlow.Proofs.Turn.Walk

namespace CallFlow

open Dialogue

namespace Engine

variable {s : Settings} {b : Bindings} {userInput : String} {history : History}
  {ts : List Transition}

/-- A model is asked once. -/
theorem ask_asks {s : ModelSettings} {r : ModelRequest} :
    (ask s r).AsksAtMost (only .model 1) := by
  have hclient : (query (.client (clientSpec s))).AsksAtMost fun _ => 0 := asksAtMost_free rfl
  have hmodel : (query (.model r)).AsksAtMost (only .model 1) := asksAtMost_query rfl
  refine hclient.free_bind fun made => ?_
  split
  · split
    · exact asksAtMost_done
    · exact hmodel.bind_free fun reply => asksAtMost_done
  · exact asksAtMost_done

theorem generate_asks {content : Option Content} {tuning : Tuning} {globalPrompt : String} :
    (generate s content userInput b history ts tuning globalPrompt).AsksAtMost
      (only .model 1) := by
  unfold generate
  split
  · exact asksAtMost_done
  · exact asksAtMost_done
  · refine ask_asks.bind_free fun answer => ?_
    split <;> exact asksAtMost_done

theorem judge_asks : (judge s b userInput history ts).AsksAtMost (only .model 1) := by
  unfold judge
  split
  · exact asksAtMost_done
  · split
    · exact asksAtMost_done
    · refine ask_asks.bind_free fun answer => ?_
      split <;> exact asksAtMost_done

end Engine

namespace Web

/-- A request that is sent again after each failure is sent once more than it may be retried. -/
theorem send_asks (r : HttpRequest) (retries failures : Nat) :
    (send r retries failures).AsksAtMost (only .http (retries + 1)) := by
  have hhttp : (query (.http r)).AsksAtMost (only .http 1) := asksAtMost_query rfl
  induction retries generalizing failures with
  | zero => exact hhttp
  | succ retries ih =>
    have hsleep : (query (.sleep (pause failures))).AsksAtMost fun _ => 0 := asksAtMost_free rfl
    have hadd : ∀ k, only .http 1 k + only .http (retries + 1) k ≤
        only .http (retries + 1 + 1) k := by
      intro k
      cases k <;> simp [only]
      omega
    refine (hhttp.bind fun reply => ?_).mono hadd
    split
    · exact hsleep.free_bind fun _ => ih (failures + 1)
    · exact asksAtMost_done

theorem execute_asks {s : FunctionSettings} {c : FunctionConfig} {b : Bindings}
    {timeout : Option Amount} : (execute s c b timeout).AsksAtMost (only .http s.attempts) := by
  have hsend : ∀ r, (send r s.httpRetries.toNat 0).AsksAtMost (only .http s.attempts) := by
    intro r
    rw [FunctionSettings.attempts, Nat.add_comm]
    exact send_asks r s.httpRetries.toNat 0
  unfold execute
  dsimp only
  split
  · exact asksAtMost_done
  · exact asksAtMost_done
  · split
    · exact asksAtMost_done
    · exact (hsend _).bind_free fun reply => asksAtMost_done

end Web

namespace Sandbox

variable {s : FunctionSettings} {source : String} {inputs : Bindings}

theorem runJob_asks {job : Job} {timeout : Amount} :
    (runJob job timeout).AsksAtMost (only .code 1) := by
  have hcode : (query (.code job)).AsksAtMost (only .code 1) := asksAtMost_query rfl
  have hkill : (query .kill).AsksAtMost fun _ => 0 := asksAtMost_free rfl
  refine hcode.bind_free fun reply => ?_
  split
  · exact asksAtMost_done
  · exact asksAtMost_done
  · exact hkill.bind_free fun _ => asksAtMost_done

theorem execute_asks {timeout : Amount} :
    (execute s source inputs timeout).AsksAtMost (only .code 1) := by
  -- whatever comes before the child, which is not to be unfolded here
  delta execute
  generalize prepare s source inputs timeout = prepared
  cases prepared with
  | ok job => exact runJob_asks
  | error e => exact asksAtMost_done

theorem run_asks {timeout : Option Amount} :
    (run s source inputs timeout).AsksAtMost (only .code 1) := by
  have hexecute : (execute s source inputs (Amount.orElse timeout s.codeTimeout)).AsksAtMost
      (only .code 1) := execute_asks
  unfold run
  generalize execute s source inputs (Amount.orElse timeout s.codeTimeout) = execution at *
  refine hexecute.bind_free fun reply => ?_
  split <;> exact asksAtMost_done

end Sandbox

/-- What one node asks for at most. -/
def Settings.share (s : Settings) : Effort → Nat
  | .model => 2
  | .http => s.functions.attempts
  | .code => 1

namespace Turn

variable {t : Turn} {n : Node} {b : Bindings} {node : String}

theorem judge_asks {ts : List Transition} : (t.judge b ts).AsksAtMost (only .model 1) := by
  refine Engine.judge_asks.bind_free fun reply => ?_
  cases reply <;> exact asksAtMost_done

/-- Resolving takes one request to the model at most. -/
theorem resolve_asks {ts : List Transition} : (t.resolve ts b).AsksAtMost (only .model 1) := by
  unfold resolve Resolution.resolve
  cases Resolution.decided? ts b t.userInput with
  | some handle => exact asksAtMost_done
  | none =>
    cases Resolution.referred? ts b t.userInput with
    | none => exact asksAtMost_done
    | some prompts => exact judge_asks.bind_free fun handle => asksAtMost_done

/-- A fixed sentence takes one request to the model at most. -/
theorem runFixed_asks {c : ConversationConfig} :
    (t.runFixed node c b).AsksAtMost (only .model 1) := by
  unfold runFixed
  split
  · unfold say
    split
    · exact asksAtMost_done
    · split
      · exact asksAtMost_done
      · refine resolve_asks.bind_free fun handle => ?_
        split <;> exact asksAtMost_done
  · exact asksAtMost_done

/-- The model is asked for what is said, and once more for how the node is left. -/
theorem runGenerated_asks {c : ConversationConfig} :
    (t.runGenerated node c b).AsksAtMost fun k => only .model 1 k + only .model 1 k := by
  refine Engine.generate_asks.bind fun reply => ?_
  cases reply with
  | error e => exact asksAtMost_done
  | ok u =>
    dsimp only
    split
    · exact asksAtMost_done
    · exact resolve_asks.bind_free fun handle => asksAtMost_done

/-- A conversation node takes its share. -/
theorem runConversation_asks {c : ConversationConfig} :
    (t.runConversation node c b).AsksAtMost t.settings.share := by
  unfold runConversation
  split
  · refine runFixed_asks.mono fun k => ?_
    cases k <;> simp [only, Settings.share]
  · refine runGenerated_asks.mono fun k => ?_
    cases k <;> simp [only, Settings.share]

/-- A snippet takes one child. -/
theorem callCode_asks {c : FunctionConfig} : (t.callCode c b).AsksAtMost (only .code 1) := by
  have hsnippet : (Sandbox.run t.settings.functions c.code (inputs c b) (timeout c)).AsksAtMost
      (only .code 1) := Sandbox.run_asks
  simp only [callCode, Dialogue.bind_eq]
  generalize Sandbox.run t.settings.functions c.code (inputs c b) (timeout c) = snippet at *
  exact hsnippet.bind_free fun v => asksAtMost_done

/-- A function goes out over HTTP or runs a snippet. -/
theorem call_asks {c : FunctionConfig} : (t.call c b).AsksAtMost fun k =>
    only .http t.settings.functions.attempts k + only .code 1 k := by
  unfold call
  split
  · refine (Web.execute_asks.bind_free fun reply => ?_).mono fun k => Nat.le_add_right _ _
    split <;> exact asksAtMost_done
  · refine (callCode_asks.bind_free fun after => ?_).mono fun k => Nat.le_add_left _ _
    exact asksAtMost_done

/-- A function node takes its share. -/
theorem runFunction_asks {c : FunctionConfig} :
    (t.runFunction node c b).AsksAtMost t.settings.share := by
  have hshare : ∀ k, only .http t.settings.functions.attempts k + only .code 1 k +
      only .model 1 k ≤ t.settings.share k := by
    intro k
    cases k <;> simp [only, Settings.share]
  refine (call_asks.bind fun after => ?_).mono hshare
  cases after with
  | none => exact asksAtMost_done
  | some after => exact resolve_asks.bind_free fun handle => asksAtMost_done

/-- A node takes its share. -/
theorem runNode_asks : (t.runNode n b).AsksAtMost t.settings.share := by
  unfold runNode
  cases n.config with
  | conversation c => exact runConversation_asks
  | function c => exact runFunction_asks
  | _ => exact asksAtMost_done

end Turn

/-- So many nodes were run at most, and none of them asked for more than its share. -/
structure Moderate (settings : Settings) (most : Nat) (es : List Exchange)
    (visited : List String) : Prop where
  nodes : visited.length ≤ most
  share : ∀ k, asked k es ≤ settings.share k * visited.length

namespace Moderate

variable {settings : Settings} {m n : Nat} {es es' : List Exchange} {visited visited' : List String}

theorem free (h : ∀ k, asked k es ≤ 0) : Moderate settings m es [] :=
  ⟨Nat.zero_le m, fun k => Nat.le_trans (h k) (Nat.zero_le _)⟩

theorem nil : Moderate settings m [] [] := free fun _ => Nat.le_refl 0

/-- Moderate efforts add up. -/
theorem append (h : Moderate settings m es visited) (h' : Moderate settings n es' visited') :
    Moderate settings (m + n) (es ++ es') (visited ++ visited') where
  nodes := by
    rw [List.length_append]
    exact Nat.add_le_add h.nodes h'.nodes
  share k := by
    rw [asked_append, List.length_append, Nat.mul_add]
    exact Nat.add_le_add (h.share k) (h'.share k)

theorem mono (h : Moderate settings m es visited) (hle : m ≤ n) : Moderate settings n es visited :=
  ⟨Nat.le_trans h.nodes hle, h.share⟩

end Moderate

namespace Turn

variable {t : Turn}

/-- A walk makes a moderate effort for each node that it may run. -/
theorem walk_moderate (hops : Nat) (id : String) (b : Bindings) :
    (t.walk hops id b).Ensures fun es w => Moderate t.settings (hops + 1) es w.visited := by
  induction hops using Nat.strongRecOn generalizing id b with
  | ind hops ih =>
    cases hnode : t.flow.node? id with
    | none =>
      rw [walk_missing t hnode]
      exact ensures_done .nil
    | some n =>
      obtain ⟨-, rfl, -⟩ := Flow.mem_nodes_of_node? hnode
      rw [walk_node t hnode]
      refine Ensures.bind runNode_asks ?_
      rintro es ⟨step, after⟩ hasked
      have hone : Moderate t.settings 1 es [n.id] := ⟨Nat.le_refl 1, by simpa using hasked⟩
      have hlast : Moderate t.settings (hops + 1) (es ++ []) [n.id] := by
        rw [List.append_nil]
        exact hone.mono (Nat.le_add_left 1 hops)
      cases step with
      | failed => exact ensures_done hlast
      | reply response move => exact ensures_done hlast
      | hop next =>
        cases hops with
        | zero => exact ensures_done hlast
        | succ hops =>
          refine (ih hops (Nat.lt_succ_self hops) next after).map fun es' w hw => ?_
          exact (hone.append hw).mono (Nat.le_of_eq (Nat.add_comm 1 (hops + 1)))

end Turn

end CallFlow
