import CallFlow.Proofs.Turn.Walk

namespace CallFlow

namespace Dialogue

variable {α β : Type} {P : Query → Prop} {d : Dialogue α}

/-- However the dialogue goes, its queries have a property. -/
inductive AsksOnly (P : Query → Prop) : Dialogue α → Prop where
  | done (a : α) : AsksOnly P (.done a)
  | ask {q : Query} {next : q.Reply → Dialogue α} (h : P q)
      (hnext : ∀ reply, AsksOnly P (next reply)) : AsksOnly P (.ask q next)

theorem asksOnly_query {q : Query} (h : P q) : (query q).AsksOnly P := .ask h .done

/-- A dialogue that goes on asks what its parts ask. -/
theorem AsksOnly.bind (h : d.AsksOnly P) {f : α → Dialogue β} (hf : ∀ a, (f a).AsksOnly P) :
    (d.bind f).AsksOnly P := by
  induction h with
  | done a => exact hf a
  | ask hquery _ ih => exact .ask hquery ih

theorem AsksOnly.mono {Q : Query → Prop} (h : d.AsksOnly P) (himp : ∀ q, P q → Q q) :
    d.AsksOnly Q := by
  induction h with
  | done a => exact .done a
  | ask hquery _ ih => exact .ask (himp _ hquery) ih

end Dialogue

/-- A query in the course of a walk. -/
def Query.OnWalk (s : ModelSettings) : Query → Prop
  | client spec => spec = Engine.clientSpec s
  | hungUp => False
  | model _ | http _ | code _ | sleep _ | kill => True

open Dialogue

namespace Engine

variable {s : Settings} {b : Bindings} {userInput : String} {history : History}
  {ts : List Transition}

/-- Asking a model asks for a client and for the reply. -/
theorem ask_asksOnly {s : ModelSettings} {r : ModelRequest} :
    (ask s r).AsksOnly (Query.OnWalk s) := by
  have hclient : (query (.client (clientSpec s))).AsksOnly (Query.OnWalk s) := asksOnly_query rfl
  have hmodel : (query (.model r)).AsksOnly (Query.OnWalk s) := asksOnly_query trivial
  refine hclient.bind fun made => ?_
  split
  · split
    · exact .done _
    · exact hmodel.bind fun reply => .done _
  · exact .done _

theorem generate_asksOnly {content : Option Content} {tuning : Tuning} {globalPrompt : String} :
    (generate s content userInput b history ts tuning globalPrompt).AsksOnly
      (Query.OnWalk s.model) := by
  unfold generate
  split
  · exact .done _
  · exact .done _
  · refine ask_asksOnly.bind fun answer => ?_
    split <;> exact .done _

theorem judge_asksOnly :
    (judge s b userInput history ts).AsksOnly (Query.OnWalk s.model) := by
  unfold judge
  split
  · exact .done _
  · split
    · exact .done _
    · refine ask_asksOnly.bind fun answer => ?_
      split <;> exact .done _

end Engine

/-- The time limit of the functions of a kind that set none of their own. -/
def FunctionSettings.limit (s : FunctionSettings) : FunctionKind → Amount
  | .http => s.httpTimeout
  | .code => s.codeTimeout

/-- The time limit that a function is carried out under. -/
def Turn.limit (s : FunctionSettings) (c : FunctionConfig) : Amount :=
  Amount.orElse (timeout c) (s.limit c.kind)

/-- A query for the sake of a function: its request, or the job of its snippet, under a time
limit. -/
def Query.ForFunction (s : FunctionSettings) (c : FunctionConfig) (b : Bindings)
    (limit : Amount) : Query → Prop
  | http r => Web.request c b limit = some r
  | code job => Sandbox.prepare s c.code (Turn.inputs c b) limit = .ok job
  | sleep _ | kill => True
  | client _ | model _ | hungUp => False

section Functions

variable {s : FunctionSettings} {c : FunctionConfig} {b : Bindings} {limit : Amount}

theorem Query.ForFunction.onWalk {q : Query} (h : q.ForFunction s c b limit)
    (model : ModelSettings) : q.OnWalk model := by
  cases q with
  | http | code | sleep | kill => trivial
  | client | model | hungUp => exact h.elim

/-- Only the request of the function is sent. -/
theorem Web.send_asksOnly {r : HttpRequest} (h : request c b limit = some r)
    (retries failures : Nat) :
    (send r retries failures).AsksOnly (Query.ForFunction s c b limit) := by
  have hhttp : (query (.http r)).AsksOnly (Query.ForFunction s c b limit) := asksOnly_query h
  induction retries generalizing failures with
  | zero => exact hhttp
  | succ retries ih =>
    have hsleep : (query (.sleep (pause failures))).AsksOnly (Query.ForFunction s c b limit) :=
      asksOnly_query trivial
    refine hhttp.bind fun reply => ?_
    split
    · exact hsleep.bind fun _ => ih (failures + 1)
    · exact .done _

/-- A function over HTTP asks what it is there for. -/
theorem Web.execute_asksOnly {timeout : Option Amount} :
    (execute s c b timeout).AsksOnly
      (Query.ForFunction s c b (Amount.orElse timeout s.httpTimeout)) := by
  unfold execute
  dsimp only
  split
  · exact .done _
  · exact .done _
  · rename_i hrequest _
    split
    · exact .done _
    · exact (send_asksOnly hrequest _ _).bind fun reply => .done _

theorem Sandbox.runJob_asksOnly {job : Job}
    (h : prepare s c.code (Turn.inputs c b) limit = .ok job) :
    (runJob job limit).AsksOnly (Query.ForFunction s c b limit) := by
  have hcode : (query (.code job)).AsksOnly (Query.ForFunction s c b limit) := asksOnly_query h
  have hkill : (query .kill).AsksOnly (Query.ForFunction s c b limit) := asksOnly_query trivial
  refine hcode.bind fun reply => ?_
  split
  · exact .done _
  · exact .done _
  · exact hkill.bind fun _ => .done _

theorem Sandbox.execute_asksOnly :
    (execute s c.code (Turn.inputs c b) limit).AsksOnly (Query.ForFunction s c b limit) := by
  -- whatever comes before the child, which is not to be unfolded here
  delta execute
  generalize hprepared : prepare s c.code (Turn.inputs c b) limit = prepared
  cases prepared with
  | ok job => exact runJob_asksOnly hprepared
  | error e => exact .done _

/-- A snippet asks what it is there for. -/
theorem Sandbox.run_asksOnly {timeout : Option Amount} :
    (run s c.code (Turn.inputs c b) timeout).AsksOnly
      (Query.ForFunction s c b (Amount.orElse timeout s.codeTimeout)) := by
  have hexecute : (execute s c.code (Turn.inputs c b)
      (Amount.orElse timeout s.codeTimeout)).AsksOnly
        (Query.ForFunction s c b (Amount.orElse timeout s.codeTimeout)) := execute_asksOnly
  unfold run
  generalize execute s c.code (Turn.inputs c b) (Amount.orElse timeout s.codeTimeout) =
    execution at *
  refine hexecute.bind fun reply => ?_
  split <;> exact .done _

end Functions

namespace Turn

variable {t : Turn} {n : Node} {b : Bindings} {node : String}

/-- Resolving asks what a walk may ask. -/
theorem resolve_asksOnly {ts : List Transition} :
    (t.resolve ts b).AsksOnly (Query.OnWalk t.settings.model) := by
  have hjudge : ∀ ts, (t.judge b ts).AsksOnly (Query.OnWalk t.settings.model) := by
    refine fun ts => Engine.judge_asksOnly.bind fun reply => ?_
    cases reply <;> exact .done _
  unfold resolve Resolution.resolve
  cases Resolution.decided? ts b t.userInput with
  | some handle => exact .done _
  | none =>
    cases Resolution.referred? ts b t.userInput with
    | none => exact .done _
    | some prompts => exact (hjudge prompts).bind fun handle => .done _

theorem runFixed_asksOnly {c : ConversationConfig} :
    (t.runFixed node c b).AsksOnly (Query.OnWalk t.settings.model) := by
  unfold runFixed
  split
  · unfold say
    split
    · exact .done _
    · split
      · exact .done _
      · refine resolve_asksOnly.bind fun handle => ?_
        split <;> exact .done _
  · exact .done _

theorem runGenerated_asksOnly {c : ConversationConfig} :
    (t.runGenerated node c b).AsksOnly (Query.OnWalk t.settings.model) := by
  refine Engine.generate_asksOnly.bind fun reply => ?_
  cases reply with
  | error e => exact .done _
  | ok u =>
    dsimp only
    split
    · exact .done _
    · exact resolve_asksOnly.bind fun handle => .done _

/-- A function asks for nothing but its own request, or the job of its own snippet, each under its
time limit. -/
theorem call_asksOnly {c : FunctionConfig} : (t.call c b).AsksOnly
    (Query.ForFunction t.settings.functions c b (limit t.settings.functions c)) := by
  have hsnippet : (Sandbox.run t.settings.functions c.code (inputs c b) (timeout c)).AsksOnly
      (Query.ForFunction t.settings.functions c b
        (Amount.orElse (timeout c) t.settings.functions.codeTimeout)) := Sandbox.run_asksOnly
  unfold call limit
  cases c.kind with
  | http =>
    refine Web.execute_asksOnly.bind fun reply => ?_
    split <;> exact .done _
  | code =>
    simp only [callCode, Dialogue.bind_eq, Dialogue.bind_assoc]
    generalize Sandbox.run t.settings.functions c.code (inputs c b) (timeout c) = snippet at *
    exact hsnippet.bind fun v => .done _

/-- A function node asks what a walk may ask. -/
theorem runFunction_asksOnly {c : FunctionConfig} :
    (t.runFunction node c b).AsksOnly (Query.OnWalk t.settings.model) := by
  refine (call_asksOnly.mono fun q hq => hq.onWalk _).bind fun after => ?_
  cases after with
  | none => exact .done _
  | some after => exact resolve_asksOnly.bind fun handle => .done _

/-- A node asks what a walk may ask. -/
theorem runNode_asksOnly : (t.runNode n b).AsksOnly (Query.OnWalk t.settings.model) := by
  unfold runNode
  cases n.config with
  | conversation c =>
    unfold runConversation
    dsimp only
    split
    · exact runFixed_asksOnly
    · exact runGenerated_asksOnly
  | function c => exact runFunction_asksOnly
  | _ => exact .done _

/-- A walk never asks whether the caller is gone. -/
theorem walk_asksOnly (hops : Nat) (id : String) (b : Bindings) :
    (t.walk hops id b).AsksOnly (Query.OnWalk t.settings.model) := by
  induction hops using Nat.strongRecOn generalizing id b with
  | ind hops ih =>
    cases hnode : t.flow.node? id with
    | none =>
      rw [walk_missing t hnode]
      exact .done _
    | some n =>
      rw [walk_node t hnode]
      refine runNode_asksOnly.bind fun o => ?_
      obtain ⟨step, after⟩ := o
      cases step with
      | failed => exact .done _
      | reply response move => exact .done _
      | hop next =>
        cases hops with
        | zero => exact .done _
        | succ hops =>
          exact (ih hops (Nat.lt_succ_self hops) next after).bind fun w => .done _

end Turn

end CallFlow
