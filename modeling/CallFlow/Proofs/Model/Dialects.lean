import CallFlow.Model.Engine
import CallFlow.Proofs.Dialogue.Client
import Mathlib

namespace CallFlow

/-- A use of a tool with an object. -/
structure ObjectUse where
  tool : String
  members : Bindings

/-- The use among blocks. -/
def ObjectUse.block (u : ObjectUse) : ToolUse := ⟨u.tool, .object u.members⟩

/-- A call in a chat whose arguments are JSON text for the object of a use. -/
def ChatCall.Spells (c : ChatCall) (u : ObjectUse) : Prop :=
  c.tool = u.tool ∧ ∃ text, c.arguments = some text ∧ Json.read text = .ok (.object u.members)

/-- A reply in a dialect that tells a text and uses of tools in their order. The text may be cut
into blocks anywhere, and in a chat an empty one may be lacking. -/
inductive ModelReply.Tells (text : String) (uses : List ObjectUse) :
    Dialect → ModelReply → Prop where
  | chat {content : Option String} {calls : List ChatCall} (hcontent : content.getD "" = text)
    (hcalls : List.Forall₂ ChatCall.Spells calls uses) :
    Tells text uses .chat (.chat content (calls.map some))
  | blocks {texts : List String} (htexts : String.join texts = text) :
    Tells text uses .blocks (.blocks texts (uses.map ObjectUse.block))

namespace ModelAnswer

/-- The arguments that spell the members of a use are read as them. -/
theorem ofText_of_spells {c : ChatCall} {u : ObjectUse} (h : c.Spells u) :
    ofText c.arguments = some (some (.object u.members)) := by
  obtain ⟨-, text, harguments, hread⟩ := h
  have hne : text ≠ "" := by
    rintro rfl
    cases hread
  simp [ofText, harguments, hne, hread]

/-- The first call of a tool in a chat spells the first use of it. -/
theorem ofCalls?_spells {calls : List ChatCall} {uses : List ObjectUse}
    (h : List.Forall₂ ChatCall.Spells calls uses) (tool text : String) :
    ofCalls? tool text (calls.map some) =
      some ⟨(uses.find? fun u => u.tool = tool).map fun u => .object u.members, text⟩ := by
  have hall : (calls.map some).filterMap id = calls := by simp [List.filterMap_map]
  rw [ofCalls?, hall]
  induction h with
  | nil => rfl
  | @cons c u calls uses hspells _ ih =>
    by_cases htool : u.tool = tool
    · have hcall : c.tool = tool := hspells.1.trans htool
      simp [htool, hcall, ofText_of_spells hspells]
    · have hcall : c.tool ≠ tool := fun heq => htool (hspells.1.symm.trans heq)
      have hrest : (calls.map some).filterMap id = calls := by simp [List.filterMap_map]
      simpa [htool, hcall] using ih hrest

/-- Arguments that are an object stand as they are. -/
theorem arguments?_object (members : Bindings) :
    ToolUse.arguments? (.object members) = some members := by
  cases members <;> rfl

/-- A reply amounts to its text and the first use of the tool, in either dialect. -/
theorem ofReply?_of_tells {text : String} {uses : List ObjectUse} {d : Dialect}
    {reply : ModelReply} (h : reply.Tells text uses d) (tool : String) :
    ofReply? tool reply =
      some ⟨(uses.find? fun u => u.tool = tool).map fun u => .object u.members, text⟩ := by
  cases h with
  | @chat content calls hcontent hcalls =>
    rw [ofReply?, hcontent]
    exact ofCalls?_spells hcalls tool text
  | @blocks texts htexts =>
    have hfirst : (uses.map ObjectUse.block).find? (fun u => u.tool = tool) =
        (uses.find? fun u => u.tool = tool).map ObjectUse.block := by
      rw [List.find?_map]
      rfl
    simp only [ofReply?, ofUses?, hfirst, htexts]
    cases uses.find? fun u => u.tool = tool with
    | none => rfl
    | some u => simp [ObjectUse.block, arguments?_object]

end ModelAnswer

/-- The settings with another provider. -/
def Settings.withProvider (s : Settings) (provider : String) : Settings :=
  { s with model := { s.model with provider := provider } }

namespace Engine

/-- What comes of a question, if the reply to it is next in store. -/
theorem run_ask (s : ModelSettings) (r : ModelRequest) {script : Script} {reply : ModelReply}
    {gone : Bool} {rest : List (Cue ModelReply)} (h : script.model = ⟨reply, gone⟩ :: rest) :
    ((ask s r).run script).1 =
      if script.client.serves (clientSpec s) && !s.timeout.isOver then
        ModelAnswer.ofReply? r.tool.name reply
      else none := by
  have hqueue := script.model_answer_client (clientSpec s)
  rw [h] at hqueue
  rw [← script.answer_client]
  simp only [ask, Dialogue.query, Dialogue.bind_eq, Dialogue.ask_bind, Dialogue.done_bind,
    Dialogue.run_ask]
  generalize script.answer (.client (clientSpec s)) = made at hqueue ⊢
  obtain ⟨served, after⟩ := made
  cases served with
  | false => rfl
  | true =>
    cases s.timeout.isOver with
    | true => rfl
    | false =>
      have hafter : after.model = ⟨reply, gone⟩ :: rest := hqueue
      simp [Script.answer, Script.next, hafter]

section Providers

variable {text : String} {uses : List ObjectUse} {provider other : String}
  {reply reply' : ModelReply} {script script' : Script} {gone gone' : Bool}
  {rest rest' : List (Cue ModelReply)}

/-- Two providers that tell the same answer a question alike. -/
theorem run_ask_eq (h : reply.Tells text uses (.ofProvider provider))
    (h' : reply'.Tells text uses (.ofProvider other)) (s : Settings) {r r' : ModelRequest}
    (htool : r.tool = r'.tool) (hclient : script.client = script'.client)
    (hmodel : script.model = ⟨reply, gone⟩ :: rest)
    (hmodel' : script'.model = ⟨reply', gone'⟩ :: rest') :
    ((ask (s.withProvider provider).model r).run script).1 =
      ((ask (s.withProvider other).model r').run script').1 := by
  have hserves : script.client.serves (clientSpec (s.withProvider provider).model) =
      script'.client.serves (clientSpec (s.withProvider other).model) := by
    rw [hclient]
    cases script'.client <;> rfl
  rw [run_ask _ _ hmodel, run_ask _ _ hmodel', hserves, htool, ModelAnswer.ofReply?_of_tells h,
    ModelAnswer.ofReply?_of_tells h']
  rfl

/-- Whichever provider is asked, and however its dialect cuts the text and writes the arguments, a
reply that tells the same text and the same uses of tools leads to the same utterance and to the
same transition. -/
theorem answers_alike_of_tells (h : reply.Tells text uses (.ofProvider provider))
    (h' : reply'.Tells text uses (.ofProvider other)) (s : Settings)
    (hclient : script.client = script'.client)
    (hmodel : script.model = ⟨reply, gone⟩ :: rest)
    (hmodel' : script'.model = ⟨reply', gone'⟩ :: rest') (content : Option Content)
    (userInput : String) (b : Bindings) (history : History) (ts : List Transition)
    (tuning : Tuning) (globalPrompt : String) :
    ((generate (s.withProvider provider) content userInput b history ts tuning globalPrompt).run
        script).1 =
      ((generate (s.withProvider other) content userInput b history ts tuning globalPrompt).run
        script').1 ∧
    ((judge (s.withProvider provider) b userInput history ts).run script).1 =
      ((judge (s.withProvider other) b userInput history ts).run script').1 := by
  have hask : ∀ r : String → ModelRequest, (r provider).tool = (r other).tool →
      ((ask (s.withProvider provider).model (r provider)).run script).1 =
        ((ask (s.withProvider other).model (r other)).run script').1 :=
    fun r htool => run_ask_eq h h' s htool hclient hmodel hmodel'
  constructor
  · unfold generate
    cases Prompt.turn content b ts globalPrompt with
    | error e => rfl
    | ok system =>
      cases Prompt.messages history userInput with
      | error e => rfl
      | ok messages =>
        have hturn := hask (fun p => request (s.withProvider p).model tuning system messages
          (Prompt.turnTool (ts.map Transition.handle))) rfl
        simp only [Dialogue.bind_eq, Dialogue.run_bind, hturn]
        split <;> rfl
  · unfold judge
    cases ts.isEmpty with
    | true => rfl
    | false =>
      have hwindow : (s.withProvider provider).model.historyWindow =
        (s.withProvider other).model.historyWindow := rfl
      rw [hwindow]
      cases Prompt.condition ts b userInput history (s.withProvider other).model.historyWindow with
      | error e => rfl
      | ok system =>
        have hjudge := hask (fun p => judgeRequest (s.withProvider p).model system userInput
          (ts.map Transition.handle)) rfl
        simp only [Bool.false_eq_true, if_false, Dialogue.bind_eq, Dialogue.run_bind, hjudge]
        split <;> rfl

end Providers

/-- A use of a tool that was not offered, and then one of the tool for replies. -/
private def searchThenReply : List ObjectUse :=
  [⟨"search", []⟩, ⟨"process_conversation", [("response", .text "Bye.")]⟩]

private def searchThenReplyCalls : List ChatCall :=
  [⟨"search", some "\x7b\x7d"⟩,
   ⟨"process_conversation", some "\x7b\"response\": \"Bye.\"\x7d"⟩]

private def searchThenReplyChat : ModelReply := .chat none (searchThenReplyCalls.map some)

private def searchThenReplyBlocks : ModelReply :=
  .blocks ["", ""] (searchThenReply.map ObjectUse.block)

private def chatScript : Script := { model := [⟨searchThenReplyChat, false⟩] }

private def blocksScript : Script := { model := [⟨searchThenReplyBlocks, true⟩] }

/-- A chat without a text and blocks of empty ones tell the same. -/
theorem answers_alike_searchThenReply :
    searchThenReplyChat.Tells "" searchThenReply (.ofProvider "openai") ∧
      searchThenReplyBlocks.Tells "" searchThenReply (.ofProvider "anthropic") ∧
      ((generate (({} : Settings).withProvider "openai") none "Bye" [] [] [] {} "").run
          chatScript).1 =
        ((generate (({} : Settings).withProvider "anthropic") none "Bye" [] [] [] {} "").run
          blocksScript).1 := by
  have hsearch : ChatCall.Spells ⟨"search", some "\x7b\x7d"⟩ ⟨"search", []⟩ :=
    ⟨rfl, _, rfl, by cbv⟩
  have hreply :
      ChatCall.Spells ⟨"process_conversation", some "\x7b\"response\": \"Bye.\"\x7d"⟩
        ⟨"process_conversation", [("response", .text "Bye.")]⟩ := ⟨rfl, _, rfl, by cbv⟩
  have hchat : searchThenReplyChat.Tells "" searchThenReply (.ofProvider "openai") :=
    .chat rfl (.cons hsearch (.cons hreply .nil))
  have hblocks : searchThenReplyBlocks.Tells "" searchThenReply (.ofProvider "anthropic") :=
    .blocks rfl
  have hclient : chatScript.client = blocksScript.client := rfl
  have hmodel : chatScript.model = ⟨searchThenReplyChat, false⟩ :: [] := rfl
  have hmodel' : blocksScript.model = ⟨searchThenReplyBlocks, true⟩ :: [] := rfl
  obtain ⟨hgenerate, -⟩ := answers_alike_of_tells hchat hblocks {} hclient hmodel hmodel' none
    "Bye" [] [] [] {} ""
  exact ⟨hchat, hblocks, hgenerate⟩

end Engine

end CallFlow
