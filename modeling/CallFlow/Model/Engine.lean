import CallFlow.Dialogue
import CallFlow.Model.Answer
import CallFlow.Model.Prompt
import CallFlow.Settings
import CallFlow.Text.Case

namespace CallFlow

/-- What is said next, and what the model makes of the caller's words. -/
structure Utterance where
  response : String
  matchedTransition : Option String := none
  extractedVariables : Bindings := []
  deriving Repr

/-- A choice of model, or what the settings say. -/
structure Tuning where
  /-- The empty text leaves the choice to the settings. -/
  model : String := ""
  temperature : Option Amount := none
  /-- None and zero leave the choice to the settings. -/
  maxTokens : Option Int := none
  deriving Repr

namespace Engine

/-- The reply in place of an empty one. -/
def emptyReply : String := "I understand. How can I help you further?"

/-- The client that settings ask for. -/
def clientSpec (s : ModelSettings) : ClientSpec := ⟨.ofProvider s.provider, s.apiKey, s.timeout⟩

/-- The request with a tool. -/
def request (s : ModelSettings) (tuning : Tuning) (system : String) (messages : List Message)
    (tool : Tool) : ModelRequest where
  dialect := .ofProvider s.provider
  model := if tuning.model = "" then s.model else tuning.model
  maxTokens :=
    match tuning.maxTokens with
    | none => s.maxTokens
    | some n => if n = 0 then s.maxTokens else n
  temperature := tuning.temperature.getD s.temperature
  system := system
  messages := messages
  tool := tool

/-- Asks a model to use a tool. None when there is no client, the request fails, or the time is
over; it is over before the request when there is no time at all. -/
def ask (s : ModelSettings) (r : ModelRequest) : Dialogue (Option ModelAnswer) := do
  if ← .query (.client (clientSpec s)) then
    if s.timeout.isOver then return none
    let reply ← .query (.model r)
    return ModelAnswer.ofReply? r.tool.name reply
  else return none

/-- A text without blanks around it, or the standing reply when nothing is left. -/
def spoken (text : String) : String :=
  let trimmed := trimText text
  if trimmed = "" then emptyReply else trimmed

/-- The utterance that an answer amounts to. A transition that was not offered is dropped. -/
def utterance (handles : List String) (a : ModelAnswer) : Utterance :=
  match a.arguments.map TurnAnswer.reader with
  | some (.read t) =>
    { response := spoken t.response
      matchedTransition := t.matchedTransition.filter fun h => h ≠ "" && handles.contains h
      extractedVariables := t.extractedVariables }
  | _ => { response := spoken a.text }

/-- Asks for a reply to the caller. Whatever becomes of the request, there is one; only a request
that can not be put together is an error. -/
def generate (s : Settings) (content : Option Content) (userInput : String)
    (bindings : Bindings) (history : History) (ts : List Transition) (tuning : Tuning)
    (globalPrompt : String) : Dialogue (Except Prompt.Error Utterance) :=
  match Prompt.turn content bindings ts globalPrompt, Prompt.messages history userInput with
  | .error e, _ => return .error e
  | .ok _, .error e => return .error (.history e)
  | .ok system, .ok messages => do
    let handles := ts.map Transition.handle
    let r := request s.model tuning system messages (Prompt.turnTool handles)
    match ← ask s.model r with
    | none => return .ok { response := s.engine.fallbackMessage }
    | some a => return .ok (utterance handles a)

/-- The handle that the judgement picks which a value amounts to. -/
def chosen (handles : List String) (v : Value) : Option String :=
  match Judgement.reader (if v.isTruthy then v else .object []) with
  | .refused _ => none
  | .read j =>
    let handle := trimText j.matchedHandle
    if handle = "" || lowerAscii handle = Prompt.noMatch then none
    else if handles.contains handle then some handle
    else none

/-- The handle that an answer picks. For want of arguments the text is searched for an object. -/
def pick (handles : List String) (a : ModelAnswer) : Except Json.ReadError (Option String) :=
  match a.arguments with
  | some v => .ok (chosen handles v)
  | none =>
    (ModelAnswer.objectIn? a.text).map fun found =>
      chosen handles ((found.map Value.object).getD .null)

/-- The request that puts transitions before a model. -/
def judgeRequest (s : ModelSettings) (system userInput : String) (handles : List String) :
    ModelRequest :=
  let tuning : Tuning :=
    { model := s.conditionModel, temperature := some (.real 0.1), maxTokens := some 150 }
  let message : Message := ⟨"user", .text (if userInput = "" then "(no input)" else userInput)⟩
  request s tuning system [message] (Prompt.conditionTool handles)

/-- Why transitions can not be judged. -/
inductive Error where
  | prompt (e : Prompt.Error)
  /-- The text of the answer can not be searched for an object. -/
  | answer (e : Json.ReadError)
  deriving Repr, DecidableEq

/-- Asks which of several transitions is to be taken. No transitions are not asked about. -/
def judge (s : Settings) (bindings : Bindings) (userInput : String) (history : History)
    (ts : List Transition) : Dialogue (Except Error (Option String)) :=
  if ts.isEmpty then return .ok none
  else match Prompt.condition ts bindings userInput history s.model.historyWindow with
    | .error e => return .error (.prompt e)
    | .ok system => do
      let handles := ts.map Transition.handle
      match ← ask s.model (judgeRequest s.model system userInput handles) with
      | none => return .ok none
      | some a => return (pick handles a).mapError .answer

end Engine

end CallFlow
