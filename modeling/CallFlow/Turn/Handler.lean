import CallFlow.Flow.Names
import CallFlow.Model.Engine
import CallFlow.Resolution
import CallFlow.Sandbox.Run
import CallFlow.Turn.Result
import CallFlow.Web.Function

namespace CallFlow

/-- What is fixed while a turn runs. -/
structure Turn where
  settings : Settings
  flow : Flow
  userInput : String
  history : History

/-- What comes after a node. -/
inductive Step where
  /-- Another node, without a word. -/
  | hop (node : String)
  | reply (response : String) (move : Move)
  /-- The node fails. -/
  | failed
  deriving Repr, DecidableEq

namespace Turn

variable (t : Turn)

/-- The step of a node's handler and the variables after it. A handler that fails gives the
variables as they are then. -/
abbrev Outcome := Step × Bindings

/-- The variable that tells whether the last function succeeded. -/
def successName : String := "_function_success"

/-- The variable with the status of the last function. -/
def statusName : String := "_function_status"

/-- The node that follows when a node is left by a handle. An edge to the empty id leads
nowhere. -/
def successor? (node handle : String) : Option String :=
  (t.flow.next? node (some handle)).filter (· ≠ "")

/-- The node that follows by default. -/
def defaultSuccessor? (node : String) : Option String := t.successor? node defaultHandle

/-- Goes on to a node without a word, or ends the call where there is none. -/
def silently : Option String → Step
  | some node => .hop node
  | none => .reply "" .finish

/-- Says something and waits at a node, or ends the call where there is none. -/
def saying (response : String) (next : Option String) : Step :=
  .reply response (.gatherOrFinish next)

/-- Goes on with a rendered text, or fails if there is none. -/
def withText (text : Option String) (step : String → Step) : Step := text.elim .failed step

/-- Says the text of a content, if there is any, on the way to the next node. -/
def onTheWay (speech : Option Content) (bindings : Bindings) (next : Option String) : Step :=
  match speech with
  | some c =>
    if c.text = "" then silently next
    else withText (Template.render c.text bindings) fun text => saying text next
  | none => silently next

/-- Lets the language model judge transitions. One that can not be asked picks none. -/
def judge (bindings : Bindings) : Judge := fun ts => do
  match ← Engine.judge t.settings bindings t.userInput t.history ts with
  | .ok handle => return handle
  | .error _ => return none

/-- The handle by which a node is left. -/
def resolve (ts : List Transition) (bindings : Bindings) : Dialogue (Option String) :=
  Resolution.resolve (some (t.judge bindings)) ts bindings t.userInput

/-- Runs a start node, which greets if it speaks first. -/
def runStart (node : String) (c : StartConfig) (bindings : Bindings) : Outcome :=
  let greeting := if c.speaksFirst then c.greeting else none
  (onTheWay greeting bindings (t.defaultSuccessor? node), bindings)

/-- Says an authored sentence. Unless it is passed by, the caller's reply decides on what follows,
and a reply that decides nothing makes the sentence be said again. -/
def say (node : String) (c : ConversationConfig) (text : String) (bindings : Bindings) :
    Dialogue Outcome := do
  if c.skipResponse then return (saying text (t.defaultSuccessor? node), bindings)
  if t.userInput = "" then return (.reply text (.gather node), bindings)
  match (← t.resolve c.transitions bindings).bind (t.successor? node) with
  | some next => return (.reply "" (.gather next), bindings)
  | none => return (.reply text (.gather node), bindings)

/-- A sentence as it is authored. -/
def runFixed (node : String) (c : ConversationConfig) (bindings : Bindings) : Dialogue Outcome :=
  match Template.render c.content.text bindings with
  | some text => t.say node c text bindings
  | none => return (.failed, bindings)

/-- A sentence of the language model. The transition that the model proposes is taken if it leads
anywhere, or else the one that the transitions resolve to with what the model extracted. -/
def runGenerated (node : String) (c : ConversationConfig) (bindings : Bindings) :
    Dialogue Outcome := do
  let tuning : Tuning :=
    { model := c.model.getD "", temperature := c.temperature.map .real, maxTokens := c.maxTokens }
  match ← Engine.generate t.settings (some c.content) t.userInput bindings t.history
      c.transitions tuning t.flow.settings.globalPrompt with
  | .error _ => return (.failed, bindings)
  | .ok u =>
    let bindings := bindings.update u.extractedVariables
    match u.matchedTransition.bind (t.successor? node) with
    | some next => return (.reply u.response (.gather next), bindings)
    | none =>
      let next := (← t.resolve c.transitions bindings).bind (t.successor? node)
      return (.reply u.response (.gather (next.getD node)), bindings)

/-- Runs a conversation node: it asks, waits for the caller and takes an exit. -/
def runConversation (node : String) (c : ConversationConfig) (bindings : Bindings) :
    Dialogue Outcome :=
  match c.content.mode with
  | .fixed => t.runFixed node c bindings
  | .prompt => t.runGenerated node c bindings

/-- The time limit of a function in seconds. -/
def timeout (c : FunctionConfig) : Option Amount := c.timeout.map fun ms => .real (ms / 1000)

/-- The variables after a function over HTTP, none when the function fails. -/
def callWeb (c : FunctionConfig) (bindings : Bindings) : Dialogue (Option Bindings) := do
  match ← Web.execute t.settings.functions c bindings (timeout c) with
  | .error _ => return none
  | .ok r =>
    let bindings := bindings.update r.bindings
    return some ((bindings.set successName (.bool r.succeeded)).set statusName (.int r.status))

/-- The inputs of a snippet. -/
def inputs (c : FunctionConfig) (bindings : Bindings) : Bindings :=
  Bindings.ofMembers (c.inputVariables.map fun name => (name, bindings.getD name))

/-- The variables after a snippet. -/
def callCode (c : FunctionConfig) (bindings : Bindings) : Dialogue Bindings := do
  let v ← Sandbox.run t.settings.functions c.code (inputs c bindings) (timeout c)
  return if c.outputVariable = "" then bindings else bindings.set c.outputVariable v

/-- The variables after a function. -/
def call (c : FunctionConfig) (bindings : Bindings) : Dialogue (Option Bindings) :=
  match c.kind with
  | .http => t.callWeb c bindings
  | .code => do return some (← t.callCode c bindings)

/-- Runs a function node. -/
def runFunction (node : String) (c : FunctionConfig) (bindings : Bindings) :
    Dialogue Outcome := do
  match ← t.call c bindings with
  | none => return (.failed, bindings)
  | some bindings =>
    let chosen := (← t.resolve c.transitions bindings).bind (t.successor? node)
    return (onTheWay c.speech bindings (chosen <|> t.defaultSuccessor? node), bindings)

/-- A value to count from: zero for no value. -/
def counter (v : Value) : Value := if v.isTruthy then v else .int 0

/-- A number as a value, without a point if it is whole. -/
def counted (x : Float) : Value :=
  match Decimal.toInt? x with
  | some i => .int i
  | none => .float x

/-- The text that something is appended to, none when the value can not be shown. -/
def appendable (current : Value) : Option String :=
  if current.isTruthy then current.display else some ""

/-- The new value of a variable. None when a number is too large to count with, or a value can not
be shown. -/
def assigned (operation : AssignmentOperation) (current : Value) (operand : String) :
    Option Value :=
  let change (f : Float → Float → Float) : Option Value := do
    let x ← (counter current).toNumber?
    let y ← (Value.text operand).toNumber?
    return counted (f x y)
  match operation with
  | .set => some (.text operand)
  | .append => (appendable current).map fun s => .text (s ++ operand)
  | .increment => change (· + ·)
  | .decrement => change (· - ·)

/-- The value that an assignment gives its variable. -/
def assignment? (a : Assignment) (bindings : Bindings) : Option Value := do
  let operand ← Template.render a.value bindings
  assigned a.operation (bindings.getD a.target) operand

/-- Carries out assignments one after the other, each with the variables after the one before. The
first that fails leaves the variables at that. -/
def assignAll : List Assignment → Bindings → Bool × Bindings
  | [], bindings => (true, bindings)
  | a :: rest, bindings =>
    if a.target = "" then assignAll rest bindings
    else
      match assignment? a bindings with
      | some v => assignAll rest (bindings.set a.target v)
      | none => (false, bindings)

/-- Runs a node that sets variables. -/
def runSetVariable (node : String) (c : SetVariableConfig) (bindings : Bindings) : Outcome :=
  let (done, bindings) := assignAll c.assignments bindings
  (if done then silently (t.defaultSuccessor? node) else .failed, bindings)

/-- Runs a node that hands the call over. -/
def runTransfer (c : TransferConfig) (bindings : Bindings) : Outcome :=
  (withText (Template.render c.destination bindings) fun destination =>
    .reply "" (.transfer destination c.kind c.warmOptions), bindings)

/-- The last words of a call. -/
def farewell (c : EndConfig) (bindings : Bindings) : Option String :=
  match c.speech with
  | some s => Template.render s.text bindings
  | none => some ""

/-- Runs a node that ends the call. -/
def runEnd (c : EndConfig) (bindings : Bindings) : Outcome :=
  (withText (farewell c bindings) fun text => .reply text .finish, bindings)

/-- Runs a node. -/
def runNode (n : Node) (bindings : Bindings) : Dialogue Outcome :=
  match n.config with
  | .start c => return t.runStart n.id c bindings
  | .conversation c => t.runConversation n.id c bindings
  | .function c => t.runFunction n.id c bindings
  | .setVariable c => return t.runSetVariable n.id c bindings
  | .transfer c => return runTransfer c bindings
  | .finish c => return runEnd c bindings
  | .unknown _ _ => return (silently (t.defaultSuccessor? n.id), bindings)

end Turn

end CallFlow
