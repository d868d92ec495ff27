import CallFlow.Value

namespace CallFlow

/-- How an authored text is used. -/
inductive ContentMode where
  /-- Instructions for the language model. -/
  | prompt
  /-- A sentence that is spoken as it stands. -/
  | fixed
  deriving Repr, DecidableEq

/-- What a node says, and whether it is spoken as it stands. -/
structure Content where
  mode : ContentMode := .prompt
  text : String := ""
  deriving Repr, DecidableEq

/-- What decides whether a transition is taken. -/
inductive Criterion where
  /-- A condition on variables. -/
  | equation
  /-- A description for the language model to judge. -/
  | prompt
  deriving Repr, DecidableEq

/-- A labelled exit of a node. -/
structure Transition where
  id : String := ""
  criterion : Criterion
  condition : String := ""
  handle : String
  label : Option String := none
  deriving Repr, DecidableEq

/-- The part of a response that a variable takes. -/
structure ResponseMapping where
  id : String := ""
  /-- The variable. -/
  target : String
  path : String
  deriving Repr, DecidableEq

/-- What an assignment does with a variable. -/
inductive AssignmentOperation where
  | set
  | append
  | increment
  | decrement
  deriving Repr, DecidableEq

/-- A change of a variable. -/
structure Assignment where
  id : String := ""
  /-- The variable. -/
  target : String := ""
  /-- A template. -/
  value : String := ""
  operation : AssignmentOperation := .set
  deriving Repr, DecidableEq

/-- How a call is handed over to someone who is told about it first. -/
structure WarmOptions where
  holdMusic : Option Bool := none
  /-- Seconds. -/
  humanDetectionTimeout : Option Float := none
  deriving Repr, DecidableEq

/-- Whether the one who takes the call over is told about it first. -/
inductive TransferKind where
  | cold
  | warm
  deriving Repr, DecidableEq

/-- Where a function runs. -/
inductive FunctionKind where
  | http
  | code
  deriving Repr, DecidableEq

/-- The settings of the node at which a call begins. -/
structure StartConfig where
  speaksFirst : Bool := true
  greeting : Option Content := none
  deriving Repr, DecidableEq

/-- The settings of a node that talks with the caller. -/
structure ConversationConfig where
  content : Content := {}
  transitions : List Transition := []
  /-- A fixed sentence is spoken without waiting for a reply. -/
  skipResponse : Bool := false
  blockInterruptions : Bool := false
  model : Option String := none
  temperature : Option Float := none
  maxTokens : Option Int := none
  deriving Repr, DecidableEq

/-- The settings of a node that calls out over HTTP or runs a snippet. -/
structure FunctionConfig where
  kind : FunctionKind := .http
  method : String := "GET"
  url : String := ""
  headers : List (String × String) := []
  body : Option String := none
  responseMapping : List ResponseMapping := []
  code : String := ""
  inputVariables : List String := []
  outputVariable : String := ""
  /-- Milliseconds. -/
  timeout : Option Float := none
  speech : Option Content := none
  waitForResult : Bool := true
  transitions : List Transition := []
  deriving Repr, DecidableEq

/-- The settings of a node that hands the call over. -/
structure TransferConfig where
  /-- A template. -/
  destination : String := ""
  kind : TransferKind := .cold
  warmOptions : Option WarmOptions := none
  deriving Repr, DecidableEq

/-- The settings of a node that sets variables. -/
structure SetVariableConfig where
  assignments : List Assignment := []
  deriving Repr, DecidableEq

/-- The settings of a node that ends the call. -/
structure EndConfig where
  speech : Option Content := none
  reason : String := "completed"
  deriving Repr, DecidableEq

/-- The kind of a node with its settings. -/
inductive NodeConfig where
  | start (config : StartConfig)
  | conversation (config : ConversationConfig)
  | function (config : FunctionConfig)
  | setVariable (config : SetVariableConfig)
  | transfer (config : TransferConfig)
  | finish (config : EndConfig)
  | unknown (kind : String) (raw : Value)
  deriving Repr

/-- A node of a flow, one step of a call. A node of a kind that is not known keeps its settings as
they were written. -/
structure Node where
  id : String
  label : String := ""
  config : NodeConfig
  deriving Repr

namespace NodeConfig

/-- The name of the kind. -/
def kindName : NodeConfig → String
  | start _ => "start"
  | conversation _ => "conversation"
  | function _ => "function"
  | setVariable _ => "set_variable"
  | transfer _ => "call_transfer"
  | finish _ => "end"
  | unknown kind _ => kind

def isStart : NodeConfig → Bool
  | start _ => true
  | _ => false

def isKnown : NodeConfig → Bool
  | unknown _ _ => false
  | _ => true

/-- Whether nothing follows the node. -/
def isTerminal : NodeConfig → Bool
  | transfer _ | finish _ => true
  | _ => false

/-- Whether a node that runs goes on to the next one without speaking. -/
def isSilent : NodeConfig → Bool
  | start c => !(c.speaksFirst && (c.greeting.any fun g => g.text ≠ ""))
  | function c => !(c.speech.any fun s => s.text ≠ "")
  | setVariable _ | unknown _ _ => true
  | conversation _ | transfer _ | finish _ => false

/-- The exits of the node. -/
def transitions : NodeConfig → List Transition
  | conversation c => c.transitions
  | function c => c.transitions
  | _ => []

end NodeConfig

namespace Node

/-- The name that a node goes by. -/
def title (n : Node) : String := if n.label = "" then n.id else n.label

end Node

end CallFlow
