import CallFlow.Flow.Basic
import CallFlow.Schema.Record

namespace CallFlow

open Schema (Field)

namespace Fields

def id : Field := .word "id"
def name : Field := .word "name"
def kind : Field := .word "type"
def label : Field := .word "label"
def config : Field := .word "config"
def nodes : Field := .word "nodes"
def edges : Field := .word "edges"
def declarations : Field := .word "variables"
def settings : Field := .word "settings"
def source : Field := .word "source"
def target : Field := .word "target"
def sourceHandle : Field := ⟨"source_handle", "sourceHandle"⟩
def defaultValue : Field := ⟨"default_value", "defaultValue"⟩
def description : Field := .word "description"
def enumOptions : Field := ⟨"enum_options", "enumOptions"⟩
def globalPrompt : Field := ⟨"global_prompt", "globalPrompt"⟩
def maxTurns : Field := ⟨"max_turns", "maxTurns"⟩
def language : Field := .word "language"
def mode : Field := .word "mode"
def content : Field := .word "content"
def condition : Field := .word "condition"
def handle : Field := .word "handle"
def variableName : Field := .word "variable"
def path : Field := .word "path"
def value : Field := .word "value"
def operation : Field := .word "operation"
def holdMusic : Field := ⟨"hold_music", "holdMusic"⟩
def humanDetectionTimeout : Field := ⟨"human_detection_timeout", "humanDetectionTimeout"⟩
def speaksFirst : Field := ⟨"speaks_first", "speaksFirst"⟩
def greeting : Field := .word "greeting"
def transitions : Field := .word "transitions"
def skipResponse : Field := ⟨"skip_response", "skipResponse"⟩
def blockInterruptions : Field := ⟨"block_interruptions", "blockInterruptions"⟩
def model : Field := .word "model"
def temperature : Field := .word "temperature"
def maxTokens : Field := ⟨"max_tokens", "maxTokens"⟩
def executionType : Field := ⟨"execution_type", "executionType"⟩
def method : Field := .word "method"
def url : Field := .word "url"
def headers : Field := .word "headers"
def body : Field := .word "body"
def responseMapping : Field := ⟨"response_mapping", "responseMapping"⟩
def code : Field := .word "code"
def inputVariables : Field := ⟨"input_variables", "inputVariables"⟩
def outputVariable : Field := ⟨"output_variable", "outputVariable"⟩
def timeout : Field := .word "timeout"
def speech : Field := ⟨"speak_during_execution", "speakDuringExecution"⟩
def waitForResult : Field := ⟨"wait_for_result", "waitForResult"⟩
def destination : Field := .word "destination"
def transferType : Field := ⟨"transfer_type", "transferType"⟩
def warmOptions : Field := ⟨"warm_options", "warmOptions"⟩
def assignments : Field := .word "assignments"
def reason : Field := .word "reason"

end Fields

namespace ContentMode

/-- The word for a mode. -/
def word : ContentMode → String
  | prompt => "prompt"
  | fixed => "static"

/-- The modes by their words. -/
def choices : List (String × ContentMode) := [prompt, fixed].map fun m => (m.word, m)

end ContentMode

namespace Criterion

/-- The word for a criterion. -/
def word : Criterion → String
  | equation => "equation"
  | prompt => "prompt"

/-- The criteria by their words. -/
def choices : List (String × Criterion) := [equation, prompt].map fun c => (c.word, c)

end Criterion

namespace AssignmentOperation

/-- The word for an operation. -/
def word : AssignmentOperation → String
  | set => "set"
  | append => "append"
  | increment => "increment"
  | decrement => "decrement"

/-- The operations by their words. -/
def choices : List (String × AssignmentOperation) :=
  [set, append, increment, decrement].map fun o => (o.word, o)

end AssignmentOperation

namespace TransferKind

/-- The word for a kind of transfer. -/
def word : TransferKind → String
  | cold => "cold"
  | warm => "warm"

/-- The kinds of transfer by their words. -/
def choices : List (String × TransferKind) := [cold, warm].map fun k => (k.word, k)

end TransferKind

namespace FunctionKind

/-- The word for a kind of function. -/
def word : FunctionKind → String
  | http => "http"
  | code => "code"

/-- The kinds of function by their words. -/
def choices : List (String × FunctionKind) := [http, code].map fun k => (k.word, k)

end FunctionKind

end CallFlow
