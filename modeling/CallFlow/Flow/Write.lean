import CallFlow.Flow.Fields

namespace CallFlow

open Schema (Field)

/-- A member of an object under the plain name of a field. -/
def Schema.Field.member (f : Field) (v : Value) : String × Value := (f.plain, v)

namespace Value

/-- A value that may be lacking. -/
def ofOption {α : Type} (f : α → Value) : Option α → Value
  | some a => f a
  | none => null

/-- A list of values. -/
def ofList {α : Type} (f : α → Value) (items : List α) : Value := list (items.map f)

end Value

/-- A content, written out. -/
def Content.toValue (c : Content) : Value :=
  .object [Fields.mode.member (.text c.mode.word), Fields.content.member (.text c.text)]

/-- A transition, written out. -/
def Transition.toValue (t : Transition) : Value :=
  .object
    [Fields.id.member (.text t.id),
     Fields.kind.member (.text t.criterion.word),
     Fields.condition.member (.text t.condition),
     Fields.handle.member (.text t.handle),
     Fields.label.member (.ofText? t.label)]

/-- A response mapping, written out. -/
def ResponseMapping.toValue (m : ResponseMapping) : Value :=
  .object
    [Fields.id.member (.text m.id),
     Fields.variableName.member (.text m.target),
     Fields.path.member (.text m.path)]

/-- An assignment, written out. -/
def Assignment.toValue (a : Assignment) : Value :=
  .object
    [Fields.id.member (.text a.id),
     Fields.variableName.member (.text a.target),
     Fields.value.member (.text a.value),
     Fields.operation.member (.text a.operation.word)]

/-- The options of a warm transfer, written out. -/
def WarmOptions.toValue (w : WarmOptions) : Value :=
  .object
    [Fields.holdMusic.member (.ofOption .bool w.holdMusic),
     Fields.humanDetectionTimeout.member (.ofOption .float w.humanDetectionTimeout)]

/-- The settings of a start node, written out. -/
def StartConfig.toValue (c : StartConfig) : Value :=
  .object
    [Fields.speaksFirst.member (.bool c.speaksFirst),
     Fields.greeting.member (.ofOption Content.toValue c.greeting)]

/-- The settings of a conversation node, written out. -/
def ConversationConfig.toValue (c : ConversationConfig) : Value :=
  .object
    [Fields.content.member c.content.toValue,
     Fields.transitions.member (.ofList Transition.toValue c.transitions),
     Fields.skipResponse.member (.bool c.skipResponse),
     Fields.blockInterruptions.member (.bool c.blockInterruptions),
     Fields.model.member (.ofText? c.model),
     Fields.temperature.member (.ofOption .float c.temperature),
     Fields.maxTokens.member (.ofOption .int c.maxTokens)]

/-- The settings of a function node, written out. -/
def FunctionConfig.toValue (c : FunctionConfig) : Value :=
  .object
    [Fields.executionType.member (.text c.kind.word),
     Fields.method.member (.text c.method),
     Fields.url.member (.text c.url),
     Fields.headers.member (.object (c.headers.map fun (name, v) => (name, .text v))),
     Fields.body.member (.ofText? c.body),
     Fields.responseMapping.member (.ofList ResponseMapping.toValue c.responseMapping),
     Fields.code.member (.text c.code),
     Fields.inputVariables.member (.ofList .text c.inputVariables),
     Fields.outputVariable.member (.text c.outputVariable),
     Fields.timeout.member (.ofOption .float c.timeout),
     Fields.speech.member (.ofOption Content.toValue c.speech),
     Fields.waitForResult.member (.bool c.waitForResult),
     Fields.transitions.member (.ofList Transition.toValue c.transitions)]

/-- The settings of a transfer node, written out. -/
def TransferConfig.toValue (c : TransferConfig) : Value :=
  .object
    [Fields.destination.member (.text c.destination),
     Fields.transferType.member (.text c.kind.word),
     Fields.warmOptions.member (.ofOption WarmOptions.toValue c.warmOptions)]

/-- The settings of a node that sets variables, written out. -/
def SetVariableConfig.toValue (c : SetVariableConfig) : Value :=
  .object [Fields.assignments.member (.ofList Assignment.toValue c.assignments)]

/-- The settings of an end node, written out. -/
def EndConfig.toValue (c : EndConfig) : Value :=
  .object
    [Fields.speech.member (.ofOption Content.toValue c.speech),
     Fields.reason.member (.text c.reason)]

/-- The settings of a node, written out. -/
def NodeConfig.toValue : NodeConfig → Value
  | start c => c.toValue
  | conversation c => c.toValue
  | function c => c.toValue
  | setVariable c => c.toValue
  | transfer c => c.toValue
  | finish c => c.toValue
  | unknown _ raw => raw

/-- A node, written out. -/
def Node.toValue (n : Node) : Value :=
  .object
    [Fields.id.member (.text n.id),
     Fields.kind.member (.text n.config.kindName),
     Fields.label.member (.text n.label),
     Fields.config.member n.config.toValue]

/-- An edge, written out. -/
def Edge.toValue (e : Edge) : Value :=
  .object
    [Fields.id.member (.text e.id),
     Fields.source.member (.text e.source),
     Fields.target.member (.text e.target),
     Fields.sourceHandle.member (.ofText? e.sourceHandle),
     Fields.label.member (.text e.label)]

/-- The declaration of a variable, written out. -/
def Variable.toValue (v : Variable) : Value :=
  .object
    [Fields.id.member (.text v.id),
     Fields.name.member (.text v.name),
     Fields.kind.member (.text v.kind),
     Fields.defaultValue.member v.defaultValue,
     Fields.description.member (.text v.description),
     Fields.enumOptions.member (.ofList .text v.enumOptions)]

/-- The settings of a flow, written out. -/
def FlowSettings.toValue (s : FlowSettings) : Value :=
  .object
    [Fields.globalPrompt.member (.text s.globalPrompt),
     Fields.maxTurns.member (.ofOption .int s.maxTurns),
     Fields.language.member (.text s.language)]

/-- A flow, written out. -/
def Flow.toValue (f : Flow) : Value :=
  .object
    [Fields.id.member (.text f.id),
     Fields.name.member (.text f.name),
     Fields.nodes.member (.ofList Node.toValue f.nodes),
     Fields.edges.member (.ofList Edge.toValue f.edges),
     Fields.declarations.member (.ofList Variable.toValue f.declarations),
     Fields.settings.member f.settings.toValue]

end CallFlow
