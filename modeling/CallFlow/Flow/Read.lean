import CallFlow.Flow.Fields
import CallFlow.Json.Write

namespace CallFlow

open Schema

/-- A text where a content is expected is a fixed sentence. -/
def Content.adapt : Value → Value
  | .text s => .object [("mode", .text ContentMode.fixed.word), ("content", .text s)]
  | v => v

/-- Reads a content that is written out. -/
def Content.reader : Reader Content := .record "ContentConfig" fun o =>
  Content.mk
    <$> Fields.mode.optional .prompt (.choice ContentMode.choices) o
    <*> Fields.content.optional "" .text o

/-- Reads a content as it is authored in a node. -/
def Content.authored : Reader Content := .adapted adapt reader

/-- Reads a transition. -/
def Transition.reader : Reader Transition := .record "TransitionCondition" fun o =>
  Transition.mk
    <$> Fields.id.optional "" .text o
    <*> Fields.kind.required (.choice Criterion.choices) o
    <*> Fields.condition.optional "" .text o
    <*> Fields.handle.required .text o
    <*> Fields.label.optional none (.nullable .text) o

/-- Reads a response mapping. -/
def ResponseMapping.reader : Reader ResponseMapping := .record "ResponseMapping" fun o =>
  ResponseMapping.mk
    <$> Fields.id.optional "" .text o
    <*> Fields.variableName.required .text o
    <*> Fields.path.required .text o

/-- A value to assign as text: nothing as the empty text, and numbers with a point even when they
are whole, if they were written so. -/
def Assignment.adapt : Value → Value
  | .null => .text ""
  | .bool b => .text (if b then "true" else "false")
  | .int i => .text (toString i)
  | .float x => .text (Decimal.floatText x)
  | v => v

/-- Reads an assignment. -/
def Assignment.reader : Reader Assignment := .record "VariableAssignment" fun o =>
  Assignment.mk
    <$> Fields.id.optional "" .text o
    <*> Fields.variableName.optional "" .text o
    <*> Fields.value.optional "" (.adapted adapt .text) o
    <*> Fields.operation.optional .set (.choice AssignmentOperation.choices) o

/-- Reads the options of a warm transfer. -/
def WarmOptions.reader : Reader WarmOptions := .record "WarmTransferOptions" fun o =>
  WarmOptions.mk
    <$> Fields.holdMusic.optional none (.nullable .boolean) o
    <*> Fields.humanDetectionTimeout.optional none (.nullable .number) o

/-- Reads the settings of a start node. -/
def StartConfig.reader : Reader StartConfig := .record "StartConfig" fun o =>
  StartConfig.mk
    <$> Fields.speaksFirst.optional true .boolean o
    <*> Fields.greeting.optional none (.nullable Content.authored) o

/-- Reads the settings of a conversation node. -/
def ConversationConfig.reader : Reader ConversationConfig := .record "ConversationConfig" fun o =>
  ConversationConfig.mk
    <$> Fields.content.optional {} Content.authored o
    <*> Fields.transitions.optional [] (.list Transition.reader) o
    <*> Fields.skipResponse.optional false .boolean o
    <*> Fields.blockInterruptions.optional false .boolean o
    <*> Fields.model.optional none (.nullable .text) o
    <*> Fields.temperature.optional none (.nullable .number) o
    <*> Fields.maxTokens.optional none (.nullable .integer) o

/-- A method in capital letters; anything that is no method stands for `GET`. -/
def FunctionConfig.adaptMethod : Value → Value
  | .text s => .text (if s = "" then "GET" else upperText s)
  | _ => .text "GET"

/-- A body that is written out as JSON is sent as its text. -/
def FunctionConfig.adaptBody : Value → Value
  | .list items => .text (Json.write (.list items))
  | .object members => .text (Json.write (.object members))
  | v => v

/-- Reads the settings of a function node. -/
def FunctionConfig.reader : Reader FunctionConfig := .record "FunctionConfig" fun o =>
  FunctionConfig.mk
    <$> Fields.executionType.optional .http (.choice FunctionKind.choices) o
    <*> Fields.method.optional "GET" (.adapted adaptMethod .text) o
    <*> Fields.url.optional "" .text o
    <*> Fields.headers.optional [] (.map .text) o
    <*> Fields.body.optional none (.adapted adaptBody (.nullable .text)) o
    <*> Fields.responseMapping.optional [] (.list ResponseMapping.reader) o
    <*> Fields.code.optional "" .text o
    <*> Fields.inputVariables.optional [] (.list .text) o
    <*> Fields.outputVariable.optional "" .text o
    <*> Fields.timeout.optional none (.nullable .number) o
    <*> Fields.speech.optional none (.nullable Content.authored) o
    <*> Fields.waitForResult.optional true .boolean o
    <*> Fields.transitions.optional [] (.list Transition.reader) o

/-- Reads the settings of a transfer node. -/
def TransferConfig.reader : Reader TransferConfig := .record "CallTransferConfig" fun o =>
  TransferConfig.mk
    <$> Fields.destination.optional "" .text o
    <*> Fields.transferType.optional .cold (.choice TransferKind.choices) o
    <*> Fields.warmOptions.optional none (.nullable WarmOptions.reader) o

/-- Reads the settings of a node that sets variables. -/
def SetVariableConfig.reader : Reader SetVariableConfig := .record "SetVariableConfig" fun o =>
  SetVariableConfig.mk <$> Fields.assignments.optional [] (.list Assignment.reader) o

/-- Reads the settings of an end node. -/
def EndConfig.reader : Reader EndConfig := .record "EndConfig" fun o =>
  EndConfig.mk
    <$> Fields.speech.optional none (.nullable Content.authored) o
    <*> Fields.reason.optional "completed" .text o

/-- Settings that are nothing, false, zero or empty are no settings. -/
def NodeConfig.adapt (v : Value) : Value := if v.isTruthy then v else .object []

/-- Reads the settings of a node of a kind. -/
def NodeConfig.reader (kind : String) : Reader NodeConfig :=
  match kind with
  | "start" => .adapted adapt fun v => start <$> StartConfig.reader v
  | "conversation" => .adapted adapt fun v => conversation <$> ConversationConfig.reader v
  | "function" => .adapted adapt fun v => function <$> FunctionConfig.reader v
  | "set_variable" => .adapted adapt fun v => setVariable <$> SetVariableConfig.reader v
  | "call_transfer" => .adapted adapt fun v => transfer <$> TransferConfig.reader v
  | "end" => .adapted adapt fun v => finish <$> EndConfig.reader v
  | kind => fun
    | .null => .read (unknown kind (.object []))
    | v => .read (unknown kind v)

/-- A node in the shape of editors as a plain one: without settings of its own, it takes them from
its member `data`, and its label too unless it has one. -/
def Node.adapt (v : Value) : Value :=
  match v with
  | .object members =>
    let o : Bindings := members
    match o.has "config", o.get? "data" with
    | false, some (.object data) =>
      let d : Bindings := data
      let config := d.getD "config"
      let label := o.getD "label"
      .object <|
        (o.set "config" (NodeConfig.adapt config)).set "label"
          (if label.isTruthy then label else (d.get? "label").getD (.text ""))
    | _, _ => v
  | _ => v

/-- Reads a node. -/
def Node.reader : Reader Node := .adapted adapt <| .record "FlowNode" fun o =>
  let fields := (fun id kind label raw => (id, kind, label, raw))
    <$> Fields.id.required .text o
    <*> Fields.kind.required .text o
    <*> Fields.label.optional "" .text o
    <*> Fields.config.optional .null .any o
  fields.followedBy fun (id, kind, label, raw) =>
    (fun config => ⟨id, label, config⟩) <$> NodeConfig.reader kind raw

/-- Reads an edge. -/
def Edge.reader : Reader Edge := .record "FlowEdge" fun o =>
  Edge.mk
    <$> Fields.id.optional "" .text o
    <*> Fields.source.required .text o
    <*> Fields.target.required .text o
    <*> Fields.sourceHandle.optional none (.nullable .text) o
    <*> Fields.label.optional "" .text o

/-- Reads the declaration of a variable. -/
def Variable.reader : Reader Variable := .record "FlowVariable" fun o =>
  Variable.mk
    <$> Fields.id.optional "" .text o
    <*> Fields.name.required .text o
    <*> Fields.kind.optional "string" .text o
    <*> Fields.defaultValue.optional .null .any o
    <*> Fields.description.optional "" .text o
    <*> Fields.enumOptions.optional [] (.list .text) o

/-- Reads the settings of a flow. -/
def FlowSettings.reader : Reader FlowSettings := .record "FlowSettings" fun o =>
  FlowSettings.mk
    <$> Fields.globalPrompt.optional "" .text o
    <*> Fields.maxTurns.optional none (.nullable .integer) o
    <*> Fields.language.optional "en" .text o

/-- Reads a flow. -/
def Flow.reader : Reader Flow := .record "FlowGraph" fun o =>
  Flow.mk
    <$> Fields.id.optional "" .text o
    <*> Fields.name.optional "" .text o
    <*> Fields.nodes.optional [] (.list Node.reader) o
    <*> Fields.edges.optional [] (.list Edge.reader) o
    <*> Fields.declarations.optional [] (.list Variable.reader) o
    <*> Fields.settings.optional {} FlowSettings.reader o

end CallFlow
