import CallFlow.Environment
import CallFlow.Settings
import CallFlow.Yaml.Read

namespace CallFlow

/-- The settings of the language model by their names. -/
def ModelSettings.members (s : ModelSettings) : Bindings :=
  [("provider", .text s.provider), ("model", .text s.model),
   ("condition_model", .text s.conditionModel), ("temperature", s.temperature.toValue),
   ("max_tokens", .int s.maxTokens), ("api_key", .text s.apiKey),
   ("timeout_seconds", s.timeout.toValue), ("history_window", .int s.historyWindow)]

/-- The settings of functions by their names. -/
def FunctionSettings.members (s : FunctionSettings) : Bindings :=
  [("http_timeout_seconds", s.httpTimeout.toValue), ("http_retries", .int s.httpRetries),
   ("code_timeout_seconds", s.codeTimeout.toValue), ("code_memory_mb", .int s.codeMemory)]

/-- The settings of calls by their names. -/
def EngineSettings.members (s : EngineSettings) : Bindings :=
  [("max_hops", .int s.maxHops), ("history_limit", .int s.historyLimit),
   ("error_message", .text s.errorMessage), ("fallback_message", .text s.fallbackMessage)]

/-- Settings as a file writes them. A value is taken as it stands, whatever its kind; only
`Configuration.settings?` asks for the kinds that an engine needs. What the file leaves out has its
default. -/
structure Configuration where
  appName : Value := .text "FlowEngine"
  debug : Value := .bool false
  model : Bindings := ({} : ModelSettings).members
  functions : Bindings := ({} : FunctionSettings).members
  engine : Bindings := ({} : EngineSettings).members
  deriving Repr

namespace Configuration

/-- Why there is no configuration. -/
inductive Error where
  /-- The file is not YAML. -/
  | unreadable
  /-- The file or a section of it is not an object. -/
  | notAnObject
  /-- The API key is not a text. -/
  | keyNotText
  deriving Repr, DecidableEq

/-- The default members, each with the given value if there is one. -/
def override (defaults given : Bindings) : Bindings :=
  defaults.map fun (name, v) => (name, (given.get? name).getD v)

/-- A section of a file over its defaults. -/
def part (file : Bindings) (name : String) (defaults : Bindings) : Except Error Bindings :=
  match file.get? name with
  | none => .ok defaults
  | some (.object given) => .ok (override defaults given)
  | some _ => .error .notAnObject

/-- The configuration that the members of a file make. -/
def ofMembers (file : Bindings) : Except Error Configuration := do
  let base : Configuration := {}
  return {
    appName := (file.get? "app_name").getD base.appName
    debug := (file.get? "debug").getD base.debug
    model := ← part file "llm" base.model
    functions := ← part file "functions" base.functions
    engine := ← part file "engine" base.engine }

/-- The configuration that a value makes. Nothing, false, zero and everything empty make the
default one. -/
def ofValue (env : Environment) (v : Value) : Except Error Configuration :=
  if v.isTruthy then
    match env.expand v with
    | .object members => ofMembers members
    | _ => .error .notAnObject
  else .ok {}

/-- The variable of the environment that holds the API key of a provider. -/
def keyName (provider : Value) : String :=
  if provider.text? = some "anthropic" then "ANTHROPIC_API_KEY" else "OPENAI_API_KEY"

/-- Whether a text begins with a reference to the environment. -/
def isUnresolved (s : String) : Bool := Environment.opening.isPrefixOf s.toList

/-- The configuration with an API key of the environment, for want of its own. -/
def withKey (env : Environment) (c : Configuration) : Except Error Configuration :=
  let fromEnvironment : Configuration :=
    let key := (env.get? (keyName (c.model.getD "provider"))).getD ""
    { c with model := c.model.set "api_key" (.text key) }
  match c.model.getD "api_key" with
  | .text s => .ok (if s = "" || isUnresolved s then fromEnvironment else c)
  | v => if v.isTruthy then .error .keyNotText else .ok fromEnvironment

/-- The configuration that the text of a file makes, or the default one where there is no file. -/
def load (env : Environment) : Option String → Except Error Configuration
  | none => withKey env {}
  | some text =>
    match Yaml.read text with
    | none => .error .unreadable
    | some v => (ofValue env v).bind (withKey env)

/-- The text of the file that comes with the engine. -/
def standardFile : String := "\n".intercalate
  ["app_name: FlowEngine",
   "debug: false",
   "",
   "llm:",
   "  provider: openai",
   "  model: gpt-4o-mini",
   "  condition_model: gpt-4o-mini",
   "  temperature: 0.7",
   "  max_tokens: 300",
   "  api_key: $\x7bOPENAI_API_KEY\x7d",
   "  timeout_seconds: 15",
   "  history_window: 6",
   "",
   "functions:",
   "  http_timeout_seconds: 10",
   "  http_retries: 1",
   "  code_timeout_seconds: 2",
   "  code_memory_mb: 256",
   "",
   "engine:",
   "  max_hops: 25",
   "  history_limit: 40",
   ""]

/-- A configuration, written out. -/
def toValue (c : Configuration) : Value :=
  .object
    [("app_name", c.appName), ("debug", c.debug), ("llm", .object c.model),
     ("functions", .object c.functions), ("engine", .object c.engine)]

/-- The whole number of a member. -/
def int? (o : Bindings) (name : String) : Option Int :=
  match o.getD name with
  | .int i => some i
  | _ => none

/-- The amount of a member. -/
def amount? (o : Bindings) (name : String) : Option Amount :=
  Amount.ofValue? (o.getD name)

/-- The text of a member. -/
def text? (o : Bindings) (name : String) : Option String := (o.getD name).text?

/-- The settings that a configuration makes. None when a value is of the wrong kind. -/
def settings? (c : Configuration) : Option Settings := do
  let model : ModelSettings :=
    { provider := ← text? c.model "provider"
      model := ← text? c.model "model"
      conditionModel := ← text? c.model "condition_model"
      temperature := ← amount? c.model "temperature"
      maxTokens := ← int? c.model "max_tokens"
      apiKey := ← text? c.model "api_key"
      timeout := ← amount? c.model "timeout_seconds"
      historyWindow := ← int? c.model "history_window" }
  let functions : FunctionSettings :=
    { httpTimeout := ← amount? c.functions "http_timeout_seconds"
      httpRetries := ← int? c.functions "http_retries"
      codeTimeout := ← amount? c.functions "code_timeout_seconds"
      codeMemory := ← int? c.functions "code_memory_mb" }
  let engine : EngineSettings :=
    { maxHops := ← int? c.engine "max_hops"
      historyLimit := ← int? c.engine "history_limit"
      errorMessage := ← text? c.engine "error_message"
      fallbackMessage := ← text? c.engine "fallback_message" }
  return ⟨model, functions, engine⟩

end Configuration

end CallFlow
