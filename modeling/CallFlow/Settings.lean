import CallFlow.Amount

namespace CallFlow

/-- The language model that an engine talks to. -/
structure ModelSettings where
  provider : String := "openai"
  model : String := "gpt-4o-mini"
  /-- The model that judges transitions; the empty text stands for `model`. -/
  conditionModel : String := ""
  temperature : Amount := .real 0.7
  maxTokens : Int := 300
  apiKey : String := ""
  /-- Seconds. -/
  timeout : Amount := .real 15
  /-- The number of messages that the judge of transitions sees. -/
  historyWindow : Int := 6
  deriving Repr

/-- The bounds on functions. -/
structure FunctionSettings where
  /-- Seconds. -/
  httpTimeout : Amount := .real 10
  /-- The number of attempts after the first. -/
  httpRetries : Int := 1
  /-- Seconds. -/
  codeTimeout : Amount := .real 2
  /-- Units of 2 ^ 20 bytes. -/
  codeMemory : Int := 256
  deriving Repr

/-- The bounds and the standing sentences of calls. -/
structure EngineSettings where
  /-- The number of silent steps in one turn. -/
  maxHops : Int := 25
  /-- The number of messages that a call keeps; zero stands for all. -/
  historyLimit : Int := 40
  errorMessage : String := "I'm sorry, there was an error in the conversation flow."
  fallbackMessage : String := "I apologize, could you please repeat that?"
  deriving Repr

/-- What an engine is set to. -/
structure Settings where
  model : ModelSettings := {}
  functions : FunctionSettings := {}
  engine : EngineSettings := {}
  deriving Repr

/-- The number of silent steps in one turn, zero if the setting is below. -/
def EngineSettings.hops (s : EngineSettings) : Nat := s.maxHops.toNat

/-- The number of attempts at an HTTP function. -/
def FunctionSettings.attempts (s : FunctionSettings) : Nat := 1 + s.httpRetries.toNat

end CallFlow
