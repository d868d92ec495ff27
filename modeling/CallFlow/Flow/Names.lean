import CallFlow.Condition
import CallFlow.Flow.Basic

namespace CallFlow

/-- The text of a content, as a list. -/
def Content.texts (c : Option Content) : List String := (c.map Content.text).toList

namespace NodeConfig

/-- The authored texts in which placeholders may stand. -/
def texts : NodeConfig → List String
  | start c => Content.texts c.greeting
  | conversation c => c.content.text :: c.transitions.map Transition.condition
  | function c =>
    c.url :: c.headers.map Prod.snd ++ c.body.toList ++ Content.texts c.speech
      ++ c.transitions.map Transition.condition
  | transfer c => [c.destination]
  | setVariable c => c.assignments.map Assignment.value
  | finish c => Content.texts c.speech
  | unknown _ _ => []

/-- The variables read, in the order in which they are named. All operations but plain setting
read the variable that they change. -/
def reads (c : NodeConfig) : List String :=
  c.texts.flatMap Template.names ++
    match c with
    | function c => c.inputVariables
    | setVariable c =>
      (c.assignments.filter fun a => a.operation ≠ .set).map Assignment.target
    | _ => []

/-- The variables set. -/
def writes : NodeConfig → List String
  | setVariable c => (c.assignments.map Assignment.target).filter (· ≠ "")
  | function c =>
    c.responseMapping.map ResponseMapping.target ++
      if c.outputVariable = "" then [] else [c.outputVariable]
  | _ => []

end NodeConfig

namespace Flow

/-- The variables that some node or the global prompt reads. -/
def reads (f : Flow) : List String :=
  f.nodes.flatMap (fun n => n.config.reads) ++ Template.names f.settings.globalPrompt

/-- The variables that some node sets. -/
def writes (f : Flow) : List String := f.nodes.flatMap fun n => n.config.writes

/-- The names of the declared variables. -/
def declared (f : Flow) : List String := f.declarations.map Variable.name

end Flow

end CallFlow
