import CallFlow.Flow.Names
import CallFlow.Validation.Structure

namespace CallFlow

/-- The variables that are bound while a call runs, whatever its flow declares. -/
def runtimeVariables : List String :=
  [userInputName, "_http_response", "_function_success", "_function_status"]

/-- Problems in the order of their wording. -/
def sortByMessage (ps : List Problem) : List Problem :=
  ps.mergeSort fun a b => a.message ≤ b.message

namespace Flow

variable (flow : Flow)

/-- The variables read with the first node that reads each; the global prompt comes last. -/
def readers : List (String × Option String) :=
  flow.nodes.flatMap (fun n => n.config.reads.map fun name => (name, some n.id))
    ++ (Template.names flow.settings.globalPrompt).map fun name => (name, none)

/-- Whether a variable is declared, set by some node, or bound while a call runs. -/
def defines (name : String) : Bool :=
  flow.declared.contains name || flow.writes.contains name || runtimeVariables.contains name

/-- The first entry for each name. -/
def firstReaders : List (String × Option String) → List String → List (String × Option String)
  | [], _ => []
  | (name, node) :: rest, seen =>
    if seen.contains name then firstReaders rest seen
    else (name, node) :: firstReaders rest (name :: seen)

/-- The variables that are read and not defined. -/
def undefinedVariables : List Problem :=
  ((firstReaders flow.readers []).filter fun p => !flow.defines p.1).map fun (name, node) =>
    .undefinedVariable name node

/-- Whether a variable is read or set. -/
def uses (name : String) : Bool := flow.reads.contains name || flow.writes.contains name

/-- The variables that are declared and not used. -/
def unusedVariables : List Problem :=
  (((tally flow.declared).map Prod.fst).filter fun name => !flow.uses name).map .unusedVariable

/-- All checks of variables. -/
def checkVariables : Report where
  errors := ((tally flow.declared).filter fun p => p.2 > 1).map fun p => .duplicateVariable p.1 p.2
  warnings := sortByMessage flow.undefinedVariables ++ sortByMessage flow.unusedVariables

end Flow

end CallFlow
