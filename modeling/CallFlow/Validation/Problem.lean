import CallFlow.Flow.Basic
import CallFlow.Schema.Issue

namespace CallFlow

/-- What validation can find in a flow. Each problem knows the node and the field that it concerns,
if there is one. -/
inductive Problem where
  | schema (issue : Schema.Issue)
  | noStart
  | secondStart (node : String)
  | duplicateNode (node : String) (count : Nat)
  /-- An edge with an end that is no node of the flow; its source may be one. -/
  | danglingEdge (edge : Edge) (hasSource : Bool)
  | duplicateHandle (node handle : String)
  | orphaned (node : Node)
  | noExit (node : Node)
  | unknownKind (node kind : String)
  | missingContent (node : String)
  | temperatureOutOfRange (node : String)
  | missingUrl (node : String)
  | missingCode (node : String)
  | missingOutput (node : String)
  | timeoutNotPositive (node : String)
  | missingDestination (node : String)
  | missingAssignments (node : String)
  | unnamedAssignment (node : String) (index : Nat)
  | incompleteTransition (node : String) (index : Nat)
  | unconnectedTransition (node : String) (index : Nat) (handle : String)
  | duplicateVariable (name : String) (count : Nat)
  /-- A variable that is read, first by the node given or else by the global prompt. -/
  | undefinedVariable (name : String) (node : Option String)
  | unusedVariable (name : String)
  | silentLoop (node : String)
  deriving Repr

namespace Problem

/-- The word that stands for the kind of problem. -/
def code : Problem → String
  | schema _ => "INVALID_SCHEMA"
  | noStart => "NO_START_NODE"
  | secondStart _ => "MULTIPLE_START_NODES"
  | duplicateNode _ _ => "DUPLICATE_NODE_ID"
  | danglingEdge _ _ => "DANGLING_EDGE"
  | duplicateHandle _ _ => "DUPLICATE_HANDLE"
  | orphaned _ => "ORPHANED_NODE"
  | noExit _ => "NO_OUTGOING_CONNECTION"
  | unknownKind _ _ => "UNKNOWN_NODE_TYPE"
  | missingContent _ => "MISSING_CONTENT"
  | temperatureOutOfRange _ => "INVALID_TEMPERATURE"
  | missingUrl _ => "MISSING_URL"
  | missingCode _ => "MISSING_CODE"
  | missingOutput _ => "MISSING_OUTPUT_VARIABLE"
  | timeoutNotPositive _ => "INVALID_TIMEOUT"
  | missingDestination _ => "MISSING_DESTINATION"
  | missingAssignments _ => "MISSING_ASSIGNMENTS"
  | unnamedAssignment _ _ => "MISSING_VARIABLE_NAME"
  | incompleteTransition _ _ => "INVALID_TRANSITION"
  | unconnectedTransition _ _ _ => "MISSING_TRANSITION_EDGE"
  | duplicateVariable _ _ => "DUPLICATE_VARIABLE"
  | undefinedVariable _ _ => "UNDEFINED_VARIABLE"
  | unusedVariable _ => "UNUSED_VARIABLE"
  | silentLoop _ => "POTENTIAL_INFINITE_LOOP"

/-- The wording. -/
def message : Problem → String
  | schema issue => issue.cause.message
  | noStart => "Flow must have exactly one start node"
  | secondStart _ => "Flow has more than one start node"
  | duplicateNode node count => s!"Node id '{node}' is used {count} times"
  | danglingEdge e _ =>
    let name := if e.id = "" then e.source else e.id
    s!"Edge '{name}' connects {e.source} -> {e.target}, which is not in the graph"
  | duplicateHandle _ handle => s!"More than one edge leaves via handle '{handle}'"
  | orphaned node => s!"Node '{node.title}' is not reachable from the start node"
  | noExit node => s!"Node '{node.title}' has no outgoing connection"
  | unknownKind _ kind =>
    s!"Node type '{kind}' is not supported; it will pass through to default"
  | missingContent _ => "Conversation node needs a prompt or static text"
  | temperatureOutOfRange _ => "Temperature must be between 0 and 2"
  | missingUrl _ => "HTTP function needs a URL"
  | missingCode _ => "Code function needs code"
  | missingOutput _ => "Code function needs an output variable"
  | timeoutNotPositive _ => "Timeout must be a positive number of milliseconds"
  | missingDestination _ => "Transfer node needs a destination"
  | missingAssignments _ => "Set-variable node has no assignments"
  | unnamedAssignment _ index => s!"Assignment {index + 1} has no variable name"
  | incompleteTransition _ index => s!"Transition {index + 1} needs a condition and a handle"
  | unconnectedTransition _ _ handle =>
    s!"No edge leaves via handle '{handle}'; default will be used"
  | duplicateVariable name count => s!"Variable '{name}' is declared {count} times"
  | undefinedVariable name _ => s!"Variable '{name}' is used but never declared or set"
  | unusedVariable name => s!"Variable '{name}' is declared but never used"
  | silentLoop _ =>
    "Nodes in this loop never wait for the caller; execution will stop at the hop limit"

/-- The node that a problem concerns. -/
def node? : Problem → Option String
  | schema _ | noStart | duplicateVariable _ _ | unusedVariable _ => none
  | danglingEdge e hasSource => if hasSource then some e.source else none
  | orphaned node | noExit node => some node.id
  | undefinedVariable _ node => node
  | secondStart node | duplicateNode node _ | duplicateHandle node _ | unknownKind node _
  | missingContent node | temperatureOutOfRange node | missingUrl node | missingCode node
  | missingOutput node | timeoutNotPositive node | missingDestination node
  | missingAssignments node | unnamedAssignment node _ | incompleteTransition node _
  | unconnectedTransition node _ _ | silentLoop node => some node

/-- The field that a problem concerns. -/
def field? : Problem → Option String
  | schema issue => some issue.field
  | duplicateHandle _ _ => some "sourceHandle"
  | missingContent _ => some "content"
  | temperatureOutOfRange _ => some "temperature"
  | missingUrl _ => some "url"
  | missingCode _ => some "code"
  | missingOutput _ => some "outputVariable"
  | timeoutNotPositive _ => some "timeout"
  | missingDestination _ => some "destination"
  | missingAssignments _ => some "assignments"
  | unnamedAssignment _ index => some s!"assignments[{index}].variable"
  | incompleteTransition _ index => some s!"transitions[{index}]"
  | unconnectedTransition _ index _ => some s!"transitions[{index}].handle"
  | duplicateVariable _ _ | unusedVariable _ => some "variables"
  | _ => none

/-- A problem, written out. -/
def toValue (p : Problem) : Value :=
  .object
    [("code", .text p.code), ("message", .text p.message), ("node_id", .ofText? p.node?),
     ("field", .ofText? p.field?)]

end Problem

/-- What validation found. Errors keep a flow from being run, warnings do not. -/
structure Report where
  errors : List Problem := []
  warnings : List Problem := []
  deriving Repr

namespace Report

/-- Whether the flow can be run. -/
def isValid (r : Report) : Bool := r.errors.isEmpty

/-- The findings of two checks. -/
def append (a b : Report) : Report := ⟨a.errors ++ b.errors, a.warnings ++ b.warnings⟩

instance : Append Report := ⟨append⟩

/-- The findings of several checks. -/
def join (rs : List Report) : Report := rs.foldr append {}

/-- An error when a test fails. -/
def require (holds : Bool) (p : Problem) : Report := if holds then {} else { errors := [p] }

/-- A report as one sentence, which names five errors at most. -/
def summary (r : Report) : String :=
  "Invalid flow: " ++ "; ".intercalate ((r.errors.take 5).map fun p => s!"{p.code}: {p.message}")

/-- A report, written out. -/
def toValue (r : Report) : Value :=
  .object
    [("valid", .bool r.isValid), ("errors", .list (r.errors.map Problem.toValue)),
     ("warnings", .list (r.warnings.map Problem.toValue))]

end Report

end CallFlow
