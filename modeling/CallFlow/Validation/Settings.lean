import CallFlow.Text.Blank
import CallFlow.Validation.Problem

namespace CallFlow

namespace Flow

variable (flow : Flow)

/-- The transition at an index has a condition and a handle, and an edge leaves by the handle. -/
def checkTransition (node : String) (index : Nat) (t : Transition) : Report :=
  if blankText t.condition || blankText t.handle then
    { errors := [.incompleteTransition node index] }
  else if (flow.outgoing node).any fun e => e.handle = t.handle then {}
  else { warnings := [.unconnectedTransition node index t.handle] }

/-- All transitions of a node. -/
def checkTransitions (node : String) (ts : List Transition) : Report :=
  .join (ts.mapIdx (flow.checkTransition node))

/-- The settings of one node. -/
def checkSettings (n : Node) : Report :=
  match n.config with
  | .unknown kind _ => { warnings := [.unknownKind n.id kind] }
  | .conversation c =>
    .require (!blankText c.content.text) (.missingContent n.id)
      ++ .require (c.temperature.all fun t => 0 ≤ t && t ≤ 2) (.temperatureOutOfRange n.id)
      ++ flow.checkTransitions n.id c.transitions
  | .function c =>
    .require (c.kind != .http || !blankText c.url) (.missingUrl n.id)
      ++ .require (c.kind != .code || !blankText c.code) (.missingCode n.id)
      ++ .require (c.kind != .code || !blankText c.outputVariable) (.missingOutput n.id)
      ++ .require (c.timeout.all fun t => !(t ≤ 0)) (.timeoutNotPositive n.id)
      ++ flow.checkTransitions n.id c.transitions
  | .transfer c => .require (!blankText c.destination) (.missingDestination n.id)
  | .setVariable c =>
    .require (!c.assignments.isEmpty) (.missingAssignments n.id)
      ++ .join (c.assignments.mapIdx fun i a =>
        .require (!blankText a.target) (.unnamedAssignment n.id i))
  | .start _ | .finish _ => {}

end Flow

end CallFlow
