import CallFlow.Flow.Read
import CallFlow.Validation.Loops
import CallFlow.Validation.Settings
import CallFlow.Validation.Variables

namespace CallFlow

namespace Flow

/-- Everything that is wrong with a flow or smells, where loops are searched for from the silent
nodes in the given order. -/
def validateIn (flow : Flow) (order : List String) : Report :=
  flow.checkStructure ++ .join (flow.nodes.map flow.checkSettings) ++ flow.checkVariables
    ++ flow.checkLoopsIn order

/-- Everything that is wrong with a flow or smells. -/
def validate (flow : Flow) : Report := flow.validateIn flow.silentIds

/-- The flow that a value describes, or why it is refused. -/
def load (raw : Value) (strict : Bool) : Except Report Flow :=
  match reader raw with
  | .refused issues => .error { errors := issues.map .schema }
  | .read flow =>
    let report := flow.validate
    if strict && !report.isValid then .error report else .ok flow

end Flow

end CallFlow
