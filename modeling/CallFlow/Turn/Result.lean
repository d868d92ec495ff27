import CallFlow.Flow.Write

namespace CallFlow

/-- What is done after something is said. -/
inductive TurnAction where
  /-- The agent goes on speaking. -/
  | speak
  /-- The call is handed over to somebody else. -/
  | transfer
  /-- The call ends. -/
  | finish
  /-- The caller speaks next. -/
  | gather
  deriving Repr, DecidableEq

/-- The word for an action. -/
def TurnAction.word : TurnAction → String
  | speak => "speak"
  | transfer => "transfer"
  | finish => "end"
  | gather => "gather"

/-- How a call goes on after a turn. The fields are independent of each other; `Move.IsWellFormed`
says how those of a turn belong together. -/
structure Move where
  action : TurnAction
  /-- The node where the call goes on. -/
  next? : Option String := none
  /-- Whom the call is handed over to. -/
  destination? : Option String := none
  /-- How the call is handed over. -/
  kind? : Option TransferKind := none
  warmOptions? : Option WarmOptions := none
  deriving Repr, DecidableEq

namespace Move

/-- A move that hands nothing over. A call that ends goes on nowhere. -/
def result (action : TurnAction) (next : Option String) : Move :=
  { action := action, next? := if action = .finish then none else next }

/-- The caller speaks next, at a node. -/
def gather (node : String) : Move := result .gather (some node)

/-- The call ends. -/
def finish : Move := result .finish none

/-- Waits for the caller at a node, or ends the call where there is none. -/
def gatherOrFinish (next : Option String) : Move :=
  result (if next.isSome then .gather else .finish) next

/-- The call is handed over. Only one who is told about it first needs the options for that. -/
def transfer (destination : String) (kind : TransferKind) (options : Option WarmOptions) : Move :=
  { action := .transfer
    destination? := some destination
    kind? := some kind
    warmOptions? := if kind = .warm then options else none }

end Move

/-- What a turn of a call leads to: something said, perhaps nothing, a move, and the variables. -/
structure TurnResult where
  response : String
  move : Move
  bindings : Bindings
  deriving Repr

/-- A result, written out. -/
def TurnResult.toValue (r : TurnResult) : Value :=
  .object
    [("response", .text r.response),
     ("action", .text r.move.action.word),
     ("next_node_id", .ofText? r.move.next?),
     ("variables", .object r.bindings),
     ("transfer_to", .ofText? r.move.destination?),
     ("transfer_type", .ofText? (r.move.kind?.map TransferKind.word)),
     ("warm_options", .ofOption WarmOptions.toValue r.move.warmOptions?)]

end CallFlow
