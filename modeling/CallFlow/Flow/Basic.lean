import CallFlow.Flow.Node

namespace CallFlow

/-- The handle that is used when no other is chosen. -/
def defaultHandle : String := "default"

/-- An edge from one node to another. It leaves its source by a handle; the one without a handle
leaves by the handle `default`. -/
structure Edge where
  id : String := ""
  source : String
  target : String
  sourceHandle : Option String := none
  label : String := ""
  deriving Repr, DecidableEq

/-- The handle by which an edge leaves. -/
def Edge.handle (e : Edge) : String :=
  match e.sourceHandle with
  | some h => if h = "" then defaultHandle else h
  | none => defaultHandle

/-- A declared variable. -/
structure Variable where
  id : String := ""
  name : String
  kind : String := "string"
  defaultValue : Value := .null
  description : String := ""
  enumOptions : List String := []
  deriving Repr

/-- Settings for the whole call. -/
structure FlowSettings where
  /-- Instructions for the language model that hold at every node. -/
  globalPrompt : String := ""
  maxTurns : Option Int := none
  language : String := "en"
  deriving Repr, DecidableEq

/-- The authored plan of a call. `Flow.node?` and `Flow.next?` are all that running a flow asks of
it. -/
structure Flow where
  id : String := ""
  name : String := ""
  nodes : List Node := []
  edges : List Edge := []
  declarations : List Variable := []
  settings : FlowSettings := {}
  deriving Repr

namespace Flow

variable (flow : Flow)

/-- The node of an id. Of several the first counts; the empty id is no node's. -/
def node? (id : String) : Option Node :=
  if id = "" then none else flow.nodes.find? fun n => n.id = id

/-- The edges that leave a node, in order. -/
def outgoing (id : String) : List Edge := flow.edges.filter fun e => e.source = id

/-- The node where a call begins: the first start node, or else the first node at all. -/
def entry? : Option String :=
  match flow.nodes.find? fun n => n.config.isStart with
  | some n => some n.id
  | none => flow.nodes.head?.map Node.id

/-- The bindings at the beginning of a call: each declared variable with its default, or with
the empty text. -/
def initialVariables : Bindings :=
  Bindings.ofMembers <| flow.declarations.map fun v =>
    (v.name, match v.defaultValue with
      | .null => .text ""
      | value => value)

/-- The node after a node when it is left by a handle. An edge with that very handle comes first,
the default edge last. -/
def next? (id : String) (handle : Option String) : Option String :=
  let edges := flow.outgoing id
  let exact :=
    match handle with
    | some h => if h = "" then none else edges.find? fun e => e.sourceHandle = some h
    | none => none
  (exact <|> edges.find? fun e => e.handle = defaultHandle).map Edge.target

end Flow

end CallFlow
