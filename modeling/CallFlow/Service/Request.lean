import CallFlow.History
import CallFlow.Schema.Record
import CallFlow.Validation.Problem

namespace CallFlow.Service

/-- A request to the service. Its path names a resource; together with the method it is an endpoint.
The body is read as a record, and the issues found in it are placed below `body`. -/
structure Request where
  method : String
  path : String
  /-- None when the request has no body. -/
  body : Option Value := none
  deriving Repr

/-- What a path names. -/
inductive Resource where
  | health
  | validation
  | turns
  | calls
  | call (id : String)
  | callInput (id : String)
  deriving Repr, DecidableEq

/-- The parts of a path between its slashes, those at the end left out. -/
def segments (path : String) : List String :=
  ((path.splitOn "/").reverse.dropWhile (· = "")).reverse

/-- The resource that a path names. -/
def Resource.ofPath? (path : String) : Option Resource :=
  match segments path with
  | ["", "health"] => some health
  | ["", "api", "flows", "validate"] => some validation
  | ["", "api", "turns"] => some turns
  | ["", "api", "test-calls"] => some calls
  | ["", "api", "test-calls", id] => some (call id)
  | ["", "api", "test-calls", id, "input"] => if id = "" then none else some (callInput id)
  | _ => none

/-- What a request asks of a resource. -/
inductive Endpoint where
  | health
  | validate
  | turn
  /-- Begins a test call. -/
  | begin
  | call (id : String)
  /-- Takes what the caller says in a test call. -/
  | input (id : String)
  | hangUp (id : String)
  deriving Repr, DecidableEq

/-- The endpoint for a method on a resource. -/
def Resource.endpoint? (r : Resource) (method : String) : Option Endpoint :=
  match r, method with
  | health, "GET" => some .health
  | validation, "POST" => some .validate
  | turns, "POST" => some .turn
  | calls, "POST" => some .begin
  | call id, "GET" => some (.call id)
  | call id, "DELETE" => some (.hangUp id)
  | callInput id, "POST" => some (.input id)
  | _, _ => none

open Schema

namespace Fields

def flow : Field := .word "flow"
def currentNode : Field := ⟨"current_node_id", "currentNodeId"⟩
def userInput : Field := ⟨"user_input", "userInput"⟩
def bindings : Field := .word "variables"
def history : Field := .word "history"
def role : Field := .word "role"
def content : Field := .word "content"
def text : Field := .word "text"

end Fields

/-- Asks for one turn of a call whose state the caller of the service keeps. -/
structure TurnRequest where
  flow : Bindings
  node : Option String
  userInput : String
  bindings : Option Bindings
  history : History

/-- Asks for a test call. -/
structure CallRequest where
  flow : Bindings
  bindings : Bindings

/-- Reads an entry of the history. -/
def entryReader : Reader Entry := .payload fun o =>
  Entry.said
    <$> Fields.role.required .text o
    <*> Fields.content.required .text o

/-- Reads a request for a turn. -/
def TurnRequest.reader : Reader TurnRequest := .payload fun o =>
  TurnRequest.mk
    <$> Fields.flow.required .dictionary o
    <*> Fields.currentNode.optional none (.nullable .text) o
    <*> Fields.userInput.optional "" .text o
    <*> Fields.bindings.optional none (.nullable .dictionary) o
    <*> Fields.history.optional [] (.list entryReader) o

/-- Reads a request for a test call. -/
def CallRequest.reader : Reader CallRequest := .payload fun o =>
  CallRequest.mk
    <$> Fields.flow.required .dictionary o
    <*> Fields.bindings.optional [] .dictionary o

/-- Reads what the caller says. -/
def inputReader : Reader String := .payload fun o => Fields.text.required .text o

/-- The name of the place of all issues in bodies. -/
def bodyPlace : Place := .member "body"

/-- Reads the body of a request. -/
def Request.read {α : Type} (r : Request) (reader : Reader α) : Except (List Issue) α :=
  match r.body with
  | none | some .null => .error [⟨[bodyPlace], .missing, .null⟩]
  | some v => ((reader v).under bodyPlace).toExcept

end CallFlow.Service
