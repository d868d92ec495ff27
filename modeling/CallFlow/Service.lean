import CallFlow.Service.Reply
import CallFlow.Service.Request
import CallFlow.Session.Store
import CallFlow.Validation

namespace CallFlow

/-- What a service keeps from request to request. -/
structure Service where
  calls : SessionStore := {}
  /-- The number of test calls that were ever begun. -/
  begun : Nat := 0

namespace Service

/-- What is fixed while a service runs. -/
structure Setup where
  settings : Settings
  /-- The id of a test call, by the number of those begun before it. -/
  callId : Nat → String

variable (setup : Setup) (s : Service)

/-- Goes on with the body of a request if it can be read. -/
def withBody {α : Type} (r : Request) (reader : Schema.Reader α)
    (next : α → Dialogue (Reply × Service)) : Dialogue (Reply × Service) :=
  match r.read reader with
  | .ok a => next a
  | .error issues => return (.invalidBody issues, s)

/-- Goes on with a flow if it is free of errors. -/
def withFlow (members : Bindings) (next : Flow → Dialogue (Reply × Service)) :
    Dialogue (Reply × Service) :=
  match Flow.load (.object members) true with
  | .ok flow => next flow
  | .error report => return (.invalidFlow report, s)

/-- Goes on with the test call of an id if there is one. -/
def withCall (id : String) (next : Session → Dialogue (Reply × Service)) :
    Dialogue (Reply × Service) :=
  match s.calls.get? id with
  | some session => next session
  | none => return (.unknownCall, s)

/-- Reports on a flow. One that can not even be read is reported on too. -/
def validate (members : Bindings) : Report :=
  match Flow.load (.object members) false with
  | .ok flow => flow.validate
  | .error report => report

/-- Runs a single turn, from the beginning of the flow unless a node is given. -/
def runTurn (r : TurnRequest) (flow : Flow) : Dialogue TurnResult := do
  let node :=
    match r.node.filter (· ≠ "") with
    | some node => node
    | none => flow.entry?.getD ""
  let turn : Turn := ⟨setup.settings, flow, r.userInput, r.history⟩
  return (← turn.run node (r.bindings.getD flow.initialVariables)).result

/-- Begins a test call. -/
def beginCall (r : CallRequest) (flow : Flow) : Dialogue (Reply × Service) := do
  let session := Session.new (setup.callId s.begun) flow r.bindings
  match ← session.start setup.settings with
  | (.ok passage, session) =>
    return (.progress session passage.result, ⟨s.calls.save session, s.begun + 1⟩)
  | (.error c, session) => return (.closed c, ⟨s.calls.save session, s.begun + 1⟩)

/-- Gives what the caller says to a test call. -/
def inputCall (session : Session) (text : String) : Dialogue (Reply × Service) := do
  match ← session.input setup.settings text with
  | (.ok passage, session) =>
    return (.progress session passage.result, { s with calls := s.calls.save session })
  | (.error c, session) => return (.closed c, { s with calls := s.calls.save session })

/-- Answers a request at an endpoint. -/
def answer (r : Request) : Endpoint → Dialogue (Reply × Service)
  | .health => return (.health s.calls.size, s)
  | .validate => s.withBody r .dictionary fun flow => return (.report (validate flow), s)
  | .turn =>
    s.withBody r TurnRequest.reader fun t =>
      s.withFlow t.flow fun flow => return (.turn (← runTurn setup t flow), s)
  | .begin =>
    s.withBody r CallRequest.reader fun c => s.withFlow c.flow (s.beginCall setup c)
  | .call id => s.withCall id fun session => return (.call session, s)
  | .input id =>
    s.withBody r inputReader fun text =>
      s.withCall id fun session => s.inputCall setup session text
  | .hangUp id =>
    s.withCall id fun session =>
      return (.hungUp session.hangUp, { s with calls := s.calls.remove id })

/-- Answers a request. Bodies are read before anything is looked up, and a flow must be free of
errors to be run. -/
def handle (r : Request) : Dialogue (Reply × Service) :=
  match Resource.ofPath? r.path with
  | none => return (.unknownPath, s)
  | some resource =>
    match resource.endpoint? r.method with
    | none => return (.wrongMethod, s)
    | some endpoint => s.answer setup r endpoint

/-- The service after all its test calls are hung up. -/
def stop : Service := { s with calls := s.calls.ids.foldl SessionStore.remove s.calls }

end Service

end CallFlow
