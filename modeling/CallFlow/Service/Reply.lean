import CallFlow.Session.Basic
import CallFlow.Validation.Problem

namespace CallFlow.Service

/-- What the service replies to a request. -/
inductive Reply where
  | health (calls : Nat)
  | report (r : Report)
  | turn (r : TurnResult)
  /-- A test call after a turn. -/
  | progress (s : Session) (r : TurnResult)
  | call (s : Session)
  /-- A test call that is no longer kept. -/
  | hungUp (s : Session)
  | invalidFlow (r : Report)
  | invalidBody (issues : List Schema.Issue)
  | closed (c : Closed)
  | unknownCall
  | unknownPath
  | wrongMethod
  deriving Repr

namespace Reply

/-- The status code of a reply whose body can be written. -/
def code : Reply → Nat
  | health _ | report _ | turn _ | progress _ _ | call _ | hungUp _ => 200
  | unknownCall | unknownPath => 404
  | wrongMethod => 405
  | closed _ => 409
  | invalidFlow _ | invalidBody _ => 422

/-- A body that only says what is the matter. -/
def detail (v : Value) : Value := .object [("detail", v)]

/-- The body of a reply that is given at some time. -/
def body (now : String) : Reply → Value
  | health calls =>
    .object
      [("status", .text "healthy"), ("timestamp", .text now), ("active_test_calls", .int calls)]
  | report r => r.toValue
  | turn r => r.toValue
  | progress s r =>
    .object
      [("session_id", .text s.id), ("status", .text s.status.word), ("result", r.toValue)]
  | call s => s.toValue
  | hungUp s => .object [("session_id", .text s.id), ("status", .text s.status.word)]
  | invalidFlow r => .object [("detail", .text "Invalid flow"), ("validation", r.toValue)]
  | invalidBody issues => detail (.list (issues.map Schema.Issue.toValue))
  | closed c => detail (.text c.message)
  | unknownCall => detail (.text "Test call not found")
  | unknownPath => detail (.text "Not Found")
  | wrongMethod => detail (.text "Method Not Allowed")

/-- Whether the body of a reply can be written as the standard of JSON has it. -/
def isWritable (r : Reply) : Bool :=
  Json.isStandard (r.body "") && Json.isWritable Json.maxNesting (r.body "")

/-- The status code. A body that can not be written makes the request fail. -/
def status (r : Reply) : Nat := if r.isWritable then r.code else 500

end Reply

end CallFlow.Service
