import CallFlow.Dialogue
import CallFlow.Json.Read
import CallFlow.Json.Write
import CallFlow.Literal
import CallFlow.Settings
import CallFlow.Snippet.Check
import CallFlow.Text.Encoding

namespace CallFlow.Sandbox

/-- What can go wrong with a snippet. -/
inductive Failure where
  | refused (r : Snippet.Refusal)
  /-- The inputs hold something that can not be written. -/
  | unwritableInputs
  /-- The time limit is not a number. -/
  | timeNotANumber
  | timeInfinite
  | unstarted (message : String)
  | timedOut (limit : Amount)
  | noOutput (exitCode : Int) (complaint : String)
  /-- The output is not UTF-8. -/
  | undecodableOutput
  /-- The output is not JSON, or not of the kind that can be read. -/
  | unreadableOutput (e : Json.ReadError)
  | outputNotObject
  /-- The snippet itself failed. -/
  | failed (message : String)
  deriving Repr

/-- The message of a failure that has one. -/
def Failure.message? : Failure → Option String
  | refused (.offence o) => some o.message
  | timedOut limit => some s!"timed out after {limit.text}s"
  | noOutput exitCode complaint =>
    some (s!"no output (exit {exitCode}): " ++ String.ofList (complaint.toList.take 200))
  | failed message => some message
  | _ => none

/-- The whole seconds of computing within a time limit, one at least. -/
def cpuSeconds : Amount → Except Failure Int
  | .whole i => .ok (max 1 i)
  | .real x =>
    match Decimal.ceil? x with
    | some i => .ok (max 1 i)
    | none => .error (if x.isNaN then .timeNotANumber else .timeInfinite)

/-- The bounds for a child with a time limit. -/
def limits (s : FunctionSettings) (timeout : Amount) : Except Failure Limits :=
  (cpuSeconds timeout).map fun cpu => ⟨cpu, s.codeMemory * 1024 * 1024⟩

/-- Whether inputs can be written for a child, as a member of the object that it gets. -/
def areWritable (inputs : Bindings) : Bool :=
  Json.isWritable Json.maxNesting (.object [("inputs", .object inputs)])

/-- The job that a child gets for a snippet and its inputs. The snippet is checked first, and the
inputs must have a JSON text. -/
def prepare (s : FunctionSettings) (source : String) (inputs : Bindings) (timeout : Amount)
    (reader : Snippet.Reader := Snippet.parse?) : Except Failure Job := do
  (Snippet.check source reader).mapError .refused
  if areWritable inputs then
    return ⟨Snippet.wrap source, inputs, ← limits s timeout⟩
  else throw .unwritableInputs

/-- What the members of an answer amount to. -/
def answer (o : Bindings) : Except Failure Value :=
  if (o.getD "ok").isTruthy then .ok (o.getD "result")
  else
    .error (.failed (Literal.inText ((o.get? "error").getD (.text "execution failed"))))

/-- The result that a child wrote. -/
def result (output : List UInt8) (exitCode : Int) (complaint : List UInt8) :
    Except Failure Value :=
  if output.isEmpty then
    .error (.noOutput exitCode (Text.lenient (Text.Utf8.decode complaint)))
  else match (Text.strict? (Text.Utf8.decode output)).map Json.read with
    | none => .error .undecodableOutput
    | some (.error e) => .error (.unreadableOutput e)
    | some (.ok (.object members)) => answer members
    | some (.ok _) => .error .outputNotObject

/-- Runs a job for so long at most. A child whose time is over is stopped. -/
def runJob (job : Job) (timeout : Amount) : Dialogue (Except Failure Value) := do
  let reply ← .query (.code job)
  match reply.outcome, timeout.isOver with
  | .unstarted message, _ => return .error (.unstarted message)
  | .ended output exitCode complaint, false => return result output exitCode complaint
  | _, _ =>
    .query .kill
    return .error (.timedOut timeout)

/-- Runs a snippet on inputs. -/
def execute (s : FunctionSettings) (source : String) (inputs : Bindings) (timeout : Amount)
    (reader : Snippet.Reader := Snippet.parse?) : Dialogue (Except Failure Value) :=
  match prepare s source inputs timeout reader with
  | .ok job => runJob job timeout
  | .error e => return .error e

/-- The result of a snippet on inputs, null if it has none. -/
def run (s : FunctionSettings) (source : String) (inputs : Bindings) (timeout : Option Amount)
    (reader : Snippet.Reader := Snippet.parse?) : Dialogue Value := do
  match ← execute s source inputs (Amount.orElse timeout s.codeTimeout) reader with
  | .ok v => return v
  | .error _ => return .null

end CallFlow.Sandbox
