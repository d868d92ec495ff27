import CallFlow.Dialogue
import CallFlow.Flow.Node
import CallFlow.Json.Read
import CallFlow.Path
import CallFlow.Settings
import CallFlow.Template
import CallFlow.Text.Search
import CallFlow.Web.Charset

namespace CallFlow

/-- What comes of a function that calls out over HTTP. The status of a failure without a response is
zero. -/
inductive WebResult where
  | success (status : Int) (bindings : Bindings)
  | failure (status : Int) (error : String)
  deriving Repr

namespace WebResult

def succeeded : WebResult → Bool
  | success _ _ => true
  | failure _ _ => false

def status : WebResult → Int
  | success s _ | failure s _ => s

/-- The variables that a result sets. -/
def bindings : WebResult → Bindings
  | success _ vs => vs
  | failure _ _ => []

/-- The message of a failure. -/
def error : WebResult → String
  | success _ _ => ""
  | failure _ e => e

end WebResult

namespace Web

/-- Why a function fails instead of having a result. -/
inductive Fault where
  /-- A value that the URL, a header or the body refers to can not be written. -/
  | unwritable
  /-- A body that is to be JSON is nested too deep. -/
  | nestedTooDeep
  /-- A body has no text. -/
  | undecodable
  | path (e : Path.Error)
  deriving Repr, DecidableEq

/-- The variable that holds the whole response. -/
def responseName : String := "_http_response"

/-- The methods of requests without a body. -/
def bodyless : List String := ["GET", "HEAD", "DELETE"]

/-- The header that says that a body is JSON, unless a header says what it is. -/
def withContentType (hs : Headers) : Headers :=
  if hs.names "content-type" then hs else hs ++ [("Content-Type", "application/json")]

/-- A header with its value rendered. -/
def header (bindings : Bindings) (h : String × String) : Option (String × String) :=
  (Template.render h.2 bindings).map fun s => (h.1, s)

/-- The headers of a request, their values rendered. -/
def headers (c : FunctionConfig) (bindings : Bindings) : Option Headers :=
  (c.headers.mapM (header bindings)).map withContentType

/-- The method of a request. -/
def method (c : FunctionConfig) : String := if c.method = "" then "GET" else c.method

/-- The body that is authored, unless the method has none. -/
def authoredBody (c : FunctionConfig) : Option String :=
  if bodyless.contains (method c) then none else c.body

/-- The body of a request, rendered if there is one. -/
def content (c : FunctionConfig) (bindings : Bindings) : Option (Option String) :=
  match authoredBody c with
  | some body => (Template.render body bindings).map some
  | none => some none

/-- The request that a function makes. The URL, the values of headers and the body are templates;
there is no request when one of them can not be rendered. -/
def request (c : FunctionConfig) (bindings : Bindings) (timeout : Amount) :
    Option HttpRequest := do
  let url ← Template.render c.url bindings
  let headers ← headers c bindings
  let content ← content c bindings
  return ⟨method c, url, headers, content, timeout⟩

/-- The wait after so many failed attempts: a tenth of a second, doubled each time, up to one
second. -/
def pause (failures : Nat) : Float :=
  if failures < 4 then 0.1 * Float.ofNat (1 <<< failures) else 1

/-- Sends a request, and again so many times at most while no connection can be made. Nothing but
that is tried again. -/
def send (r : HttpRequest) : (retries failures : Nat) → Dialogue HttpReply
  | 0, _ => .query (.http r)
  | retries + 1, failures => do
    match ← .query (.http r) with
    | .unconnected _ => do
      .query (.sleep (pause failures))
      send r retries (failures + 1)
    | reply => return reply

/-- What a response says it is. -/
def contentType (r : HttpResponse) : String :=
  ", ".intercalate (r.headers.valuesOf "content-type")

/-- The JSON value of bytes, none when they are no JSON. -/
def readJson (body : List UInt8) : Except Fault (Option Value) :=
  match (Text.strict? ((Charset.ofJson body).decode body)).map Json.read with
  | some (.ok v) => .ok (some v)
  | some (.error .nestedTooDeep) => .error .nestedTooDeep
  | _ => .ok none

/-- The JSON value of a body that is said to be JSON. -/
def jsonValue? (r : HttpResponse) : Except Fault (Option Value) :=
  if Text.occursIn "application/json".toList (contentType r).toList then readJson r.body
  else .ok none

/-- The value of a body: JSON if the content type says so and the body keeps to it, or else its
text. -/
def bodyValue (r : HttpResponse) : Except Fault Value :=
  match jsonValue? r, r.text with
  | .error e, _ => .error e
  | .ok (some v), _ => .ok v
  | .ok none, some s => .ok (.text s)
  | .ok none, none => .error .undecodable

/-- The part of a body that a variable gets. -/
def mappedPart (data : Value) (m : ResponseMapping) : Except Fault (String × Value) :=
  match Path.get data m.path with
  | .ok v => .ok (m.target, v)
  | .error e => .error (.path e)

/-- The variables that a response sets: each mapped part, and the whole. -/
def mapped (ms : List ResponseMapping) (data : Value) : Except Fault Bindings :=
  (ms.mapM (mappedPart data)).map fun parts => (Bindings.ofMembers parts).set responseName data

/-- What a reply amounts to. The response to a success is mapped into variables; anything else
makes a failure. -/
def result (ms : List ResponseMapping) : HttpReply → Except Fault WebResult
  | .timedOut => .ok (.failure 0 "timeout")
  | .unconnected message | .failed message => .ok (.failure 0 message)
  | .response r =>
    if 200 ≤ r.status && r.status ≤ 299 then
      ((bodyValue r).bind (mapped ms)).map fun vs => .success r.status vs
    else .ok (.failure r.status s!"HTTP {r.status}")

/-- Carries out a function. Without a URL there is nothing to send, and no time at all is over
before the first attempt. -/
def execute (s : FunctionSettings) (c : FunctionConfig) (bindings : Bindings)
    (timeout : Option Amount) : Dialogue (Except Fault WebResult) :=
  let limit := Amount.orElse timeout s.httpTimeout
  match Template.render c.url bindings, request c bindings limit with
  | some "", _ => return .ok (.failure 0 "missing url")
  | _, none => return .error .unwritable
  | _, some r => do
    if limit.isOver then return .ok (.failure 0 "timeout")
    return result c.responseMapping (← send r s.httpRetries.toNat 0)

end Web

end CallFlow
