import CallFlow.Proofs.Bindings
import CallFlow.Proofs.Web.Failure

namespace CallFlow

namespace HttpReply

/-- Whether the connection could not be made. -/
def isUnconnected : HttpReply → Bool
  | unconnected _ => true
  | timedOut | failed _ | response _ => false

end HttpReply

/-- The request and the reply of an exchange over HTTP. -/
def Exchange.attempt? : Exchange → Option (HttpRequest × HttpReply)
  | ⟨.http r, reply⟩ => some (r, reply)
  | _ => none

/-- The attempts over HTTP in the course of some exchanges. -/
def attempts (es : List Exchange) : List (HttpRequest × HttpReply) :=
  es.filterMap Exchange.attempt?

@[simp] theorem attempts_append (es es' : List Exchange) :
    attempts (es ++ es') = attempts es ++ attempts es' := List.filterMap_append

/-- Where nothing is asked over HTTP, there is no attempt. -/
theorem attempts_eq_nil {es : List Exchange} (h : asked .http es = 0) : attempts es = [] := by
  refine List.filterMap_eq_nil_iff.2 fun e he => ?_
  obtain ⟨query, reply⟩ := e
  cases query with
  | http r => exact absurd rfl (query_ne_http h he r)
  | _ => rfl

/-- The reply to the last attempt in the course of some exchanges. -/
def lastReply? (es : List Exchange) : Option HttpReply := (attempts es).getLast?.map Prod.snd

/-- The attempts at a request, of which there may be so many, and the reply to the last. They end
with the first that is not for want of a connection. -/
structure Attempted (limit : Nat) (r : HttpRequest) (as : List (HttpRequest × HttpReply))
    (last : HttpReply) : Prop where
  same : ∀ a ∈ as, a.1 = r
  last_eq : as.getLast? = some (r, last)
  length_le : as.length ≤ limit
  unconnected : ∀ a ∈ as.dropLast, a.2.isUnconnected = true
  exhausted : last.isUnconnected = true → as.length = limit

namespace Attempted

variable {limit : Nat} {r : HttpRequest} {as : List (HttpRequest × HttpReply)} {last : HttpReply}

/-- The first attempt is the last if it need not or must not be repeated. -/
theorem once (h : last.isUnconnected = true → limit = 0) :
    Attempted (limit + 1) r [(r, last)] last where
  same := by simp
  last_eq := rfl
  length_le := Nat.le_add_left 1 limit
  unconnected := nofun
  exhausted hunconnected := by simp [h hunconnected]

/-- An attempt without a connection comes before those that follow it. -/
theorem again (h : Attempted limit r as last) (message : String) :
    Attempted (limit + 1) r ((r, .unconnected message) :: as) last where
  same := List.forall_mem_cons.2 ⟨rfl, h.same⟩
  last_eq := by rw [List.getLast?_cons, h.last_eq, Option.getD_some]
  length_le := Nat.succ_le_succ h.length_le
  unconnected := by
    have hne : as ≠ [] := by
      rintro rfl
      cases h.last_eq
    rw [List.dropLast_cons_of_ne_nil hne]
    exact List.forall_mem_cons.2 ⟨rfl, h.unconnected⟩
  exhausted hunconnected := congrArg Nat.succ (h.exhausted hunconnected)

end Attempted

/-- What a name is bound to when a body is mapped: the whole, or the part of the last mapping of the
name. -/
def Web.mappedTo? (ms : List ResponseMapping) (data : Value) (name : String) : Option Value :=
  if name = Web.responseName then some data
  else (ms.reverse.find? fun m => m.target = name).bind fun m => (Path.get data m.path).toOption

/-- What a result says of the reply to the last attempt, if there was one. It succeeded if the reply
is a response to a success, and then binds what the body is mapped to; otherwise it binds nothing.
The status is that of the response, or zero. -/
structure WebResult.Reflects (ms : List ResponseMapping) (last : Option HttpReply)
    (w : WebResult) : Prop where
  succeeded_iff : w.succeeded = true ↔
    ∃ r, last = some (.response r) ∧ 200 ≤ r.status ∧ r.status ≤ 299
  status_eq : w.status = ((last.bind HttpReply.response?).map HttpResponse.status).getD 0
  bindings_eq_nil : w.succeeded = false → w.bindings = []
  get?_bindings : w.succeeded = true → ∀ r, last = some (.response r) →
    ∃ data, Web.bodyValue r = .ok data ∧ ∀ name, w.bindings.get? name = Web.mappedTo? ms data name

open Dialogue Bindings

namespace Web

variable {ms : List ResponseMapping}

/-- No path of the mapping fails, whatever the body is. -/
def Readable (ms : List ResponseMapping) : Prop :=
  ∀ m ∈ ms, ∀ data, ∃ v, Path.get data m.path = .ok v

/-- The last attempt brought a response to a success, but its body has no value. -/
def Stumps (last : Option HttpReply) : Prop :=
  ∃ r, last = some (.response r) ∧ 200 ≤ r.status ∧ r.status ≤ 299 ∧ IsUnreadable r

/-- The part of a body that a variable takes. -/
private def part (data : Value) (m : ResponseMapping) : Value :=
  ((Path.get data m.path).toOption).getD .null

private theorem mappedPart_eq (h : Readable ms) (data : Value) {m : ResponseMapping} (hm : m ∈ ms) :
    mappedPart data m = pure (m.target, part data m) := by
  obtain ⟨v, hv⟩ := h m hm data
  simp only [mappedPart, part, hv]
  rfl

/-- A body is mapped into its parts and the whole. -/
theorem exists_mapped (h : Readable ms) (data : Value) :
    ∃ vs, mapped ms data = .ok vs ∧ ∀ name, vs.get? name = mappedTo? ms data name := by
  have hparts : ms.mapM (mappedPart data) = .ok (ms.map fun m => (m.target, part data m)) := by
    rw [Fallible.mapM_congr fun m hm => mappedPart_eq h data hm, List.mapM_pure]
    rfl
  have hmapped : mapped ms data =
      .ok ((ofMembers (ms.map fun m => (m.target, part data m))).set responseName data) := by
    rw [mapped, hparts]
    rfl
  refine ⟨_, hmapped, fun name => ?_⟩
  rw [get?_set, mappedTo?]
  split
  · rfl
  · rw [ofMembers, get?_update, get?_nil, Option.or_none, ← List.map_reverse, get?_map]
    cases hfound : ms.reverse.find? fun m => m.target = name with
    | none => rfl
    | some m =>
      obtain ⟨v, hv⟩ := h m (List.mem_reverse.1 (List.mem_of_find?_eq_some hfound)) data
      simp [part, hv, Except.toOption]

/-- A failure reflects a reply that is no response to a success. -/
theorem reflects_failure {last : Option HttpReply} {status : Int} {error : String}
    (hfails : ∀ r, last = some (.response r) → ¬(200 ≤ r.status ∧ r.status ≤ 299))
    (hstatus : status = ((last.bind HttpReply.response?).map HttpResponse.status).getD 0) :
    (WebResult.failure status error).Reflects ms last where
  succeeded_iff := iff_of_false Bool.false_ne_true fun ⟨r, hr, hsuccess⟩ => hfails r hr hsuccess
  status_eq := hstatus
  bindings_eq_nil _ := rfl
  get?_bindings hsucceeded := absurd hsucceeded Bool.false_ne_true

/-- A success reflects the response whose parts it binds. -/
theorem reflects_success {r : HttpResponse} {data : Value} {vs : Bindings}
    (hsuccess : 200 ≤ r.status ∧ r.status ≤ 299) (hdata : bodyValue r = .ok data)
    (hget : ∀ name, vs.get? name = mappedTo? ms data name) :
    (WebResult.success r.status vs).Reflects ms (some (.response r)) where
  succeeded_iff := iff_of_true rfl ⟨r, rfl, hsuccess⟩
  status_eq := rfl
  bindings_eq_nil hfailed := absurd hfailed.symm Bool.false_ne_true
  get?_bindings := by
    rintro - _ ⟨⟩
    exact ⟨data, hdata, hget⟩

/-- A reply amounts to a result that reflects it, unless there is nothing to read in it. -/
theorem result_reflects (h : Readable ms) (reply : HttpReply) :
    Stumps (some reply) ∧ (∃ e, result ms reply = .error e) ∨
      ¬Stumps (some reply) ∧ ∃ w, result ms reply = .ok w ∧ w.Reflects ms (some reply) := by
  have hstumps : Stumps (some reply) ↔
      ∃ r, reply = .response r ∧ 200 ≤ r.status ∧ r.status ≤ 299 ∧ ∃ e, bodyValue r = .error e := by
    simp only [Stumps, Option.some.injEq, bodyValue_eq_error_iff]
  cases reply with
  | response r =>
    by_cases hsuccess : 200 ≤ r.status ∧ r.status ≤ 299
    · cases hdata : bodyValue r with
      | error e =>
        refine Or.inl ⟨hstumps.2 ⟨r, rfl, hsuccess.1, hsuccess.2, e, hdata⟩, e, ?_⟩
        simp [result, hsuccess, hdata, Except.bind, Except.map]
      | ok data =>
        obtain ⟨vs, hvs, hget⟩ := exists_mapped h data
        have hresult : result ms (.response r) = .ok (.success r.status vs) := by
          simp [result, hsuccess, hdata, hvs, Except.bind, Except.map]
        refine Or.inr ⟨fun hnone => ?_, _, hresult, reflects_success hsuccess hdata hget⟩
        obtain ⟨_, ⟨⟩, -, -, e, he⟩ := hstumps.1 hnone
        cases hdata.symm.trans he
    · have hresult : result ms (.response r) = .ok (.failure r.status s!"HTTP {r.status}") := by
        simp only [result, Bool.and_eq_true, decide_eq_true_eq]
        rw [if_neg hsuccess]
      refine Or.inr ⟨fun hnone => ?_, _, hresult, reflects_failure ?_ rfl⟩
      · obtain ⟨_, ⟨⟩, hlow, hhigh, -⟩ := hstumps.1 hnone
        exact hsuccess ⟨hlow, hhigh⟩
      · rintro _ ⟨⟩
        exact hsuccess
  | timedOut => exact Or.inr ⟨by simp [Stumps], _, rfl, reflects_failure (by simp) rfl⟩
  | unconnected message => exact Or.inr ⟨by simp [Stumps], _, rfl, reflects_failure (by simp) rfl⟩
  | failed message => exact Or.inr ⟨by simp [Stumps], _, rfl, reflects_failure (by simp) rfl⟩

/-- A request is sent until there is a reply other than that no connection could be made, but only
so many times. -/
theorem send_attempts (r : HttpRequest) (retries failures : Nat) :
    (send r retries failures).Ensures fun es last =>
      Attempted (retries + 1) r (attempts es) last := by
  have hhttp : (query (.http r)).Ensures fun es reply => es = [⟨.http r, reply⟩] :=
    ensures_ask fun reply => ensures_done rfl
  induction retries generalizing failures with
  | zero =>
    refine hhttp.mono fun es reply hes => ?_
    subst hes
    exact .once fun _ => rfl
  | succ retries ih =>
    refine hhttp.bind fun es reply hes => ?_
    subst hes
    cases reply with
    | unconnected message =>
      exact ensures_ask fun _ => (ih (failures + 1)).mono fun es last h => h.again message
    | _ => exact ensures_done (.once nofun)

/-- What comes of carrying out a function by some attempts: a result that reflects the reply to the
last of them, or a failure if a value that was to go into the request can not be written, or the
body of a response to a success not be read. -/
def Tells (c : FunctionConfig) (b : Bindings) (es : List Exchange) (a : Except Fault WebResult) :
    Prop :=
  (Unsendable c b ∨ Stumps (lastReply? es)) ∧ (∃ e, a = .error e) ∨
    ¬(Unsendable c b ∨ Stumps (lastReply? es)) ∧
      ∃ w, a = .ok w ∧ w.Reflects c.responseMapping (lastReply? es)

/-- What is sent: nothing without a URL, without time, or when the request can not be written, and
otherwise the request, as often as that is called for. -/
def Pursues (s : FunctionSettings) (c : FunctionConfig) (b : Bindings) (limit : Amount)
    (es : List Exchange) : Prop :=
  (Template.render c.url b = some "" ∨ limit.isOver = true ∨ Unsendable c b → attempts es = []) ∧
  (Template.render c.url b ≠ some "" → limit.isOver = false → ¬Unsendable c b →
    ∃ r last, request c b limit = some r ∧
      Attempted (1 + s.httpRetries.toNat) r (attempts es) last)

/-- What comes of a function, and by which attempts. -/
theorem execute_attempts (s : FunctionSettings) {c : FunctionConfig} (b : Bindings)
    (timeout : Option Amount) (h : Readable c.responseMapping) :
    (execute s c b timeout).Ensures fun es a =>
      Tells c b es a ∧ Pursues s c b (Amount.orElse timeout s.httpTimeout) es := by
  have hfailure : ∀ error, (WebResult.failure 0 error).Reflects c.responseMapping none :=
    fun error => reflects_failure (by simp) rfl
  have hnothing : ¬Stumps (lastReply? []) := by simp [Stumps, lastReply?, attempts]
  unfold execute
  dsimp only
  split
  · rename_i hurl
    have hsendable : ¬Unsendable c b := by simp [Unsendable, hurl]
    refine ensures_done ⟨Or.inr ⟨not_or.2 ⟨hsendable, hnothing⟩, _, rfl, hfailure _⟩,
      fun _ => rfl, fun hfull => absurd hurl hfull⟩
  · rename_i hrequest hurl
    have hunsendable : Unsendable c b := ⟨hurl, request_eq_none_iff.1 hrequest⟩
    exact ensures_done ⟨Or.inl ⟨Or.inl hunsendable, _, rfl⟩, fun _ => rfl,
      fun _ _ hsendable => absurd hunsendable hsendable⟩
  · rename_i request hrequest hurl
    have hsendable : ¬Unsendable c b := by
      intro h
      cases (request_eq_none_iff.2 h.2).symm.trans hrequest
    split
    · rename_i hover
      refine ensures_done ⟨Or.inr ⟨not_or.2 ⟨hsendable, hnothing⟩, _, rfl, hfailure _⟩,
        fun _ => rfl, fun _ htime => ?_⟩
      cases hover.symm.trans htime
    · rename_i htime
      refine (send_attempts _ _ 0).map fun es last htried => ?_
      have hlast : lastReply? es = some last := by
        rw [lastReply?, htried.last_eq]
        rfl
      rw [Tells, Pursues, hlast, or_iff_right hsendable, Nat.add_comm 1]
      refine ⟨result_reflects h last, fun hnone => ?_, fun _ _ _ => ⟨_, last, hrequest, htried⟩⟩
      exact absurd hnone (not_or.2 ⟨hurl, not_or.2 ⟨htime, hsendable⟩⟩)

end Web

namespace Turn

variable {t : Turn} {node : String} {c : FunctionConfig} {b : Bindings}

theorem successName_ne_statusName : successName ≠ statusName := by decide

/-- The variables after a function that came to a result. -/
theorem callWeb_attempts (h : Web.Readable c.responseMapping) :
    (t.callWeb c b).Ensures fun es after =>
      (Web.Unsendable c b ∨ Web.Stumps (lastReply? es)) ∧ after = none ∨
      ¬(Web.Unsendable c b ∨ Web.Stumps (lastReply? es)) ∧
        ∃ w : WebResult, w.Reflects c.responseMapping (lastReply? es) ∧ after = some
          (((b.update w.bindings).set successName (.bool w.succeeded)).set statusName
            (.int w.status)) := by
  refine (Web.execute_attempts _ b (timeout c) h).bind fun es a ha => ?_
  obtain ⟨⟨hfails, e, rfl⟩ | ⟨hwell, w, rfl, hreflects⟩, -⟩ := ha
  · refine ensures_done (Or.inl ⟨?_, rfl⟩)
    rw [List.append_nil]
    exact hfails
  · refine ensures_done (Or.inr ?_)
    rw [List.append_nil]
    exact ⟨hwell, w, hreflects, rfl⟩

/-- A node that carries out a function tells whether it succeeded and with which status, and changes
nothing else if it did not. When there was no result it fails and changes nothing at all. -/
theorem runFunction_attempts (hkind : c.kind = .http) (h : Web.Readable c.responseMapping) :
    (t.runFunction node c b).Ensures fun es o =>
      (Web.Unsendable c b ∨ Web.Stumps (lastReply? es)) ∧ o = (.failed, b) ∨
      ¬(Web.Unsendable c b ∨ Web.Stumps (lastReply? es)) ∧
        ∃ w : WebResult, w.Reflects c.responseMapping (lastReply? es) ∧
          o.2.get? successName = some (.bool w.succeeded) ∧
          o.2.get? statusName = some (.int w.status) ∧
          (w.succeeded = false → ∀ name, name ≠ successName → name ≠ statusName →
            o.2.get? name = b.get? name) := by
  have hcall : t.call c b = t.callWeb c b := by rw [call, hkind]
  unfold runFunction
  rw [hcall]
  refine (callWeb_attempts h).bind fun es after hafter => ?_
  obtain ⟨hfails, rfl⟩ | ⟨hwell, w, hreflects, rfl⟩ := hafter
  · refine ensures_done (Or.inl ⟨?_, rfl⟩)
    rw [List.append_nil]
    exact hfails
  -- what follows the response is asked of the language model alone
  refine resolve_asks.map fun es' handle hasked => Or.inr ?_
  have hnone : attempts es' = [] := attempts_eq_nil (Nat.le_zero.1 (hasked .http))
  have hlast : lastReply? (es ++ es') = lastReply? es := by
    rw [lastReply?, attempts_append, hnone, List.append_nil, lastReply?]
  rw [hlast]
  refine ⟨hwell, w, hreflects, ?_, ?_, fun hfailed name hsuccess hstatus => ?_⟩
  · rw [get?_set, if_neg successName_ne_statusName, get?_set, if_pos rfl]
  · rw [get?_set, if_pos rfl]
  · rw [get?_set, if_neg hstatus, get?_set, if_neg hsuccess, hreflects.bindings_eq_nil hfailed]
    rfl

end Turn

namespace Web

/-- A function over HTTP none of whose paths can fail comes to a result that the reply to its last
attempt decides alone, unless a value can not be written that is to go into the request, or the body
of the response can not be read; then, and only then, it fails. Each attempt makes the same request,
and there is another one only if no connection could be made, up to the number of retries and one.
There is none without a URL or without time. A node that carries out a function which does not
succeed changes no variables but the two that tell of it, and these say the truth after every
function that has a result; after one that has none the node has failed and changed nothing. -/
theorem execute_reflects (s : FunctionSettings) (c : FunctionConfig) (b : Bindings)
    (timeout : Option Amount) (h : Readable c.responseMapping) :
    ((execute s c b timeout).Ensures fun es a =>
      Tells c b es a ∧ Pursues s c b (Amount.orElse timeout s.httpTimeout) es) ∧
    (c.kind = .http → ∀ (t : Turn) node, (t.runFunction node c b).Ensures fun es o =>
      (Unsendable c b ∨ Stumps (lastReply? es)) ∧ o = (.failed, b) ∨
      ¬(Unsendable c b ∨ Stumps (lastReply? es)) ∧
        ∃ w : WebResult, w.Reflects c.responseMapping (lastReply? es) ∧
          o.2.get? Turn.successName = some (.bool w.succeeded) ∧
          o.2.get? Turn.statusName = some (.int w.status) ∧
          (w.succeeded = false → ∀ name, name ≠ Turn.successName → name ≠ Turn.statusName →
            o.2.get? name = b.get? name)) :=
  ⟨execute_attempts s b timeout h, fun hkind _ _ => Turn.runFunction_attempts hkind h⟩

/-- A function with two mappings for one variable, and one for the variable of the whole. -/
private def stock : FunctionConfig where
  kind := .http
  url := "https://stock.example/\x7b\x7bitem\x7d\x7d"
  responseMapping :=
    [{ target := "left", path := "sold" }, { target := "left", path := "left" },
     { target := responseName, path := "sold" }]

private def stockSettings : FunctionSettings := { httpTimeout := .whole 10, httpRetries := 1 }

private def stockBindings : Bindings := [("item", .text "7"), ("left", .int 5)]

/-- No connection at first, and then a response that tells how many are left. -/
private def stockWorld : Script where
  http :=
    [⟨.unconnected "refused", false⟩,
     ⟨.response { headers := [("content-type", "application/json")]
                  body := "\x7b\"left\": 3\x7d".toUTF8.toList }, false⟩]

private theorem stock_readable : Readable stock.responseMapping := by
  have hsteps : ∀ m ∈ stock.responseMapping, ∀ step ∈ Path.steps m.path, ¬step.Misfits := by
    decide +kernel
  intro m hm data
  cases hget : Path.get data m.path with
  | ok v => exact ⟨v, rfl⟩
  | error e =>
    exact absurd (Path.get_eq_error_iff.1 ⟨e, hget⟩)
      (Path.not_misleads_of_steps (hsteps m hm) data)

private theorem stock_sendable : ¬Unsendable stock stockBindings := by
  rintro ⟨-, text, htext, name, hname, hvalue⟩
  have hurl : Template.names stock.url = ["item"] := by decide +kernel
  have hbound : Json.isWritable Json.maxNesting (stockBindings.getD "item") = true := by
    decide +kernel
  obtain rfl : text = stock.url := List.mem_singleton.1 htext
  obtain rfl : name = "item" := List.mem_singleton.1 (hurl ▸ hname)
  cases hbound.symm.trans hvalue

theorem execute_reflects_stock :
    Readable stock.responseMapping ∧ stock.kind = .http ∧
      ((execute stockSettings stock stockBindings none).Ensures fun es _ =>
        ∃ r last, request stock stockBindings (.whole 10) = some r ∧
          Attempted 2 r (attempts es) last) ∧
      ((execute stockSettings stock stockBindings none).run stockWorld).1.map
          (fun w => (w.succeeded, w.status, w.bindings.map fun p => (p.1, p.2.display))) =
        .ok (true, 200,
          [("left", some "3"), (responseName, some "\x7b\"left\": 3\x7d")]) := by
  refine ⟨stock_readable, rfl, ?_, by decide +kernel⟩
  obtain ⟨hexecute, -⟩ := execute_reflects stockSettings stock stockBindings none stock_readable
  have hurl : Template.render stock.url stockBindings ≠ some "" := by decide +kernel
  exact hexecute.mono fun es a ha => ha.2.2 hurl (by decide +kernel) stock_sendable

/-- A success whose body is said to be UTF-16 and lacks the mark that tells the order of its
bytes. -/
private def unmarkedWorld : Script where
  http :=
    [⟨.response { headers := [("content-type", "text/plain; charset=utf-16")]
                  body := [0x33, 0x00], text := none }, false⟩]

private def stockTurn : Turn where
  settings := { functions := stockSettings }
  flow := { nodes := [{ id := "count", config := .function stock }] }
  userInput := ""
  history := []

/-- The response is a success, but there is no result: the function fails, and its node tells
neither whether it succeeded nor with which status. -/
theorem stock_stumps_unmarked :
    Readable stock.responseMapping ∧
      ((execute stockSettings stock stockBindings none).run unmarkedWorld).1.map
          WebResult.status = .error .undecodable ∧
      (let w := ((stockTurn.run "count" stockBindings).run unmarkedWorld).1
       w.ending = .failed ∧ w.result.bindings.has Turn.successName = false ∧
         w.result.bindings.has Turn.statusName = false) :=
  ⟨stock_readable, by decide +kernel, by decide +kernel⟩

end Web

end CallFlow
