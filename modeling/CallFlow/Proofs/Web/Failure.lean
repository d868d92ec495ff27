import CallFlow.Proofs.Fallible
import CallFlow.Proofs.Path.Failure
import CallFlow.Proofs.Template.Filled
import CallFlow.Proofs.Turn.Effort

namespace CallFlow

/-- The response that a reply brings. -/
def HttpReply.response? : HttpReply → Option HttpResponse
  | response r => some r
  | unconnected _ | timedOut | failed _ => none

/-- The response of an exchange over HTTP. -/
def Exchange.response? : Exchange → Option HttpResponse
  | ⟨.http _, reply⟩ => reply.response?
  | _ => none

/-- The responses that came in the course of some exchanges. -/
def responses (es : List Exchange) : List HttpResponse := es.filterMap Exchange.response?

@[simp] theorem responses_append (es es' : List Exchange) :
    responses (es ++ es') = responses es ++ responses es' := List.filterMap_append

/-- Where no request was counted none was sent. -/
theorem query_ne_http {es : List Exchange} (h : asked .http es = 0) {e : Exchange} (he : e ∈ es)
    (r : HttpRequest) : e.query ≠ .http r := by
  intro hquery
  have hnot := List.countP_eq_zero.1 h e he
  simp [hquery, Query.effort?] at hnot

/-- Where nothing is asked over HTTP, no response comes. -/
theorem responses_eq_nil {es : List Exchange} (h : asked .http es = 0) : responses es = [] := by
  refine List.filterMap_eq_nil_iff.2 fun e he => ?_
  obtain ⟨query, reply⟩ := e
  cases query with
  | http r => exact absurd rfl (query_ne_http h he r)
  | _ => rfl

open Dialogue

namespace Web

/-- A body without a value: it is to be JSON and nested too deep to be read, or it is not JSON and
has no text either. -/
def IsUnreadable (r : HttpResponse) : Prop :=
  jsonValue? r = .error .nestedTooDeep ∨ jsonValue? r = .ok none ∧ r.text = none

/-- A response to a success with a body that has no value, or a value that some path of a mapping
misleads on. -/
def Misread (ms : List ResponseMapping) (r : HttpResponse) : Prop :=
  200 ≤ r.status ∧ r.status ≤ 299 ∧
    (IsUnreadable r ∨ ∃ data, bodyValue r = .ok data ∧ ∃ m ∈ ms, Path.Misleads m.path data)

/-- The templates that a request is made of. -/
def templates (c : FunctionConfig) : List String :=
  c.url :: (c.headers.map Prod.snd ++ (authoredBody c).toList)

/-- A function has somewhere to send a request to, but some value that is to go into the request can
not be written. -/
def Unsendable (c : FunctionConfig) (b : Bindings) : Prop :=
  Template.render c.url b ≠ some "" ∧ ∃ text ∈ templates c, ∃ name ∈ Template.names text,
    Json.isWritable Json.maxNesting (b.getD name) = false

section Requests

variable {c : FunctionConfig} {b : Bindings}

/-- There are no headers exactly if one of them can not be rendered. -/
theorem headers_eq_none_iff :
    headers c b = none ↔ ∃ text ∈ c.headers.map Prod.snd, Template.render text b = none := by
  have hheader : ∀ entry, header b entry = none ↔ Template.render entry.2 b = none := by
    simp [header]
  simp only [headers, Option.map_eq_none_iff, Fallible.mapM_eq_none_iff, hheader, List.mem_map]
  exact ⟨fun ⟨entry, hmem, h⟩ => ⟨_, ⟨entry, hmem, rfl⟩, h⟩, fun ⟨_, ⟨entry, hmem, heq⟩, h⟩ =>
    ⟨entry, hmem, heq ▸ h⟩⟩

/-- There is no body exactly if the authored one can not be rendered. -/
theorem content_eq_none_iff :
    content c b = none ↔ ∃ text ∈ (authoredBody c).toList, Template.render text b = none := by
  rw [content]
  cases authoredBody c <;> simp

/-- There is no request exactly if one of its templates can not be rendered. -/
theorem request_eq_none_iff {timeout : Amount} : request c b timeout = none ↔
    ∃ text ∈ templates c, ∃ name ∈ Template.names text,
      Json.isWritable Json.maxNesting (b.getD name) = false := by
  have hnone : ∀ text, Template.render text b = none ↔ ∃ name ∈ Template.names text,
      Json.isWritable Json.maxNesting (b.getD name) = false := by
    simp [Template.render_eq_none_iff, Value.display_eq_none_iff]
  simp only [← hnone, templates, List.mem_cons, List.mem_append, or_and_right, exists_or,
    exists_eq_left, ← headers_eq_none_iff, ← content_eq_none_iff]
  rw [request]
  cases Template.render c.url b with
  | none => simp
  | some url =>
    cases headers c b with
    | none => simp
    | some hs => cases content c b <;> simp

end Requests

variable {ms : List ResponseMapping}

/-- JSON fails only by nesting too deep. -/
theorem eq_nestedTooDeep_of_jsonValue? {r : HttpResponse} {e : Fault}
    (h : jsonValue? r = .error e) : e = .nestedTooDeep := by
  unfold jsonValue? at h
  split at h
  · unfold readJson at h
    split at h <;> cases h
    rfl
  · cases h

/-- There is no value of a body exactly if it is unreadable. -/
theorem bodyValue_eq_error_iff {r : HttpResponse} :
    (∃ e, bodyValue r = .error e) ↔ IsUnreadable r := by
  rw [IsUnreadable, bodyValue]
  cases hjson : jsonValue? r with
  | error e =>
    obtain rfl := eq_nestedTooDeep_of_jsonValue? hjson
    simp
  | ok v? =>
    cases v? with
    | some v => simp
    | none => cases r.text <;> simp

/-- A mapping fails exactly if one of its paths misleads. -/
theorem mapped_eq_error_iff {data : Value} :
    (∃ e, mapped ms data = .error e) ↔ ∃ m ∈ ms, Path.Misleads m.path data := by
  have hparts : (∃ e, mapped ms data = .error e) ↔ ∃ e, ms.mapM (mappedPart data) = .error e := by
    unfold mapped
    cases ms.mapM (mappedPart data) with
    | error e => exact iff_of_true ⟨e, rfl⟩ ⟨e, rfl⟩
    | ok parts => exact iff_of_false nofun nofun
  rw [hparts, Fallible.mapM_eq_error_iff]
  refine exists_congr fun m => and_congr_right fun _ => ?_
  rw [← Path.get_eq_error_iff, mappedPart]
  cases Path.get data m.path with
  | error e => exact iff_of_true ⟨_, rfl⟩ ⟨e, rfl⟩
  | ok v => exact iff_of_false nofun nofun

/-- There is no result exactly if a response is misread. -/
theorem result_eq_error_iff {reply : HttpReply} :
    (∃ e, result ms reply = .error e) ↔ ∃ r, reply = .response r ∧ Misread ms r := by
  cases reply with
  | response r =>
    simp only [HttpReply.response.injEq, exists_eq_left', Misread, ← mapped_eq_error_iff,
      ← bodyValue_eq_error_iff, result]
    split
    · rename_i hstatus
      simp only [Bool.and_eq_true, decide_eq_true_eq] at hstatus
      cases bodyValue r with
      | error e => exact iff_of_true ⟨e, rfl⟩ ⟨hstatus.1, hstatus.2, Or.inl ⟨e, rfl⟩⟩
      | ok data =>
        cases hmapped : mapped ms data with
        | error e =>
          refine iff_of_true ⟨e, ?_⟩ ⟨hstatus.1, hstatus.2, Or.inr ⟨data, rfl, e, hmapped⟩⟩
          simp only [Except.bind, hmapped]
          rfl
        | ok vs =>
          refine iff_of_false ?_ (by simp [hmapped])
          simp [Except.bind, Except.map, hmapped]
    · rename_i hstatus
      refine iff_of_false nofun fun ⟨hlow, hhigh, _⟩ => hstatus ?_
      simp [hlow, hhigh]
  | _ => exact iff_of_false nofun nofun

/-- Of the replies to the attempts, only the last can be a response. -/
theorem send_responses (r : HttpRequest) (retries failures : Nat) :
    (send r retries failures).Ensures fun es reply => responses es = reply.response?.toList := by
  have hhttp : (query (.http r)).Ensures fun es reply => es = [⟨.http r, reply⟩] :=
    ensures_ask fun reply => ensures_done rfl
  induction retries generalizing failures with
  | zero =>
    refine hhttp.mono fun es reply hes => ?_
    subst hes
    cases reply <;> rfl
  | succ retries ih =>
    refine hhttp.bind fun es reply hes => ?_
    subst hes
    cases reply with
    | unconnected message =>
      refine ensures_ask fun _ => (ih (failures + 1)).mono fun es reply hes => ?_
      exact hes
    | _ => exact ensures_done rfl

/-- A function over HTTP fails exactly if it can not be sent, or a response to a success is
misread. -/
theorem execute_fails (s : FunctionSettings) (c : FunctionConfig) (b : Bindings)
    (timeout : Option Amount) :
    (execute s c b timeout).Ensures fun es a =>
      (∃ e, a = .error e) ↔ Unsendable c b ∨ ∃ r ∈ responses es, Misread c.responseMapping r := by
  unfold execute
  dsimp only
  split
  · rename_i hurl
    exact ensures_done (iff_of_false nofun (by simp [Unsendable, hurl, responses]))
  · rename_i hrequest hurl
    exact ensures_done (iff_of_true ⟨_, rfl⟩ (Or.inl ⟨hurl, request_eq_none_iff.1 hrequest⟩))
  · rename_i request hrequest hurl
    have hsendable : ¬Unsendable c b := by
      intro h
      cases (request_eq_none_iff.2 h.2).symm.trans hrequest
    split
    · exact ensures_done (iff_of_false nofun (by simp [hsendable, responses]))
    · refine (send_responses _ _ _).map fun es reply hes => ?_
      rw [result_eq_error_iff, hes, or_iff_right hsendable]
      cases reply <;> simp [HttpReply.response?]

end Web

namespace Turn

variable {t : Turn} {node : String} {c : FunctionConfig} {b : Bindings}

/-- A function over HTTP fails exactly if it can not be sent, or a response is misread. -/
theorem callWeb_fails : (t.callWeb c b).Ensures fun es after => after = none ↔
    Web.Unsendable c b ∨ ∃ r ∈ responses es, Web.Misread c.responseMapping r := by
  refine (Web.execute_fails t.settings.functions c b (timeout c)).bind fun es reply hes => ?_
  cases reply with
  | error e =>
    refine ensures_done ?_
    rw [List.append_nil]
    exact iff_of_true rfl (hes.1 ⟨e, rfl⟩)
  | ok r =>
    refine ensures_done ?_
    rw [List.append_nil]
    exact iff_of_false nofun fun hmisread => nomatch hes.2 hmisread

theorem silently_ne_failed (next : Option String) : silently next ≠ .failed := by
  cases next <;> exact nofun

/-- A speech that can not be rendered. -/
def Unspeakable (speech : Option Content) (b : Bindings) : Prop :=
  ∃ content, speech = some content ∧ Template.render content.text b = none

/-- Saying something on the way fails exactly if it can not be rendered. -/
theorem onTheWay_eq_failed_iff {speech : Option Content} {next : Option String} :
    onTheWay speech b next = .failed ↔ Unspeakable speech b := by
  cases speech with
  | none => exact iff_of_false (silently_ne_failed next) fun ⟨_, h, _⟩ => nomatch h
  | some content =>
    simp only [onTheWay, Unspeakable, Option.some.injEq, exists_eq_left']
    split
    · rename_i hempty
      rw [hempty, Template.render_of_not_mem (by decide)]
      exact iff_of_false (silently_ne_failed next) nofun
    · cases Template.render content.text b with
      | none => exact iff_of_true rfl rfl
      | some text => exact iff_of_false nofun nofun

/-- A function over HTTP fails at its node over its request, over the response, or over what is to
be said after it with the variables that are set by then. -/
theorem runFunction_fails (hkind : c.kind = .http) : (t.runFunction node c b).Ensures fun es o =>
    (o.1 = .failed ↔ Web.Unsendable c b ∨ (∃ r ∈ responses es, Web.Misread c.responseMapping r) ∨
      Unspeakable c.speech o.2) ∧ (Web.Unsendable c b → o.2 = b) := by
  have hcall : t.call c b = t.callWeb c b := by rw [call, hkind]
  unfold runFunction
  rw [hcall]
  refine callWeb_fails.bind fun es after hes => ?_
  cases after with
  | none =>
    refine ensures_done ⟨?_, fun _ => rfl⟩
    rw [List.append_nil, ← or_assoc]
    exact iff_of_true rfl (Or.inl (hes.1 rfl))
  | some b' =>
    -- what follows the response is asked of the language model alone
    refine resolve_asks.map fun es' handle hasked => ?_
    have hnone : responses es' = [] := responses_eq_nil (Nat.le_zero.1 (hasked .http))
    have hwell : ¬(Web.Unsendable c b ∨ ∃ r ∈ responses es, Web.Misread c.responseMapping r) :=
      fun h => nomatch hes.2 h
    rw [responses_append, hnone, List.append_nil, ← or_assoc, or_iff_right hwell]
    exact ⟨onTheWay_eq_failed_iff, fun h => absurd (Or.inl h) hwell⟩

/-- A failed walk ends with a node that failed, and asks the caller there to say it again. -/
theorem walk_failed (hops : Nat) (id : String) (b : Bindings) :
    (t.walk hops id b).Ensures fun es w => w.ending = .failed →
      ∃ n front back before after, w.visited.getLast? = some n.id ∧ t.flow.node? n.id = some n ∧
        es = front ++ back ∧ (t.runNode n before).Transcript back (.failed, after) ∧
        w.result = t.retry n.id after := by
  induction hops using Nat.strongRecOn generalizing id b with
  | ind hops ih =>
    cases hnode : t.flow.node? id with
    | none =>
      rw [walk_missing t hnode]
      exact ensures_done nofun
    | some n =>
      obtain ⟨-, rfl, -⟩ := Flow.mem_nodes_of_node? hnode
      rw [walk_node t hnode]
      have hnoderun : (t.runNode n b).Ensures (t.runNode n b).Transcript := fun _ _ h => h
      refine hnoderun.bind ?_
      rintro es ⟨step, after⟩ hrun
      cases step with
      | failed =>
        refine ensures_done fun _ => ⟨n, [], es, b, after, rfl, hnode, ?_, hrun, rfl⟩
        rw [List.append_nil, List.nil_append]
      | reply response move => exact ensures_done nofun
      | hop next =>
        cases hops with
        | zero => exact ensures_done nofun
        | succ hops =>
          refine (ih hops (Nat.lt_succ_self hops) next after).map fun es' w hw hfailed => ?_
          obtain ⟨last, front, back, before, after', hlast, hfound, rfl, hlastrun, hresult⟩ :=
            hw hfailed
          refine ⟨last, es ++ front, back, before, after', ?_, hfound, ?_, hlastrun, hresult⟩
          · rw [Walk.after, List.getLast?_cons, hlast, Option.getD_some]
          · rw [List.append_assoc]

/-- A walk that fails at a function over HTTP has failed over its request, over the response, or
over what was to be said after it. -/
theorem walk_fails (hops : Nat) (id : String) (b : Bindings) (hkind : c.kind = .http) :
    (t.walk hops id b).Ensures fun es w => w.ending = .failed →
      ∀ n, w.visited.getLast? = some n.id → t.flow.node? n.id = some n → n.config = .function c →
        Web.Unsendable c w.result.bindings ∨
          (∃ r ∈ responses es, Web.Misread c.responseMapping r) ∨
          Unspeakable c.speech w.result.bindings := by
  refine (walk_failed hops id b).mono fun es w hw hfailed n hlast hfound hconfig => ?_
  obtain ⟨n', front, back, before, after, hlast', hfound', rfl, hrun, hresult⟩ := hw hfailed
  -- an id finds one node only
  have hid : n'.id = n.id := Option.some.inj (hlast'.symm.trans hlast)
  rw [hid, hfound] at hfound'
  obtain rfl := Option.some.inj hfound'
  rw [runNode, hconfig] at hrun
  have hafter : w.result.bindings = after := by rw [hresult]; rfl
  obtain ⟨hfails, hkept⟩ := runFunction_fails hkind _ _ hrun
  rw [hafter]
  obtain hsend | ⟨r, hr, hmisread⟩ | hspeech := hfails.1 rfl
  · have hsame : after = before := hkept hsend
    exact Or.inl (hsame ▸ hsend)
  · exact Or.inr (Or.inl ⟨r, by simp [hr], hmisread⟩)
  · exact Or.inr (Or.inr hspeech)

end Turn

namespace Web

/-- Carrying out a function over HTTP comes to a result, unless a value can not be written that is
to go into the request, or the response to a success has a body without a value or with one on which
a path of the mapping misleads. A path none of whose parts is made of digits that are no position
misleads on nothing. The node that carries the function out is failed then, and otherwise only if
what is to be said after it can not be rendered. So a turn that asks the caller at such a node to
say it again has met one of these. -/
theorem execute_fails_iff (c : FunctionConfig) (b : Bindings) :
    (∀ s timeout, (execute s c b timeout).Ensures fun es a => (∃ e, a = .error e) ↔
      Unsendable c b ∨ ∃ r ∈ responses es, Misread c.responseMapping r) ∧
    ((∀ m ∈ c.responseMapping, ∀ step ∈ Path.steps m.path, ¬step.Misfits) →
      ∀ s timeout, (execute s c b timeout).Ensures fun es a => (∃ e, a = .error e) ↔
        Unsendable c b ∨ ∃ r ∈ responses es, 200 ≤ r.status ∧ r.status ≤ 299 ∧ IsUnreadable r) ∧
    (c.kind = .http → ∀ (t : Turn) node, (t.runFunction node c b).Ensures fun es o =>
      o.1 = .failed ↔ Unsendable c b ∨ (∃ r ∈ responses es, Misread c.responseMapping r) ∨
        Turn.Unspeakable c.speech o.2) ∧
    (c.kind = .http → ∀ (t : Turn) id, (t.run id b).Ensures fun es w => w.ending = .failed →
      ∀ n, w.visited.getLast? = some n.id → t.flow.node? n.id = some n → n.config = .function c →
        Unsendable c w.result.bindings ∨ (∃ r ∈ responses es, Misread c.responseMapping r) ∨
          Turn.Unspeakable c.speech w.result.bindings) := by
  refine ⟨fun s timeout => execute_fails s c b timeout, fun hsteps s timeout => ?_,
    fun hkind t node => (Turn.runFunction_fails hkind).mono fun es o h => h.1,
    fun hkind t id => Turn.walk_fails _ id b hkind⟩
  refine (execute_fails s c b timeout).mono fun es a hes => hes.trans (or_congr_right ?_)
  refine exists_congr fun r => and_congr_right fun _ => and_congr_right fun _ =>
    and_congr_right fun _ => or_iff_left ?_
  rintro ⟨data, -, m, hm, hmisleads⟩
  exact Path.not_misleads_of_steps (hsteps m hm) _ hmisleads

private def rooms (path : String) : FunctionConfig where
  url := "https://rooms.example"
  responseMapping := [{ target := "room", path := path }]

theorem execute_fails_iff_rooms :
    (∀ m ∈ (rooms "free[0].room").responseMapping, ∀ step ∈ Path.steps m.path, ¬step.Misfits) ∧
      (rooms "free[0].room").kind = .http ∧
      ∀ s timeout, (execute s (rooms "free[0].room") [] timeout).Ensures fun es a =>
        (∃ e, a = .error e) ↔ Unsendable (rooms "free[0].room") [] ∨
          ∃ r ∈ responses es, 200 ≤ r.status ∧ r.status ≤ 299 ∧ IsUnreadable r := by
  have hsteps : ∀ m ∈ (rooms "free[0].room").responseMapping, ∀ step ∈ Path.steps m.path,
      ¬step.Misfits := by
    decide +kernel
  exact ⟨hsteps, rfl, (execute_fails_iff (rooms "free[0].room") []).2.1 hsteps⟩

private def roomsTurn : Turn where
  settings := { functions := { httpTimeout := .whole 10 } }
  flow := { nodes := [{ id := "look", config := .function (rooms "²") }] }
  userInput := ""
  history := []

/-- The body is a list of one number. -/
private def roomsWorld : Script where
  http :=
    [⟨.response { headers := [("content-type", "application/json")]
                  body := [91, 49, 48, 49, 93] }, false⟩]

/-- A raised two is a digit, but with it no position is written: met at a list it fails, and the
caller is asked to say it again. -/
theorem execute_fails_raisedTwo :
    ((execute roomsTurn.settings.functions (rooms "²") [] none).run roomsWorld).1.map
          WebResult.status = .error (.path (.notAPosition "²")) ∧
      (let r := ((roomsTurn.run "look" []).run roomsWorld).1.result
       r.response = roomsTurn.settings.engine.fallbackMessage ∧ r.move = .gather "look") := by
  decide +kernel

end Web

end CallFlow
