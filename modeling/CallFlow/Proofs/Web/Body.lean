import CallFlow.Proofs.Flow.Parts
import CallFlow.Proofs.Template.Quoted
import CallFlow.Proofs.Web.Attempts

namespace CallFlow

open Schema Dialogue

/-- A body that is written out as JSON. -/
structure Value.IsJsonBody (v : Value) : Prop where
  nested : (∃ items, v = .list items) ∨ ∃ members, v = .object members
  writable : Json.isWritable Json.maxNesting v = true

/-- A value refers to no names but these. -/
def Value.RefersTo (v : Value) (names : List String) : Prop :=
  ∀ s ∈ v.texts, ∀ name ∈ Template.names s, name ∈ names

/-- The settings were authored with a body that is written out as JSON, and with a method whose
requests have a body. -/
structure FunctionConfig.Authored (c : FunctionConfig) (o : Bindings) (body : Value) : Prop where
  reads : FunctionConfig.reader (.object o) = .read c
  authored : Fields.body.value? o = some body
  isJson : body.IsJsonBody
  method : c.method ≠ "" ∧ c.method ∉ Web.bodyless

namespace FunctionConfig

variable {c : FunctionConfig} {o : Bindings} {body : Value}

/-- A list or an object is kept as its JSON text. -/
theorem Authored.body_eq (h : c.Authored o body) : c.body = some (Json.write body) := by
  have hbody := (reader_eq_read_iff.1 h.reads).body
  rw [← Checked.toOption_eq_some_iff, Field.toOption_optional, h.authored] at hbody
  obtain ⟨items, rfl⟩ | ⟨members, rfl⟩ := h.isJson.nested <;> exact (Option.some.inj hbody).symm

end FunctionConfig

namespace Web

variable {c : FunctionConfig} {o : Bindings} {body : Value} {b : Bindings}

/-- The content of a request is JSON text of a value, and that value is the given one. -/
def Carries (r : HttpRequest) (v? : Option Value) : Prop :=
  ∃ text w, r.content = some text ∧ Json.read text = .ok w ∧ v? = some w

/-- Whatever the limits and the replies are, each attempt of a function carries a value. -/
def Sends (c : FunctionConfig) (b : Bindings) (v? : Option Value) : Prop :=
  ∀ s timeout, (execute s c b timeout).Ensures fun es _ => ∀ a ∈ attempts es, Carries a.1 v?

/-- Each attempt of a function is at its one request. -/
theorem execute_requests (s : FunctionSettings) (c : FunctionConfig) (b : Bindings)
    (timeout : Option Amount) : (execute s c b timeout).Ensures fun es _ =>
      ∀ a ∈ attempts es, request c b (Amount.orElse timeout s.httpTimeout) = some a.1 := by
  unfold execute
  dsimp only
  split
  · exact ensures_done nofun
  · exact ensures_done nofun
  · rename_i hrequest _
    split
    · exact ensures_done nofun
    · refine (send_attempts _ _ 0).map fun es last htried a ha => ?_
      rw [htried.same a ha, hrequest]

/-- What is sent is the authored body, written out and then rendered. -/
theorem content_request (h : c.Authored o body) {timeout : Amount} {r : HttpRequest}
    (hrequest : request c b timeout = some r) :
    ∃ text, Template.render (Json.write body) b = some text ∧ r.content = some text := by
  have hmethod : bodyless.contains c.method = false := by
    simpa using h.method.2
  have hbody : authoredBody c = some (Json.write body) := by
    simp only [authoredBody, method, if_neg h.method.1, hmethod, h.body_eq]
    rfl
  obtain ⟨url, -, hs, -, content, hcontent, rfl⟩ :
      ∃ url, Template.render c.url b = some url ∧ ∃ hs, headers c b = some hs ∧
        ∃ content, Web.content c b = some content ∧
          (⟨method c, url, hs, content, timeout⟩) = r := by
    simpa [request, Option.bind_eq_some_iff] using hrequest
  rw [Web.content, hbody] at hcontent
  obtain ⟨text, htext, rfl⟩ := Option.map_eq_some_iff.1 hcontent
  exact ⟨text, htext, rfl⟩

/-- The body is sent as authored, with its texts rendered, if what it refers to suits. -/
theorem sends_rendered (h : c.Authored o body)
    (hfits : ∀ s ∈ body.texts, ∀ name ∈ Template.names s, Template.Fits b name) :
    Sends c b (body.rendered b) := by
  intro s timeout
  refine (execute_requests s c b timeout).mono fun es _ hsame a ha => ?_
  obtain ⟨text, hrender, hcontent⟩ := content_request h (hsame a ha)
  obtain ⟨w, hw, hread⟩ := Template.read_render_write h.isJson.writable hfits hrender
  exact ⟨text, w, hcontent, hread, hw⟩

/-- A function that posts a text which is nothing but a placeholder. -/
def echo (name : String) : FunctionConfig where
  method := "POST"
  url := "https://rooms.example"
  body := some (Json.write (.list [.text (Template.placeholder name)]))

/-- The members it is authored with. -/
def echoMembers (name : String) : Bindings :=
  [("method", .text "POST"), ("url", .text "https://rooms.example"),
   ("body", .list [.text (Template.placeholder name)])]

theorem echo_authored (name : String) :
    (echo name).Authored (echoMembers name) (.list [.text (Template.placeholder name)]) := by
  have hmethod : "POST" ≠ "" ∧ "POST" ∉ bodyless := by decide
  exact ⟨rfl, rfl, ⟨Or.inl ⟨_, rfl⟩, rfl⟩, hmethod⟩

/-- A function with an address asks at least once. -/
theorem Sends.carries {v? : Option Value} (h : Sends c b v?)
    (hurl : Template.render c.url b ≠ some "") {r : HttpRequest}
    (hrequest : request c b (.real 10) = some r) : Carries r v? := by
  have hcourse : (execute { httpRetries := 0 } c b none).Transcript
      [⟨.http r, .timedOut⟩] (.ok (.failure 0 "timeout")) := by
    have hlimit : Amount.orElse none ({ httpRetries := 0 } : FunctionSettings).httpTimeout =
        .real 10 := rfl
    have htime : (Amount.real 10).isOver = false := rfl
    unfold execute
    dsimp only
    rw [hlimit, hrequest]
    split
    · rename_i hempty
      exact absurd hempty hurl
    · rename_i hnone _
      cases hnone
    · rename_i hsome _
      cases hsome
      rw [htime]
      exact .ask (q := .http r) .timedOut (.done _)
  exact h _ _ _ _ hcourse _ List.mem_cons_self

/-- What is sent of one placeholder tells that its variable fits. -/
theorem fits_of_sends {name : String} (hname : Template.IsName name.toList)
    (h : Sends (echo name) b (Value.rendered (.list [.text (Template.placeholder name)]) b)) :
    Template.Fits b name := by
  have hurl : Template.render "https://rooms.example" b = some "https://rooms.example" :=
    Template.render_of_not_mem (by decide) b
  refine Template.fits_of_read hname fun text hrender => ?_
  have hcontent : content (echo name) b = some (some text) := by
    have hbody : authoredBody (echo name) =
        some (Json.write (.list [.text (Template.placeholder name)])) := rfl
    rw [content, hbody]
    exact congrArg (Option.map some) hrender
  obtain ⟨r, hrequest, hsent⟩ :
      ∃ r, request (echo name) b (.real 10) = some r ∧ r.content = some text := by
    have hheaders : headers (echo name) b = some [("Content-Type", "application/json")] := rfl
    have haddress : Template.render (echo name).url b = some "https://rooms.example" := hurl
    exact ⟨_, by rw [request, haddress, hheaders, hcontent]; rfl, rfl⟩
  obtain ⟨text', w, hcarried, hread, hw⟩ :=
    h.carries (fun hempty => absurd (Option.some.inj (hurl.symm.trans hempty)) (by decide)) hrequest
  obtain rfl := Option.some.inj (hsent.symm.trans hcarried)
  exact ⟨w, hw, hread⟩

/-- Rendering and JSON commute for all bodies that refer to no names but some exactly if what each
of these is bound to suits a place between quotes. -/
theorem sends_rendered_iff (names : List String) (b : Bindings) :
    (∀ c o body, FunctionConfig.Authored c o body → body.RefersTo names →
      Sends c b (body.rendered b)) ↔
    ∀ name ∈ names, Template.IsName name.toList → Template.Fits b name := by
  constructor
  · intro hall name hmem hname
    refine fits_of_sends hname (hall _ _ _ (echo_authored name) fun s hs other hother => ?_)
    rw [List.mem_singleton.1 hs, Template.names_placeholder hname] at hother
    exact List.mem_singleton.1 hother ▸ hmem
  · intro hfits c o body h hnames
    refine sends_rendered h fun s hs name hname => ?_
    exact hfits name (hnames s hs name hname) (Template.mem_names_iff.1 hname).1

/-- An order that is sent as an object. -/
private def order (members : Bindings) : FunctionConfig where
  method := "POST"
  url := "https://shop.example"
  body := some (Json.write (.object members))

private def orderMembers (members : Bindings) : Bindings :=
  [("executionType", .text "http"), ("method", .text "POST"),
   ("url", .text "https://shop.example"), ("body", .object members)]

private theorem order_authored {members : Bindings}
    (h : Json.isWritable Json.maxNesting (.object members) = true) :
    (order members).Authored (orderMembers members) (.object members) := by
  have hmethod : "POST" ≠ "" ∧ "POST" ∉ bodyless := by decide
  exact ⟨rfl, rfl, ⟨Or.inr ⟨_, rfl⟩, h⟩, hmethod⟩

private theorem order_url (members b : Bindings) :
    Template.render (order members).url b ≠ some "" := by
  have hurl : Template.render "https://shop.example" b = some "https://shop.example" :=
    Template.render_of_not_mem (by decide) b
  exact fun hempty => absurd (Option.some.inj (hurl.symm.trans hempty)) (by decide)

private def sized : Bindings := [("size", .text "\x7b\x7bgröße\x7d\x7d")]

private def noted : Bindings := [("note", .text "\x7b\x7bnote\x7d\x7d")]

theorem sends_rendered_ring :
    Sends (order noted) [("note", .text "ring")] (some (.object [("note", .text "ring")])) := by
  obtain ⟨hrendered, hnone, htemplate⟩ :
      Value.rendered (.object noted) [("note", .text "ring")] =
          some (.object [("note", .text "ring")]) ∧
        Template.names "note" = [] ∧ Template.names "\x7b\x7bnote\x7d\x7d" = ["note"] :=
    ⟨by cbv, by cbv, by cbv⟩
  have hnames : Value.RefersTo (.object noted) ["note"] := by
    have htexts : (Value.object noted).texts = ["note", "\x7b\x7bnote\x7d\x7d"] := rfl
    simp [Value.RefersTo, htexts, hnone, htemplate]
  rw [← hrendered]
  refine (sends_rendered_iff ["note"] _).2 (fun name hname _ => ?_) _ _ _
    (order_authored rfl) hnames
  obtain rfl := List.mem_singleton.1 hname
  have hascii : Template.IsAscii "note".toList := by
    simp [Template.IsAscii]
  have hplain : ∀ c ∈ "ring".toList, Json.IsPlain c := by
    simp [Json.IsPlain]
  have hdisplay : (Bindings.getD [("note", .text "ring")] "note").display = some "ring" := rfl
  refine ⟨fun _ s hs => ?_, fun hbeyond => absurd hascii hbeyond⟩
  obtain rfl := Option.some.inj (hdisplay.symm.trans hs)
  exact hplain

/-- A placeholder with a name beyond ASCII is not replaced, and a quote that is inserted ends the
text that it is inserted in. -/
theorem sends_rendered_order :
    (order sized).Authored (orderMembers sized) (.object sized) ∧
      Value.rendered (.object sized) [("größe", .text "XL")] =
        some (.object [("size", .text "XL")]) ∧
      ¬Sends (order sized) [("größe", .text "XL")] (some (.object [("size", .text "XL")])) ∧
    (order noted).Authored (orderMembers noted) (.object noted) ∧
      Value.rendered (.object noted) [("note", .text "say \"hi\"")] =
        some (.object [("note", .text "say \"hi\"")]) ∧
      ¬∃ v?, Sends (order noted) [("note", .text "say \"hi\"")] v? := by
  refine ⟨order_authored rfl, by cbv, fun h => ?_, order_authored rfl, by cbv, ?_⟩
  · have hsent : (request (order sized) [("größe", .text "XL")] (.real 10)).map
        HttpRequest.content =
          some (some "\x7b\"size\": \"\x7b\x7bgr\\u00f6\\u00dfe\x7d\x7d\"\x7d") := by cbv
    have hsame : Json.read "\x7b\"size\": \"\x7b\x7bgr\\u00f6\\u00dfe\x7d\x7d\"\x7d" =
        .ok (.object sized) := by cbv
    obtain ⟨r, hrequest, hr⟩ := Option.map_eq_some_iff.1 hsent
    obtain ⟨text, w, hcontent, hread, hw⟩ := h.carries (order_url _ _) hrequest
    obtain rfl := Option.some.inj (hr.symm.trans hcontent)
    rw [hsame] at hread
    cases hread
    simp [sized] at hw
  · rintro ⟨v, h⟩
    have hsent : (request (order noted) [("note", .text "say \"hi\"")] (.real 10)).map
        HttpRequest.content = some (some "\x7b\"note\": \"say \"hi\"\"\x7d") := by cbv
    have hrefused : (Json.read "\x7b\"note\": \"say \"hi\"\"\x7d").isOk = false := by
      decide +kernel
    obtain ⟨r, hrequest, hr⟩ := Option.map_eq_some_iff.1 hsent
    obtain ⟨text, w, hcontent, hread, hw⟩ := h.carries (order_url _ _) hrequest
    obtain rfl := Option.some.inj (hr.symm.trans hcontent)
    rw [hread] at hrefused
    cases hrefused

end Web

end CallFlow
