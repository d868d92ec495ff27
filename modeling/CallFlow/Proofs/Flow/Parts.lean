import CallFlow.Flow.Read
import CallFlow.Proofs.Schema.Spelling

namespace CallFlow

open Schema

namespace FunctionConfig

/-- Each part of a function's settings is what its member reads as, or the default for want of a
member. -/
structure ReadFrom (c : FunctionConfig) (o : Bindings) : Prop where
  kind : Fields.executionType.optional .http (.choice FunctionKind.choices) o = .read c.kind
  method : Fields.method.optional "GET" (.adapted adaptMethod .text) o = .read c.method
  url : Fields.url.optional "" .text o = .read c.url
  headers : Fields.headers.optional [] (.map .text) o = .read c.headers
  body : Fields.body.optional none (.adapted adaptBody (.nullable .text)) o = .read c.body
  responseMapping : Fields.responseMapping.optional [] (.list ResponseMapping.reader) o =
    .read c.responseMapping
  code : Fields.code.optional "" .text o = .read c.code
  inputVariables : Fields.inputVariables.optional [] (.list .text) o = .read c.inputVariables
  outputVariable : Fields.outputVariable.optional "" .text o = .read c.outputVariable
  timeout : Fields.timeout.optional none (.nullable .number) o = .read c.timeout
  speech : Fields.speech.optional none (.nullable Content.authored) o = .read c.speech
  waitForResult : Fields.waitForResult.optional true .boolean o = .read c.waitForResult
  transitions : Fields.transitions.optional [] (.list Transition.reader) o = .read c.transitions

variable {c : FunctionConfig} {o : Bindings}

/-- The settings of a function are read part by part. -/
theorem reader_eq_read_iff : reader (.object o) = .read c ↔ c.ReadFrom o := by
  simp only [reader, Reader.record, Checked.seq_eq_read_iff, Checked.map_eq_read_iff,
    ↓existsAndEq, and_true, and_assoc]
  constructor
  · rintro ⟨_, _, _, _, _, _, _, _, _, _, _, _, _, hkind, hmethod, hurl, hheaders, hbody, hmapping,
      hcode, hinputs, houtput, htimeout, hspeech, hwait, htransitions, rfl⟩
    exact ⟨hkind, hmethod, hurl, hheaders, hbody, hmapping, hcode, hinputs, houtput, htimeout,
      hspeech, hwait, htransitions⟩
  · intro h
    exact ⟨_, _, _, _, _, _, _, _, _, _, _, _, _, h.kind, h.method, h.url, h.headers, h.body,
      h.responseMapping, h.code, h.inputVariables, h.outputVariable, h.timeout, h.speech,
      h.waitForResult, h.transitions, rfl⟩

end FunctionConfig

end CallFlow
