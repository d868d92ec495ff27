import CallFlow.Script

namespace CallFlow

/-- A query and the reply to it. -/
structure Exchange where
  query : Query
  reply : query.Reply

/-- The reply of a language model, if one was asked. -/
def Exchange.modelReply? : Exchange → Option ModelReply
  | ⟨.model _, reply⟩ => some reply
  | _ => none

/-- The replies of language models, one for each request. -/
def modelReplies (es : List Exchange) : List ModelReply := es.filterMap Exchange.modelReply?

namespace Dialogue

variable {α β : Type}

/-- The dialogue comes to a result by way of some exchanges. -/
inductive Transcript : Dialogue α → List Exchange → α → Prop where
  | done (a : α) : Transcript (.done a) [] a
  | ask {q : Query} {next : q.Reply → Dialogue α} (reply : q.Reply) {es : List Exchange} {a : α}
      (h : Transcript (next reply) es a) : Transcript (.ask q next) (⟨q, reply⟩ :: es) a

/-- A transcript of a dialogue that goes on is in two parts. -/
theorem Transcript.exists_of_bind {d : Dialogue α} {f : α → Dialogue β} {es : List Exchange} {b : β}
    (h : (d.bind f).Transcript es b) :
    ∃ before a after, es = before ++ after ∧ d.Transcript before a ∧ (f a).Transcript after b := by
  induction d generalizing es with
  | done a => exact ⟨[], a, es, rfl, .done a, h⟩
  | ask q next ih =>
    cases h with
    | ask reply h =>
      obtain ⟨before, a, after, rfl, hbefore, hafter⟩ := ih reply h
      exact ⟨⟨q, reply⟩ :: before, a, after, rfl, .ask reply hbefore, hafter⟩

/-- A dialogue comes to its result in any world. -/
theorem exists_transcript_run (d : Dialogue α) (s : Script) :
    ∃ es, d.Transcript es (d.run s).1 := by
  induction d generalizing s with
  | done a => exact ⟨[], .done a⟩
  | ask q next ih =>
    obtain ⟨es, hes⟩ := ih (s.answer q).1 (s.answer q).2
    exact ⟨⟨q, (s.answer q).1⟩ :: es, .ask _ hes⟩

end Dialogue

end CallFlow
