import CallFlow.Script

namespace CallFlow

/-- A request without its instructions. -/
def ModelRequest.unprompted (r : ModelRequest) : ModelRequest := { r with system := "" }

/-- An entry of the log without the instructions to a language model. All other entries stay. -/
def Call.unprompted : Call → Call
  | .model r => .model r.unprompted
  | c => c

/-- Whether a request was made by a function. -/
def Call.isFunction : Call → Bool
  | .http _ | .code _ _ _ => true
  | _ => false

/-- A script whose log leaves out the instructions to a language model. -/
def Script.unprompted (s : Script) : Script := { s with log := s.log.map Call.unprompted }

namespace Script

/-- The requests that functions made, in order. -/
def functionCalls (s : Script) : List Call := s.log.filter Call.isFunction

variable {s other : Script}

private theorem unprompted_eq_iff : s.unprompted = other.unprompted ↔
    s.client = other.client ∧ s.model = other.model ∧ s.http = other.http ∧
      s.code = other.code ∧ s.hungUp = other.hungUp ∧
      s.log.map Call.unprompted = other.log.map Call.unprompted := by
  simp [unprompted]

/-- Scripts that differ in prompts only saw the same function calls. -/
theorem functionCalls_congr (h : s.unprompted = other.unprompted) :
    s.functionCalls = other.functionCalls := by
  have hunprompted : ∀ log : List Call,
      (log.map Call.unprompted).filter Call.isFunction = log.filter Call.isFunction := by
    intro log
    induction log with
    | nil => rfl
    | cons c log ih =>
      rw [List.map_cons, List.filter_cons, List.filter_cons, ih]
      cases c <;> rfl
  have hlog := (unprompted_eq_iff.1 h).2.2.2.2.2
  rw [functionCalls, functionCalls, ← hunprompted s.log, hlog, hunprompted]

/-- Scripts that differ in logged instructions alone give the same reply, and so do they after
it. -/
theorem answer_congr (h : s.unprompted = other.unprompted) (q : Query) :
    (s.answer q).1 = (other.answer q).1 ∧
      (s.answer q).2.unprompted = (other.answer q).2.unprompted := by
  obtain ⟨hclient, hmodel, hhttp, hcode, hhungUp, hlog⟩ := unprompted_eq_iff.1 h
  cases q with
  | client spec =>
    simp only [answer, hclient]
    split
    · exact ⟨rfl, h⟩
    · split
      · exact ⟨rfl, h⟩
      · split <;> simp [unprompted, note, *]
  | _ => simp [answer, unprompted, note, *]

/-- A request to a language model is answered whatever its instructions are. -/
theorem answer_model_congr (h : s.unprompted = other.unprompted) {r r' : ModelRequest}
    (hr : r.unprompted = r'.unprompted) :
    (s.answer (.model r)).1 = (other.answer (.model r')).1 ∧
      (s.answer (.model r)).2.unprompted = (other.answer (.model r')).2.unprompted := by
  obtain ⟨hclient, hmodel, hhttp, hcode, hhungUp, hlog⟩ := unprompted_eq_iff.1 h
  simp [answer, unprompted, note, Call.unprompted, *]

end Script

namespace Dialogue

variable {α β γ δ : Type}

/-- Two dialogues ask the same queries in the same order, instructions to a language model apart,
and whatever the replies, their results are related. -/
inductive Alike (R : α → β → Prop) : Dialogue α → Dialogue β → Prop where
  | done {a : α} {b : β} (h : R a b) : Alike R (.done a) (.done b)
  | ask (q : Query) {next : q.Reply → Dialogue α} {next' : q.Reply → Dialogue β}
      (h : ∀ reply, Alike R (next reply) (next' reply)) : Alike R (.ask q next) (.ask q next')
  | prompt {r r' : ModelRequest} (hr : r.unprompted = r'.unprompted)
      {next : ModelReply → Dialogue α} {next' : ModelReply → Dialogue β}
      (h : ∀ reply, Alike R (next reply) (next' reply)) :
      Alike R (.ask (.model r) next) (.ask (.model r') next')

namespace Alike

variable {R : α → β → Prop} {S : γ → δ → Prop} {d : Dialogue α} {d' : Dialogue β}

theorem refl (d : Dialogue α) : Alike Eq d d := by
  induction d with
  | done a => exact .done rfl
  | ask q next ih => exact .ask q ih

/-- Dialogues that are alike are gone on with alike. -/
theorem bind (h : Alike R d d') {f : α → Dialogue γ} {g : β → Dialogue δ}
    (hf : ∀ a b, R a b → Alike S (f a) (g b)) : Alike S (d.bind f) (d'.bind g) := by
  induction h with
  | done hab => exact hf _ _ hab
  | ask q _ ih => exact .ask q ih
  | prompt hr _ ih => exact .prompt hr ih

/-- Goes on alike from the same result. -/
theorem bind_eq {d d' : Dialogue α} (h : Alike Eq d d') {f : α → Dialogue γ} {g : α → Dialogue δ}
    (hf : ∀ a, Alike S (f a) (g a)) : Alike S (d.bind f) (d'.bind g) :=
  h.bind fun a _ hab => hab ▸ hf a

/-- Against one script, or scripts that differ in logged instructions alone, dialogues that are
alike end in related results and leave such scripts behind. -/
theorem run (h : Alike R d d') {s s' : Script} (hs : s.unprompted = s'.unprompted) :
    R (d.run s).1 (d'.run s').1 ∧ (d.run s).2.unprompted = (d'.run s').2.unprompted := by
  induction h generalizing s s' with
  | done hab => exact ⟨hab, hs⟩
  | ask q _ ih =>
    obtain ⟨hreply, hnext⟩ := Script.answer_congr hs q
    rw [run_ask, run_ask, ← hreply]
    exact ih _ hnext
  | prompt hr _ ih =>
    obtain ⟨hreply, hnext⟩ := Script.answer_model_congr hs hr
    rw [run_ask, run_ask, ← hreply]
    exact ih _ hnext

end Alike

end Dialogue

end CallFlow
