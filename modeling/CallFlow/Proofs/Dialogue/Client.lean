import CallFlow.Script

namespace CallFlow

/-- Whether there is a client, or one can be made. -/
def ClientState.serves : ClientState → ClientSpec → Bool
  | ready, _ => true
  | absent canBeMade, spec => spec.apiKey ≠ "" && canBeMade

namespace Script

variable (s : Script) (spec : ClientSpec)

/-- There is a client if one is there, or can be made from what is asked for. -/
theorem answer_client : (s.answer (.client spec)).1 = s.client.serves spec := by
  cases hclient : s.client with
  | ready => simp [answer, hclient, ClientState.serves]
  | absent canBeMade =>
    by_cases hkey : spec.apiKey = ""
    · simp [answer, hclient, ClientState.serves, hkey]
    · cases canBeMade <;> simp [answer, hclient, ClientState.serves, hkey]

/-- Making a client takes none of the replies that are in store. -/
theorem exists_answer_client :
    ∃ client log, (s.answer (.client spec)).2 = { s with client, log } := by
  obtain ⟨client, model, http, code, hungUp, log⟩ := s
  cases client with
  | ready => exact ⟨.ready, log, rfl⟩
  | absent canBeMade =>
    by_cases hkey : spec.apiKey = ""
    · exact ⟨.absent canBeMade, log, by simp [answer, hkey]⟩
    · cases canBeMade with
      | true => exact ⟨.ready, log ++ [.client spec], by simp [answer, hkey, note]⟩
      | false => exact ⟨.absent false, log ++ [.client spec], by simp [answer, hkey, note]⟩

/-- Asking for a client uses up no reply of the model. -/
theorem model_answer_client : (s.answer (.client spec)).2.model = s.model := by
  obtain ⟨client, log, h⟩ := s.exists_answer_client spec
  rw [h]

end Script

end CallFlow
