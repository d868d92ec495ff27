import CallFlow.Proofs.Dialogue.Always
import CallFlow.Proofs.Dialogue.Transcript

namespace CallFlow

namespace Dialogue

variable {α β : Type} {P Q : List Exchange → α → Prop} {d : Dialogue α}

/-- However the dialogue goes, its exchanges and its result have a property. -/
def Ensures (P : List Exchange → α → Prop) (d : Dialogue α) : Prop :=
  ∀ es a, d.Transcript es a → P es a

/-- A dialogue that is done has exchanged nothing. -/
theorem ensures_done {a : α} (h : P [] a) : (done a).Ensures P := by
  intro es a' hes
  cases hes
  exact h

/-- What is ensured after a query is ensured with that exchange in front. -/
theorem ensures_ask {q : Query} {next : q.Reply → Dialogue α}
    (h : ∀ reply, (next reply).Ensures fun es a => P (⟨q, reply⟩ :: es) a) :
    (ask q next).Ensures P := by
  intro es a hes
  cases hes with
  | ask reply hnext => exact h reply _ _ hnext

namespace Ensures

theorem mono (h : d.Ensures P) (himp : ∀ es a, P es a → Q es a) : d.Ensures Q :=
  fun es a hes => himp es a (h es a hes)

/-- Goes on with what the first dialogue ensures; the exchanges of the second come after its own. -/
theorem bind {P : List Exchange → α → Prop} {Q : List Exchange → β → Prop} (h : d.Ensures P)
    {f : α → Dialogue β} (hf : ∀ es a, P es a → (f a).Ensures fun es' b => Q (es ++ es') b) :
    (d.bind f).Ensures Q := by
  intro es b hes
  obtain ⟨before, a, after, rfl, hbefore, hafter⟩ := hes.exists_of_bind
  exact hf before a (h before a hbefore) after b hafter

/-- Changes the result alone. -/
theorem map {Q : List Exchange → β → Prop} (h : d.Ensures P) {f : α → β}
    (hf : ∀ es a, P es a → Q es (f a)) : (d.bind fun a => .done (f a)).Ensures Q := by
  refine h.bind fun es a ha => ensures_done ?_
  rw [List.append_nil]
  exact hf es a ha

/-- What is ensured of the end alone always holds at it. -/
theorem always {P : α → Prop} (h : d.Ensures fun _ a => P a) : d.Always P := by
  induction d with
  | done a => exact h [] a (.done a)
  | ask q next ih => exact fun reply => ih reply fun es a hes => h _ a (.ask reply hes)

end Ensures

/-- What always holds at the end is ensured whatever was exchanged. -/
theorem Always.ensures {P : α → Prop} (h : d.Always P) : d.Ensures fun _ a => P a := by
  induction d with
  | done a => exact ensures_done h
  | ask q next ih => exact ensures_ask fun reply => ih reply (h reply)

end Dialogue

end CallFlow
