import CallFlow.Proofs.Dialogue.Ensures

namespace CallFlow

/-- A dialogue whose result comes with the notes that were taken on the way, in order. -/
structure Noted (ν α : Type) where
  dialogue : Dialogue (α × List ν)

namespace Noted

variable {ν α β : Type}

instance : Monad (Noted ν) where
  pure a := ⟨.done (a, [])⟩
  bind d f := ⟨d.dialogue.bind fun o =>
    (f o.1).dialogue.bind fun o' => .done (o'.1, o.2 ++ o'.2)⟩

/-- A dialogue without notes. -/
instance : MonadLift Dialogue (Noted ν) where
  monadLift d := ⟨d.bind fun a => .done (a, [])⟩

/-- The dialogue with the notes left out. -/
def erase (d : Noted ν α) : Dialogue α := d.dialogue.bind fun o => .done o.1

@[simp] theorem erase_pure (a : α) : (pure a : Noted ν α).erase = .done a := rfl

/-- Notes are forgotten step by step. -/
@[simp] theorem erase_bind (d : Noted ν α) (f : α → Noted ν β) :
    (d >>= f).erase = d.erase.bind fun a => (f a).erase := by
  simp only [erase, bind, Dialogue.bind_assoc, Dialogue.done_bind]

@[simp] theorem erase_lift (d : Dialogue α) : (liftM d : Noted ν α).erase = d := by
  simp only [liftM, monadLift, MonadLift.monadLift, erase, Dialogue.bind_assoc,
    Dialogue.done_bind, Dialogue.bind_done]

@[simp] theorem dialogue_pure (a : α) : (pure a : Noted ν α).dialogue = .done (a, []) := rfl

/-- Notes are taken one after the other. -/
@[simp] theorem dialogue_bind (d : Noted ν α) (f : α → Noted ν β) :
    (d >>= f).dialogue = d.dialogue.bind fun o =>
      (f o.1).dialogue.bind fun o' => .done (o'.1, o.2 ++ o'.2) := rfl

@[simp] theorem dialogue_lift (d : Dialogue α) :
    (liftM d : Noted ν α).dialogue = d.bind fun a => .done (a, []) := rfl

/-- Forgetting the notes leaves what was exchanged. -/
theorem transcript_erase {d : Noted ν α} {es : List Exchange} {o : α × List ν}
    (h : d.dialogue.Transcript es o) : d.erase.Transcript es o.1 := by
  obtain ⟨dialogue⟩ := d
  change (dialogue.bind _).Transcript es o.1
  change dialogue.Transcript es o at h
  induction h with
  | done o => exact .done o.1
  | ask reply _ ih => exact .ask reply ih

/-- What the dialogue without notes ensures is so as well when they are kept. -/
theorem ensures_of_erase {P : List Exchange → α → Prop} {d : Noted ν α} (h : d.erase.Ensures P) :
    d.dialogue.Ensures fun es o => P es o.1 :=
  fun es o hes => h es o.1 (transcript_erase hes)

end Noted

end CallFlow
