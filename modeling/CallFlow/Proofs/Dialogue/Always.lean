import CallFlow.Script

namespace CallFlow

namespace Dialogue

variable {α β : Type} {P Q : α → Prop} {d : Dialogue α}

/-- The dialogue ends in a result with a property, whatever the replies. -/
def Always (P : α → Prop) : Dialogue α → Prop
  | done a => P a
  | ask _ next => ∀ reply, (next reply).Always P

@[simp] theorem always_done {a : α} : (done a).Always P ↔ P a := Iff.rfl

@[simp] theorem always_ask {q : Query} {next : q.Reply → Dialogue α} :
    (ask q next).Always P ↔ ∀ reply, (next reply).Always P := Iff.rfl

/-- A dialogue that goes on always ends well if what it goes on with does. -/
@[simp] theorem always_bind {P : β → Prop} {f : α → Dialogue β} :
    (d.bind f).Always P ↔ d.Always fun a => (f a).Always P := by
  induction d with
  | done a => rfl
  | ask q next ih => exact forall_congr' ih

namespace Always

/-- What holds of everything holds at every end. -/
theorem of_forall (h : ∀ a, P a) : d.Always P := by
  induction d with
  | done a => exact h a
  | ask q next ih => exact ih

theorem mono (h : d.Always P) (himp : ∀ a, P a → Q a) : d.Always Q := by
  induction d with
  | done a => exact himp a h
  | ask q next ih => exact fun reply => ih reply (h reply)

theorem and (hP : d.Always P) (hQ : d.Always Q) : d.Always fun a => P a ∧ Q a := by
  induction d with
  | done a => exact ⟨hP, hQ⟩
  | ask q next ih => exact fun reply => ih reply (hP reply) (hQ reply)

/-- Goes on with what the first dialogue guarantees. -/
theorem bind {P : α → Prop} {Q : β → Prop} (h : d.Always P) {f : α → Dialogue β}
    (hf : ∀ a, P a → (f a).Always Q) : (d.bind f).Always Q :=
  always_bind.2 (h.mono hf)

/-- It is enough to go on alike from the results that the first dialogue can have. -/
theorem bind_congr (h : d.Always P) {f g : α → Dialogue β} (hfg : ∀ a, P a → f a = g a) :
    d.bind f = d.bind g := by
  induction d with
  | done a => exact hfg a h
  | ask q next ih => exact congrArg (ask q) (funext fun reply => ih reply (h reply))

/-- What always holds at the end holds of every run. -/
theorem run (h : d.Always P) (s : Script) : P (d.run s).1 := by
  induction d generalizing s with
  | done a => exact h
  | ask q next ih =>
    rw [run_ask]
    exact ih _ (h _) _

end Always

/-- The dialogue can end in a result with a property, for some replies. -/
def Sometimes (P : α → Prop) : Dialogue α → Prop
  | done a => P a
  | ask _ next => ∃ reply, (next reply).Sometimes P

/-- A dialogue that goes on may end in some way if it may first come to something that does. -/
theorem sometimes_bind {P : β → Prop} {f : α → Dialogue β} :
    (d.bind f).Sometimes P ↔ d.Sometimes fun a => (f a).Sometimes P := by
  induction d with
  | done a => rfl
  | ask q next ih => exact exists_congr ih

theorem Sometimes.mono (h : d.Sometimes P) (himp : ∀ a, P a → Q a) : d.Sometimes Q := by
  induction d with
  | done a => exact himp a h
  | ask q next ih =>
    obtain ⟨reply, hreply⟩ := h
    exact ⟨reply, ih reply hreply⟩

/-- A possible end has whatever every end has. -/
theorem Always.exists_of_sometimes (h : d.Always P) (hsome : d.Sometimes Q) : ∃ a, P a ∧ Q a := by
  induction d with
  | done a => exact ⟨a, h, hsome⟩
  | ask q next ih =>
    obtain ⟨reply, hreply⟩ := hsome
    exact ih reply (h reply) hreply

end Dialogue

end CallFlow
