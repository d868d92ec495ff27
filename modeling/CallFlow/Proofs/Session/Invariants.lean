import CallFlow.Proofs.Session.Log

namespace CallFlow

/-- Sessions of a flow that remember what has the property `P` go on walks that come to what has the
property `Q`, and when that is committed `P` is kept. -/
structure Session.Maintains (settings : Settings) (flow : Flow) (P : Session.Memory → Prop)
    (Q : Walk → Prop) : Prop where
  walk : ∀ (s : Session) utterance, s.flow = flow → P s.memory →
    (s.walk settings utterance).Always Q
  commit : ∀ (s : Session) utterance w, P s.memory → Q w →
    P (s.commit settings.engine utterance w.result).memory

namespace Moment

/-- The session is one of the flow and remembers what has the property `P`, and the walk that is
under way comes to what has the property `Q`. -/
structure Keeps (flow : Flow) (P : Session.Memory → Prop) (Q : Walk → Prop) (m : Moment) :
    Prop where
  flow : m.session.flow = flow
  memory : P m.session.memory
  walk : ∀ e ∈ m.errand, e.rest.Always Q

variable {settings : Settings} {flow : Flow} {P : Session.Memory → Prop} {Q : Walk → Prop}
  {m m' : Moment} {s : Session}

section

variable (h : Session.Maintains settings flow P Q)
include h

/-- A turn that begins keeps what is kept. -/
theorem keeps_begin (hflow : s.flow = flow) (hmemory : P s.memory) (utterance : Option String)
    (byCaller : Bool) (left : Nat) : (begin settings s utterance byCaller left).Keeps flow P Q := by
  refine ⟨hflow, hmemory, ?_⟩
  rintro e ⟨⟩
  exact h.walk s utterance hflow hmemory

/-- Going on keeps what is kept. -/
theorem keeps_proceed (hflow : s.flow = flow) (hmemory : P s.memory) (byCaller : Bool) (w : Walk)
    (left : Nat) : (proceed settings byCaller w left s).Keeps flow P Q := by
  have hidle : (⟨s.conclude byCaller, none⟩ : Moment).Keeps flow P Q :=
    ⟨(s.flow_conclude byCaller).trans hflow, (s.memory_conclude byCaller).symm ▸ hmemory, nofun⟩
  cases left with
  | zero => exact hidle
  | succ left =>
    unfold proceed
    dsimp only
    split
    · exact keeps_begin h hflow hmemory none byCaller left
    · exact hidle

/-- Every step keeps what walks maintain. -/
theorem Step.keeps (hstep : Step settings m m') (hm : m.Keeps flow P Q) : m'.Keeps flow P Q := by
  obtain ⟨hflow, hmemory, hwalk⟩ := hm
  cases hstep with
  | @start s =>
    exact keeps_begin (s := { s with status := .active }) h hflow hmemory none false _
  | @input s text =>
    exact keeps_begin (s := { s with status := .active }) h hflow hmemory (some text) true _
  | hangUp =>
    exact ⟨m.session.flow_hangUp.trans hflow, m.session.memory_hangUp.symm ▸ hmemory, hwalk⟩
  | reply s utterance byCaller left next r =>
    refine ⟨hflow, hmemory, ?_⟩
    rintro e ⟨⟩
    exact hwalk _ rfl r
  | arrive s utterance byCaller left w =>
    have hw : Q w := hwalk _ rfl
    unfold Session.receive
    split
    · exact keeps_proceed h ((s.flow_commit _ _ _).trans hflow)
        (h.commit s utterance w hmemory hw) byCaller w left
    · exact keeps_proceed h hflow hmemory byCaller w left

theorem Run.keeps (hrun : Run settings m m') (hm : m.Keeps flow P Q) : m'.Keeps flow P Q := by
  induction hrun with
  | refl => exact hm
  | tail _ hstep ih => exact hstep.keeps h ih

/-- What a session of a flow remembers to begin with is kept as long as the call lasts. -/
theorem Run.keeps_of_new {id : String} {bindings : Bindings}
    (hrun : Run settings ⟨Session.new id flow bindings, none⟩ m)
    (hnew : P (Session.new id flow bindings).memory) : m.Keeps flow P Q :=
  hrun.keeps h ⟨rfl, hnew, nofun⟩

end

end Moment

end CallFlow
