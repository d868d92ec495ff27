import CallFlow.Proofs.Service.Traffic

namespace CallFlow

open Relation

namespace Session

@[simp] theorem id_commit (engine : EngineSettings) (s : Session) (utterance : Option String)
    (r : TurnResult) : (s.commit engine utterance r).id = s.id := by
  unfold commit
  cases r.move.action <;> rfl

@[simp] theorem id_hangUp (s : Session) : s.hangUp.id = s.id := by
  unfold hangUp
  split <;> rfl

@[simp] theorem id_receive (settings : Settings) (s : Session) (utterance : Option String)
    (w : Walk) : (s.receive settings utterance w).id = s.id := by
  unfold receive
  split
  · exact id_commit _ _ _ _
  · rfl

@[simp] theorem id_conclude (s : Session) (byCaller : Bool) : (s.conclude byCaller).id = s.id := by
  unfold conclude limitTurns
  split
  · split
    · rfl
    · split <;> rfl
  · rfl

end Session

namespace Moment

variable {settings : Settings} {id : String} {m m' : Moment} {s : Session}

/-- The session of an id was begun, and the walk that is under way asks what a walk may ask. -/
structure Fits (settings : Settings) (id : String) (m : Moment) : Prop where
  id : m.session.id = id
  begun : m.session.status ≠ .pending
  asks : ∀ e ∈ m.errand, e.rest.AsksOnly (Query.OnWalk settings.model)

/-- A turn that begins fits its session. -/
theorem fits_begin (hid : s.id = id) (hbegun : s.status ≠ .pending) (utterance : Option String)
    (byCaller : Bool) (left : Nat) :
    (begin settings s utterance byCaller left).Fits settings id := by
  refine ⟨hid, hbegun, ?_⟩
  rintro e ⟨⟩
  exact (s.turn settings utterance).walk_asksOnly _ _ _

/-- Going on asks only what a walk asks. -/
theorem proceed_asks (byCaller : Bool) (w : Walk) (left : Nat) (s : Session) :
    ∀ e ∈ (proceed settings byCaller w left s).errand,
      e.rest.AsksOnly (Query.OnWalk settings.model) := by
  cases left with
  | zero => exact nofun
  | succ left =>
    unfold proceed
    dsimp only
    split
    · rintro e ⟨⟩
      exact (s.turn settings none).walk_asksOnly _ _ _
    · exact nofun

/-- Going on leaves a session its id. -/
theorem id_proceed (byCaller : Bool) (w : Walk) (left : Nat) (s : Session) :
    (proceed settings byCaller w left s).session.id = s.id := by
  cases left with
  | zero => exact s.id_conclude byCaller
  | succ left =>
    unfold proceed
    dsimp only
    split
    · rfl
    · exact s.id_conclude byCaller

/-- A turn goes on only in a call that does. -/
theorem isActive_of_proceed {byCaller : Bool} {w : Walk} {left : Nat}
    (h : (proceed settings byCaller w left s).errand.isSome) :
    (proceed settings byCaller w left s).session.isActive := by
  cases left with
  | zero => cases h
  | succ left =>
    unfold proceed at h ⊢
    dsimp only at h ⊢
    split
    · exact (Session.isSilentAdvance_iff.1 ‹_›).1.1
    · rename_i hsilent
      rw [if_neg hsilent] at h
      cases h

/-- Every step keeps a moment fit. -/
theorem Step.fits (h : Step settings m m') (hm : m.Fits settings id) : m'.Fits settings id := by
  have hbegun : m'.session.status ≠ .pending :=
    SessionStatus.ne_pending_of_moves (h.moves fun _ => hm.begun) hm.begun
  cases h with
  | @start s => exact fits_begin (s := { s with status := .active }) hm.id nofun none false _
  | @input s text =>
    exact fits_begin (s := { s with status := .active }) hm.id nofun (some text) true _
  | hangUp => exact ⟨m.session.id_hangUp.trans hm.id, hbegun, hm.asks⟩
  | reply s utterance byCaller left next r =>
    refine ⟨hm.id, hbegun, ?_⟩
    rintro e ⟨⟩
    cases hm.asks _ rfl with
    | ask _ hnext => exact hnext r
  | arrive s utterance byCaller left w =>
    refine ⟨?_, hbegun, proceed_asks byCaller w left _⟩
    rw [id_proceed, Session.id_receive]
    exact hm.id

end Moment

namespace Service.Traffic

/-- What is in hand for a test call fits, and the store shows nothing else. While a turn is under
way the call is active, unless it was removed. -/
structure SoundAt (settings : Settings) (t : Traffic) (id : String) : Prop where
  fits : ∀ d ∈ t.dockets id, d.moment.Fits settings id
  kept : ∀ s ∈ t.store.get? id, ∃ d ∈ t.dockets id, d.session = s ∧ (d.turn.isSome → s.isActive)

/-- What becomes of the traffic in a step. -/
inductive Change (settings : Settings) (t : Traffic) : Event → Traffic → Prop where
  | same (e : Event) : Change settings t e t
  | begin {id : String} (ticket : Nat) (r : CallRequest) {session : Session} {m : Moment}
      (hid : session.id = id) (hm : m.Fits settings id) (hactive : m.session.isActive) :
      Change settings t (.request id ticket (.begin r))
        ({ t with store := t.store.save session }.put id (.ofMoment ticket m []))
  | queue {e : Event} {d : Docket} (h : t.dockets e.id = some d) (waiting : List (Nat × String)) :
      Change settings t e (t.put e.id { d with waiting })
  | go {e : Event} {d : Docket} (h : t.dockets e.id = some d) (ticket : Nat)
      (waiting : List (Nat × String)) {m : Moment} (hstep : Moment.Step settings d.moment m)
      (hactive : m.errand.isSome → m.session.isActive) :
      Change settings t e (t.put e.id (.ofMoment ticket m waiting))
  | reply {e : Event} {d : Docket} (h : t.dockets e.id = some d) (ticket : Nat)
      (waiting : List (Nat × String)) {m : Moment} (hstep : Moment.Step settings d.moment m)
      (hbusy : d.turn.isSome) (hsession : m.session = d.session) {q : Query}
      (hq : q.OnWalk settings.model) :
      Change settings t e ((t.replied e.id ((t.world e.id).answer q).2).put e.id
        (.ofMoment ticket m waiting))
  | remove {e : Event} {d : Docket} (h : t.dockets e.id = some d) :
      Change settings t e ({ t with store := t.store.remove e.id }.put e.id
        { d with session := d.session.hangUp })

variable {settings : Settings} {t t' : Traffic} {id : String}

/-- Taking up an utterance touches one call only. -/
theorem takeUp_change {e : Event} {s : Session} {waiting : List (Nat × String)}
    (h : t.dockets e.id = some ⟨s, none, waiting⟩) (left : List (Nat × String)) (ticket : Nat)
    (text : String) :
    Change settings t e (t.takeUp settings e.id ⟨s, none, left⟩ ticket text).1 := by
  unfold takeUp
  split
  · rename_i hactive
    exact .go h ticket left (.input text hactive) fun _ => rfl
  · exact .queue h left

/-- What is done with a docket touches one call only. -/
theorem withDocket_change {e : Event} {ticket : Nat} {next : Docket → Traffic × List Response}
    (hsound : t.SoundAt settings e.id)
    (h : ∀ d, t.dockets e.id = some d → Change settings t e (next d).1) :
    Change settings t e (t.withDocket e.id ticket next).1 := by
  unfold withDocket
  cases hstore : t.store.get? e.id with
  | none => exact .same e
  | some s =>
    obtain ⟨d, hd, -⟩ := hsound.kept s hstore
    dsimp only
    rw [hd]
    exact h d hd

/-- A request touches one call only. -/
theorem request_change {ticket : Nat} {ask : Ask} (hsound : t.SoundAt settings id) :
    Change settings t (.request id ticket ask) (t.request settings id ticket ask).1 := by
  cases ask with
  | begin r =>
    unfold request
    dsimp only
    split
    · exact .same _
    · rename_i flow _
      let opened : Session := { Session.new id flow r.bindings with status := .active }
      have hfits : Moment.Fits settings id
          (.begin settings opened none false settings.engine.hops) :=
        Moment.fits_begin (s := opened) rfl nofun none false _
      exact .begin ticket r rfl hfits rfl
  | input text =>
    refine withDocket_change hsound fun d hd => ?_
    split
    · rename_i hidle
      obtain ⟨s, turn, waiting⟩ := d
      simp only [Bool.and_eq_true, Option.isNone_iff_eq_none] at hidle
      obtain ⟨rfl, -⟩ := hidle
      exact takeUp_change hd waiting ticket text
    · exact .queue hd _
  | call => exact withDocket_change hsound fun d _ => .same _
  | hangUp => exact withDocket_change hsound fun d hd => .remove hd

/-- Going on touches one call only. -/
theorem proceed_change (hsound : t.SoundAt settings id) :
    Change settings t (.proceed id) (t.proceed settings id).1 := by
  unfold proceed
  split
  · exact .same _
  · rename_i d hd
    obtain ⟨s, turn, waiting⟩ := d
    rcases turn with _ | ⟨ticket, utterance, byCaller, left, walk⟩
    · cases waiting with
      | nil => exact .same _
      | cons next rest => exact takeUp_change hd rest next.1 next.2
    · cases walk with
      | done w =>
        exact .go hd ticket waiting (.arrive s utterance byCaller left w)
          Moment.isActive_of_proceed
      | ask q next =>
        cases (hsound.fits _ hd).asks _ rfl with
        | ask hq =>
          have hstep : Moment.Step settings ⟨s, some ⟨utterance, byCaller, left, .ask q next⟩⟩
              ⟨s, some ⟨utterance, byCaller, left, next ((t.world id).answer q).1⟩⟩ := .reply ..
          exact .reply (e := .proceed id) hd ticket waiting hstep rfl rfl hq

/-- What becomes of the traffic in a step is one of these changes. -/
theorem step_change {e : Event} (hsound : t.SoundAt settings e.id) :
    Change settings t e (t.step settings e).1 := by
  cases e with
  | request id ticket ask => exact request_change hsound
  | proceed id => exact proceed_change hsound

end Service.Traffic

end CallFlow
