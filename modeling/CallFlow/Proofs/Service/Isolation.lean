import CallFlow.Proofs.Dialogue.Client
import CallFlow.Proofs.Service.Course

namespace CallFlow

namespace Script

variable {s : ModelSettings} {a b c : Script} {q : Query}

/-- Two worlds with the same replies in store, each with a client to be had or neither. -/
structure Agree (s : ModelSettings) (a b : Script) : Prop where
  client : a.client.serves (Engine.clientSpec s) = b.client.serves (Engine.clientSpec s)
  model : a.model = b.model
  http : a.http = b.http
  code : a.code = b.code

namespace Agree

theorem refl (a : Script) : Agree s a a := ⟨rfl, rfl, rfl, rfl⟩

theorem symm (h : Agree s a b) : Agree s b a :=
  ⟨h.client.symm, h.model.symm, h.http.symm, h.code.symm⟩

theorem trans (h : Agree s a b) (h' : Agree s b c) : Agree s a c :=
  ⟨h.client.trans h'.client, h.model.trans h'.model, h.http.trans h'.http, h.code.trans h'.code⟩

end Agree

/-- A client is to be had after a query of a walk if one was to be had before. -/
theorem serves_answer (a : Script) (hq : q.OnWalk s) :
    (a.answer q).2.client.serves (Engine.clientSpec s) = a.client.serves (Engine.clientSpec s) := by
  cases q with
  | client spec =>
    cases hq
    cases hclient : a.client with
    | ready => simp [answer, hclient]
    | absent canBeMade =>
      by_cases hkey : (Engine.clientSpec s).apiKey = ""
      · simp [answer, hclient, hkey]
      · cases canBeMade <;> simp [answer, hclient, hkey, note, ClientState.serves]
  | _ => rfl

/-- Scripts that agree answer alike, and agree afterwards. -/
theorem Agree.answer (h : Agree s a b) (hq : q.OnWalk s) :
    (a.answer q).1 = (b.answer q).1 ∧ Agree s (a.answer q).2 (b.answer q).2 := by
  have hserves : (a.answer q).2.client.serves (Engine.clientSpec s) =
      (b.answer q).2.client.serves (Engine.clientSpec s) := by
    rw [a.serves_answer hq, b.serves_answer hq, h.client]
  cases q with
  | client spec =>
    cases hq
    obtain ⟨_, _, ha⟩ := a.exists_answer_client (Engine.clientSpec s)
    obtain ⟨_, _, hb⟩ := b.exists_answer_client (Engine.clientSpec s)
    refine ⟨by rw [answer_client, answer_client, h.client], hserves, ?_, ?_, ?_⟩
    · rw [ha, hb]; exact h.model
    · rw [ha, hb]; exact h.http
    · rw [ha, hb]; exact h.code
  | hungUp => cases hq
  | model r =>
    refine ⟨?_, hserves, ?_, h.http, h.code⟩ <;> simp only [answer, h.model]
  | http r =>
    refine ⟨?_, hserves, h.model, ?_, h.code⟩ <;> simp only [answer, h.http]
  | code job =>
    refine ⟨?_, hserves, h.model, h.http, ?_⟩ <;> simp only [answer, h.code]
  | sleep seconds => exact ⟨rfl, hserves, h.model, h.http, h.code⟩
  | kill => exact ⟨rfl, hserves, h.model, h.http, h.code⟩

end Script

namespace Service.Traffic

variable {settings : Settings} {t u v : Traffic} {id other : String} {d : Docket} {e : Event}

/-- Two traffics in which a test call finds the same: what is in hand for it, its session in the
store, and its world. -/
structure SameFor (settings : Settings) (id : String) (t u : Traffic) : Prop where
  docket : t.dockets id = u.dockets id
  stored : t.store.get? id = u.store.get? id
  world : (t.world id).Agree settings.model (u.world id)

namespace SameFor

theorem refl (t : Traffic) : SameFor settings id t t := ⟨rfl, rfl, .refl _⟩

theorem symm (h : SameFor settings id t u) : SameFor settings id u t :=
  ⟨h.docket.symm, h.stored.symm, h.world.symm⟩

theorem trans (h : SameFor settings id t u) (h' : SameFor settings id u v) :
    SameFor settings id t v :=
  ⟨h.docket.trans h'.docket, h.stored.trans h'.stored, h.world.trans h'.world⟩

/-- What is the same for a call is sound for it alike. -/
theorem soundAt (h : SameFor settings id t u) (hsound : t.SoundAt settings id) :
    u.SoundAt settings id := by
  refine ⟨?_, ?_⟩
  · rw [← h.docket]
    exact hsound.fits
  · rw [← h.docket, ← h.stored]
    exact hsound.kept

/-- To put the same docket makes no difference. -/
theorem put (h : SameFor settings id t u) (hid : d.session.id = id) :
    SameFor settings id (t.put id d) (u.put id d) where
  docket := by rw [dockets_put, dockets_put]
  stored := by rw [get?_put hid, get?_put hid, h.stored]
  world := h.world

/-- Saving the same session keeps traffic the same for a call. -/
theorem save (h : SameFor settings id t u) (session : Session) :
    SameFor settings id { t with store := t.store.save session }
      { u with store := u.store.save session } where
  docket := h.docket
  stored := by rw [SessionStore.get?_save, SessionStore.get?_save, h.stored]
  world := h.world

/-- Removing a call keeps traffic the same for it. -/
theorem remove (h : SameFor settings id t u) :
    SameFor settings id { t with store := t.store.remove id }
      { u with store := u.store.remove id } where
  docket := h.docket
  stored := by rw [SessionStore.get?_remove_self, SessionStore.get?_remove_self]
  world := h.world

/-- The same reply keeps traffic the same for a call. -/
theorem replied (h : SameFor settings id t u) {a b : Script} (hworld : a.Agree settings.model b) :
    SameFor settings id (t.replied id a) (u.replied id b) where
  docket := h.docket
  stored := h.stored
  world := by simpa [Traffic.world, Traffic.replied] using hworld

end SameFor

section Other

variable (h : other ≠ id)
include h

/-- Another call's docket does not concern a call. -/
theorem sameFor_put (hid : d.session.id = id) : SameFor settings other t (t.put id d) :=
  ⟨(dockets_put_of_ne h).symm, (get?_put_of_ne hid h).symm, .refl _⟩

theorem sameFor_save {session : Session} (hid : session.id = id) :
    SameFor settings other t { t with store := t.store.save session } :=
  ⟨rfl, (SessionStore.get?_save_of_ne (hid ▸ h.symm)).symm, .refl _⟩

theorem sameFor_remove : SameFor settings other t { t with store := t.store.remove id } :=
  ⟨rfl, (SessionStore.get?_remove_of_ne h.symm).symm, .refl _⟩

/-- A reply to another call does not concern a call. -/
theorem sameFor_replied {q : Query} (hq : q.OnWalk settings.model) :
    SameFor settings other t (t.replied id ((t.world id).answer q).2) := by
  have hworld : (t.replied id ((t.world id).answer q).2).world other =
      { t.world other with client := ((t.world id).answer q).2.client } := by
    simp [world, replied, h]
  refine ⟨rfl, rfl, ?_⟩
  rw [hworld]
  exact ⟨((t.world id).serves_answer hq).symm, rfl, rfl, rfl⟩

end Other

/-- A change of one test call makes no difference to another. -/
theorem Change.sameFor {t' : Traffic} (h : Change settings t e t')
    (hsound : t.SoundAt settings e.id) (hother : other ≠ e.id) : SameFor settings other t t' := by
  cases h with
  | same => exact .refl t
  | begin ticket r hid hm hactive =>
    exact (sameFor_save hother hid).trans (sameFor_put hother hm.id)
  | queue hd waiting => exact sameFor_put hother (hsound.fits _ hd).id
  | go hd ticket waiting hstep hactive =>
    exact sameFor_put hother (hstep.fits (hsound.fits _ hd)).id
  | reply hd ticket waiting hstep hbusy hsession hq =>
    exact (sameFor_replied hother hq).trans
      (sameFor_put hother (hstep.fits (hsound.fits _ hd)).id)
  | remove hd =>
    rename_i d
    have hid : d.session.hangUp.id = e.id := d.session.id_hangUp.trans (hsound.fits _ hd).id
    exact (sameFor_remove hother).trans (sameFor_put hother hid)

/-- A docket that fits keeps traffic sound. -/
theorem soundAt_put (hfits : d.moment.Fits settings id)
    (hactive : (t.store.get? id).isSome → d.turn.isSome → d.session.isActive) :
    (t.put id d).SoundAt settings id := by
  refine ⟨?_, ?_⟩
  · rw [dockets_put]
    rintro d' ⟨⟩
    exact hfits
  · rw [dockets_put, get?_put hfits.id]
    intro s hs
    obtain ⟨_, hkept, rfl⟩ := Option.map_eq_some_iff.1 hs
    exact ⟨d, rfl, rfl, hactive (hkept ▸ rfl)⟩

theorem soundAt_put_ofMoment {m : Moment} (hfits : m.Fits settings id)
    (hactive : (t.store.get? id).isSome → m.errand.isSome → m.session.isActive) (ticket : Nat)
    (waiting : List (Nat × String)) : (t.put id (.ofMoment ticket m waiting)).SoundAt settings id :=
  soundAt_put (by rwa [Docket.moment_ofMoment]) fun hkept hturn =>
    hactive hkept (by simpa [Docket.ofMoment] using hturn)

/-- A change keeps traffic sound for its call. -/
theorem Change.soundAt {t' : Traffic} (h : Change settings t e t')
    (hsound : t.SoundAt settings e.id) : t'.SoundAt settings e.id := by
  have hkept : ∀ d, t.dockets e.id = some d → (t.store.get? e.id).isSome → d.turn.isSome →
      d.session.isActive := by
    intro d hd hsome hturn
    obtain ⟨s, hs⟩ := Option.isSome_iff_exists.1 hsome
    obtain ⟨_, hd', rfl, hactive⟩ := hsound.kept s hs
    rw [hd] at hd'
    cases hd'
    exact hactive hturn
  cases h with
  | same => exact hsound
  | begin ticket r hid hm hactive => exact soundAt_put_ofMoment hm (fun _ _ => hactive) ticket []
  | queue hd waiting =>
    rename_i d
    exact soundAt_put (d := { d with waiting }) (hsound.fits d hd) (hkept d hd)
  | go hd ticket waiting hstep hactive =>
    exact soundAt_put_ofMoment (hstep.fits (hsound.fits _ hd)) (fun _ => hactive) ticket waiting
  | reply hd ticket waiting hstep hbusy hsession hq =>
    refine soundAt_put_ofMoment (hstep.fits (hsound.fits _ hd)) (fun hsome _ => ?_) ticket waiting
    rw [hsession]
    exact hkept _ hd hsome hbusy
  | remove hd =>
    rename_i d
    have hfits : Moment.Fits settings e.id ⟨d.session.hangUp, d.turn.map Prod.snd⟩ :=
      (Moment.Step.hangUp d.moment).fits (hsound.fits d hd)
    refine soundAt_put (d := { d with session := d.session.hangUp }) hfits fun hsome => ?_
    rw [SessionStore.get?_remove_self] at hsome
    cases hsome

/-- Whatever happens, what is in hand for each call keeps to its session. -/
theorem step_soundAt (e : Event) (hsound : ∀ id, t.SoundAt settings id) (id : String) :
    (t.step settings e).1.SoundAt settings id := by
  have hchange := step_change (hsound e.id)
  by_cases hid : id = e.id
  · exact hid ▸ hchange.soundAt (hsound e.id)
  · exact (hchange.sameFor (hsound e.id) hid).soundAt (hsound id)

/-- Two outcomes that a test call can not tell apart. -/
structure LikeFor (settings : Settings) (id : String) (o o' : Traffic × List Response) : Prop where
  traffic : SameFor settings id o.1 o'.1
  responses : o.2 = o'.2

section Own

variable (h : SameFor settings id t u)
include h

/-- An utterance is taken up alike in traffic that is the same for the call. -/
theorem takeUp_like (hid : d.session.id = id) (ticket : Nat) (text : String) :
    LikeFor settings id (t.takeUp settings id d ticket text)
      (u.takeUp settings id d ticket text) := by
  unfold takeUp
  split
  · exact ⟨h.put hid, rfl⟩
  · exact ⟨h.put hid, rfl⟩

/-- A docket is dealt with alike in traffic that is the same for the call. -/
theorem withDocket_like (hsound : t.SoundAt settings id) (ticket : Nat)
    {next next' : Docket → Traffic × List Response}
    (hnext : ∀ d, d.session.id = id → LikeFor settings id (next d) (next' d)) :
    LikeFor settings id (t.withDocket id ticket next) (u.withDocket id ticket next') := by
  unfold withDocket
  rw [← h.stored, ← h.docket]
  cases hstore : t.store.get? id with
  | none => exact ⟨h, rfl⟩
  | some s =>
    obtain ⟨d, hd, -⟩ := hsound.kept s hstore
    rw [hd]
    exact hnext d (hsound.fits d hd).id

/-- A request is dealt with alike in traffic that is the same for the call. -/
theorem request_like (hsound : t.SoundAt settings id) (ticket : Nat) (ask : Ask) :
    LikeFor settings id (t.request settings id ticket ask) (u.request settings id ticket ask) := by
  unfold request
  cases ask with
  | begin r =>
    dsimp only
    split
    · exact ⟨h, rfl⟩
    · exact ⟨(h.save _).put rfl, rfl⟩
  | input text =>
    refine withDocket_like h hsound ticket fun d hid => ?_
    split
    · exact takeUp_like h hid ticket text
    · exact ⟨h.put hid, rfl⟩
  | call => exact withDocket_like h hsound ticket fun d hid => ⟨h, rfl⟩
  | hangUp =>
    refine withDocket_like h hsound ticket fun d hid => ⟨h.remove.put ?_, rfl⟩
    exact d.session.id_hangUp.trans hid

/-- A turn goes on alike in traffic that is the same for the call. -/
theorem proceed_like (hsound : t.SoundAt settings id) :
    LikeFor settings id (t.proceed settings id) (u.proceed settings id) := by
  unfold proceed
  rw [← h.docket]
  split
  · exact ⟨h, rfl⟩
  · rename_i d hd
    have hfits := hsound.fits d hd
    obtain ⟨s, turn, waiting⟩ := d
    rcases turn with _ | ⟨ticket, utterance, byCaller, left, walk⟩
    · cases waiting with
      | nil => exact ⟨h, rfl⟩
      | cons next rest => exact takeUp_like h hfits.id next.1 next.2
    · cases walk with
      | done w =>
        refine ⟨h.put ?_, rfl⟩
        exact (Moment.id_proceed byCaller w left _).trans ((s.id_receive _ _ _).trans hfits.id)
      | ask q next =>
        cases hfits.asks _ rfl with
        | ask hq =>
          obtain ⟨hreply, hworld⟩ := h.world.answer hq
          dsimp only
          rw [← hreply]
          exact ⟨(h.replied hworld).put hfits.id, rfl⟩

end Own

/-- What happens to a test call depends on what it finds. -/
theorem step_like (h : SameFor settings e.id t u) (hsound : t.SoundAt settings e.id) :
    LikeFor settings e.id (t.step settings e) (u.step settings e) := by
  cases e with
  | request id ticket ask => exact request_like h hsound ticket ask
  | proceed id => exact proceed_like h hsound

/-- All responses are for the call in question. -/
theorem withDocket_id {ticket : Nat} {next : Docket → Traffic × List Response}
    (hnext : ∀ d, ∀ r ∈ (next d).2, r.id = id) :
    ∀ r ∈ (t.withDocket id ticket next).2, r.id = id := by
  unfold withDocket
  split
  · exact hnext _
  · simp

/-- The replies that an event brings are to requests about its test call. -/
theorem step_id (t : Traffic) (e : Event) : ∀ r ∈ (t.step settings e).2, r.id = e.id := by
  have htakeUp : ∀ d ticket text, ∀ r ∈ (t.takeUp settings e.id d ticket text).2, r.id = e.id := by
    intro d ticket text
    unfold takeUp
    split <;> simp
  cases e with
  | request id ticket ask =>
    cases ask with
    | begin r =>
      simp only [step, request]
      split <;> simp [Event.id]
    | input text =>
      refine withDocket_id fun d => ?_
      split
      · exact htakeUp d ticket text
      · simp
    | call => exact withDocket_id fun d => by simp
    | hangUp => exact withDocket_id fun d => by simp
  | proceed id =>
    simp only [step, proceed]
    split
    · simp
    · split
      · simp
      · exact htakeUp _ _ _
      · split
        · simp
        · dsimp only
          split <;> simp [Event.id]

/-- The events of one test call, in order. -/
def ownEvents (id : String) (events : List Event) : List Event := events.filter fun e => e.id = id

/-- The replies to requests about one test call, in order. -/
def ownResponses (id : String) (responses : List Response) : List Response :=
  responses.filter fun r => r.id = id

/-- The responses of a call are those to its own events. -/
theorem ownResponses_step (t : Traffic) (e : Event) (others : List Response) :
    ownResponses id ((t.step settings e).2 ++ others) =
      (if e.id = id then (t.step settings e).2 else []) ++ ownResponses id others := by
  rw [ownResponses, List.filter_append]
  congr 1
  split
  · rename_i hid
    exact List.filter_eq_self.2 fun r hr => by simp [step_id t e r hr, hid]
  · rename_i hid
    exact List.filter_eq_nil_iff.2 fun r hr => by simp [step_id t e r hr, hid]

/-- Among the events of any other test calls, those of one call have the replies that they have
alone, and leave the call as they leave it alone. -/
theorem run_own (events : List Event) (h : SameFor settings id t u)
    (hsound : ∀ id, t.SoundAt settings id) :
    ownResponses id (t.run settings events).2 = (u.run settings (ownEvents id events)).2 ∧
      SameFor settings id (t.run settings events).1 (u.run settings (ownEvents id events)).1 := by
  induction events generalizing t u with
  | nil => exact ⟨rfl, h⟩
  | cons e events ih =>
    have hafter := step_soundAt e hsound
    rw [run_cons, ownResponses_step]
    by_cases hid : e.id = id
    · subst hid
      obtain ⟨hsame, hresponses⟩ := step_like h (hsound e.id)
      obtain ⟨hothers, hlast⟩ := ih hsame hafter
      rw [ownEvents, List.filter_cons_of_pos (by simp), run_cons, if_pos rfl]
      exact ⟨congrArg₂ _ hresponses hothers, hlast⟩
    · have hframe := (step_change (hsound e.id)).sameFor (hsound e.id) (Ne.symm hid)
      obtain ⟨hothers, hlast⟩ := ih (hframe.symm.trans h) hafter
      rw [ownEvents, List.filter_cons_of_neg (by simpa using hid), if_neg hid]
      exact ⟨hothers, hlast⟩

end Service.Traffic

end CallFlow
