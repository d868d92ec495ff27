import CallFlow.Proofs.Service.Isolation

namespace CallFlow.Service

/-- The id under which an event begins a test call. -/
def Event.begins? : Event → Option String
  | request id _ (.begin _) => some id
  | _ => none

theorem Event.id_of_begins? {e : Event} {id : String} (h : e.begins? = some id) : e.id = id := by
  match e with
  | request _ _ (.begin _) => exact Option.some.inj h

/-- The ids under which test calls are begun, in order. -/
def idsBegun (events : List Event) : List String := events.filterMap Event.begins?

/-- The answer of a closed call to what the caller says. -/
def refusal (s : Session) (waiting : Nat × String) : Response :=
  ⟨s.id, waiting.1, .closed (.inactive s.id s.status)⟩

/-- What can still become of a docket once its call is closed: no other turn begins. -/
structure Docket.Remains (d d' : Docket) : Prop where
  session : d'.session = d.session
  turn : ∀ turn' ∈ d'.turn, ∃ turn ∈ d.turn, turn'.1 = turn.1

/-- The replies that a closed call can still give. The result of a turn is only for the request
whose turn was under way when the call was closed. -/
inductive Docket.Allows (d : Docket) : Response → Prop where
  | result {ticket : Nat} {e : Errand} (h : d.turn = some (ticket, e)) (id : String)
      (result : TurnResult) : Allows d ⟨id, ticket, .progress d.session result⟩
  | call (id : String) (ticket : Nat) : Allows d ⟨id, ticket, .call d.session⟩
  | hungUp (id : String) (ticket : Nat) : Allows d ⟨id, ticket, .hungUp d.session⟩
  | unknown (id : String) (ticket : Nat) : Allows d ⟨id, ticket, .unknownCall⟩
  | refused (waiting : Nat × String) : Allows d (refusal d.session waiting)

/-- The docket of a closed call after an event, and the replies that it brings. -/
structure StaysClosed (id : String) (d : Docket) (o : Traffic × List Response) : Prop where
  docket : ∃ d', o.1.dockets id = some d' ∧ d.Remains d'
  responses : ∀ r ∈ o.2, d.Allows r

namespace Docket.Remains

variable {d d' d'' : Docket}

theorem refl (d : Docket) : d.Remains d := ⟨rfl, fun turn hturn => ⟨turn, hturn, rfl⟩⟩

/-- A docket remains when its turn is over. -/
theorem idle {s : Session} (h : s = d.session) (waiting : List (Nat × String)) :
    d.Remains ⟨s, none, waiting⟩ :=
  ⟨h, fun _ hturn => absurd hturn (Option.not_mem_none _)⟩

/-- What remains after what remains is what remains. -/
theorem trans (h : d.Remains d') (h' : d'.Remains d'') : d.Remains d'' := by
  refine ⟨h'.session.trans h.session, fun last hlast => ?_⟩
  obtain ⟨turn', hturn', hlast'⟩ := h'.turn last hlast
  obtain ⟨turn, hturn, hticket⟩ := h.turn turn' hturn'
  exact ⟨turn, hturn, hlast'.trans hticket⟩

/-- Responses allowed by what remains were allowed before. -/
theorem allows (h : d.Remains d') {r : Response} (hr : d'.Allows r) : d.Allows r := by
  cases hr with
  | result hturn' id result =>
    obtain ⟨turn, hturn, rfl⟩ := h.turn _ hturn'
    exact h.session ▸ .result hturn id result
  | call id ticket => exact h.session ▸ .call id ticket
  | hungUp id ticket => exact h.session ▸ .hungUp id ticket
  | unknown id ticket => exact .unknown id ticket
  | refused waiting => exact h.session ▸ .refused waiting

end Docket.Remains

section StaysClosed

variable {t : Traffic} {id : String} {d d' : Docket} (h : t.dockets id = some d')
  (hremains : d.Remains d')
include h hremains

/-- Where nothing happens, a closed call stays closed. -/
theorem staysClosed_silent : StaysClosed id d (t, []) :=
  ⟨⟨d', h, hremains⟩, fun _ hr => absurd hr List.not_mem_nil⟩

/-- A reply that is allowed leaves a closed call closed. -/
theorem staysClosed_reply {r : Response} (hr : d.Allows r) : StaysClosed id d (t, [r]) := by
  refine ⟨⟨d', h, hremains⟩, fun r' hr' => ?_⟩
  rwa [List.mem_singleton.1 hr']

end StaysClosed

namespace Traffic

variable {settings : Settings} {t t' u : Traffic} {id : String} {d : Docket} {s : Session}
  {e : Event}

/-- Any run keeps traffic sound. -/
theorem run_soundAt (events : List Event) (hsound : ∀ id, t.SoundAt settings id) :
    ∀ id, (t.run settings events).1.SoundAt settings id := by
  induction events generalizing t with
  | nil => exact hsound
  | cons e events ih => exact ih (step_soundAt e hsound)

/-- What keeps in every step that does not begin the call, and is not for another call to change,
keeps in every run. -/
theorem run_keeps {P : Traffic → Prop} {R : Response → Prop}
    (hframe : ∀ t u, SameFor settings id t u → P t → P u)
    (hstep : ∀ t e, e.id = id → e.begins? = none → t.SoundAt settings e.id → P t →
      P (t.step settings e).1 ∧ ∀ r ∈ (t.step settings e).2, R r)
    {events : List Event} (hbegun : id ∉ idsBegun events) (hsound : ∀ id, t.SoundAt settings id)
    (h : P t) : P (t.run settings events).1 ∧ ∀ r ∈ (t.run settings events).2, r.id = id → R r := by
  induction events generalizing t with
  | nil => exact ⟨h, fun r hr => absurd hr List.not_mem_nil⟩
  | cons e events ih =>
    have hlater : id ∉ idsBegun events := by
      intro hmem
      exact hbegun (((List.sublist_cons_self e events).filterMap _).subset hmem)
    rw [run_cons]
    by_cases hid : e.id = id
    · have hbegins : e.begins? = none := by
        refine Option.eq_none_iff_forall_ne_some.2 fun id' hbegins => hbegun ?_
        obtain rfl := hid.symm.trans (Event.id_of_begins? hbegins)
        exact List.mem_filterMap.2 ⟨e, List.mem_cons_self, hbegins⟩
      obtain ⟨hnext, hnow⟩ := hstep t e hid hbegins (hsound e.id) h
      obtain ⟨hlast, hothers⟩ := ih hlater (step_soundAt e hsound) hnext
      refine ⟨hlast, fun r hr hown => ?_⟩
      exact (List.mem_append.1 hr).elim (hnow r) fun hmem => hothers r hmem hown
    · have hsame := (step_change (hsound e.id)).sameFor (hsound e.id) (Ne.symm hid)
      obtain ⟨hlast, hothers⟩ := ih hlater (step_soundAt e hsound) (hframe _ _ hsame h)
      refine ⟨hlast, fun r hr hown => ?_⟩
      refine (List.mem_append.1 hr).elim (fun hmem => ?_) fun hmem => hothers r hmem hown
      exact absurd ((step_id t e r hmem).symm.trans hown) hid

section Removed

section Change

variable (h : Change settings t e t') (hbegins : e.begins? = none)
include h hbegins

/-- A step brings back no call that was removed. -/
theorem Change.stored_of_removed (hsound : t.SoundAt settings e.id)
    (hstored : t.store.get? e.id = none) : t'.store.get? e.id = none := by
  cases h with
  | same => exact hstored
  | begin => cases hbegins
  | queue hd waiting =>
    rename_i d
    have hid : ({ d with waiting } : Docket).session.id = e.id := (hsound.fits d hd).id
    rw [get?_put hid, hstored]
    rfl
  | go hd ticket waiting hstep hactive =>
    rw [get?_put (hstep.fits (hsound.fits _ hd)).id, hstored]
    rfl
  | reply hd ticket waiting hstep hbusy hsession hq =>
    rw [get?_put (hstep.fits (hsound.fits _ hd)).id]
    simp [replied, hstored]
  | remove hd =>
    rename_i d
    have hid : d.session.hangUp.id = e.id := d.session.id_hangUp.trans (hsound.fits _ hd).id
    rw [get?_put hid, SessionStore.get?_remove_self]
    rfl

/-- An event that begins no call makes no docket. -/
theorem Change.dockets_of_none (hd : t.dockets e.id = none) : t'.dockets e.id = none := by
  cases h with
  | same => exact hd
  | begin => cases hbegins
  | queue hd' => cases hd.symm.trans hd'
  | go hd' => cases hd.symm.trans hd'
  | reply hd' => cases hd.symm.trans hd'
  | remove hd' => cases hd.symm.trans hd'

end Change

variable {events : List Event} (hsound : ∀ id, t.SoundAt settings id)
include hsound

/-- A call that was removed stays away until one of its id is begun. -/
theorem run_stored_of_removed (hbegun : id ∉ idsBegun events)
    (hstored : t.store.get? id = none) : (t.run settings events).1.store.get? id = none := by
  refine (run_keeps (P := fun t => t.store.get? id = none) (R := fun _ => True)
    (fun t u hsame h => hsame.stored ▸ h) ?_ hbegun hsound hstored).1
  rintro t e rfl hbegins hsound h
  exact ⟨(step_change hsound).stored_of_removed hbegins hsound h, fun _ _ => trivial⟩

/-- Only a call that was begun is in hand. -/
theorem mem_idsBegun_of_docket (hnone : t.dockets id = none)
    (hd : (t.run settings events).1.dockets id = some d) : id ∈ idsBegun events := by
  by_contra hbegun
  have hkeeps : (t.run settings events).1.dockets id = none := by
    refine (run_keeps (P := fun t => t.dockets id = none) (R := fun _ => True)
      (fun t u hsame h => hsame.docket ▸ h) ?_ hbegun hsound hnone).1
    rintro t e rfl hbegins hsound h
    exact ⟨(step_change hsound).dockets_of_none hbegins h, fun _ _ => trivial⟩
  cases hd.symm.trans hkeeps

omit hsound

/-- Whatever is asked about a call that is not in the store, other than to begin it, is answered at
once and changes nothing. -/
theorem request_of_removed (hstored : t.store.get? id = none) (ticket : Nat) {ask : Ask}
    (hask : ∀ r, ask ≠ .begin r) :
    t.request settings id ticket ask = (t, [⟨id, ticket, .unknownCall⟩]) := by
  cases ask with
  | begin r => exact absurd rfl (hask r)
  | input text => simp [request, withDocket, hstored]
  | call => simp [request, withDocket, hstored]
  | hangUp => simp [request, withDocket, hstored]

end Removed

section Closed

section Session

variable (hclosed : s.isActive = false)
include hclosed

/-- A closed call stays as it is, whatever it is to receive. -/
theorem moment_of_closed (byCaller : Bool) (w : Walk) (left : Nat) (utterance : Option String) :
    Moment.proceed settings byCaller w left (s.receive settings utterance w) = ⟨s, none⟩ := by
  rw [Session.receive_of_closed hclosed, Session.proceed_of_closed hclosed]

/-- Input to a closed call is refused. -/
theorem takeUp_of_closed (hid : s.id = id) (hkept : ∀ s' ∈ t.store.get? id, s = s') (ticket : Nat)
    (text : String) (waiting : List (Nat × String)) :
    t.takeUp settings id ⟨s, none, waiting⟩ ticket text =
      ({ t with dockets := Function.update t.dockets id (some ⟨s, none, waiting⟩) },
        [refusal s (ticket, text)]) := by
  unfold takeUp
  rw [put_of_kept hkept, refusal, hid]
  simp [hclosed]

/-- A closed call refuses those that wait, one after the other, and nothing else changes. -/
theorem run_refuses {waiting : List (Nat × String)} (hid : s.id = id)
    (hkept : ∀ s' ∈ t.store.get? id, s = s') (hd : t.dockets id = some ⟨s, none, waiting⟩) :
    t.run settings (List.replicate waiting.length (.proceed id)) =
      ({ t with dockets := Function.update t.dockets id (some ⟨s, none, []⟩) },
        waiting.map (refusal s)) := by
  induction waiting generalizing t with
  | nil =>
    rw [← hd, Function.update_eq_self]
    rfl
  | cons w waiting ih =>
    let left : Traffic :=
      { t with dockets := Function.update t.dockets id (some ⟨s, none, waiting⟩) }
    have hstep : t.step settings (.proceed id) = (left, [refusal s w]) := by
      simp only [step, proceed, hd]
      exact takeUp_of_closed hclosed hid hkept w.1 w.2 waiting
    have hrest := ih (t := left) hkept (Function.update_self ..)
    rw [List.length_cons, List.replicate_succ, run_cons, hstep, hrest, Function.update_idem]
    rfl

/-- The turn under way goes on to its end, which changes a closed call no more. -/
theorem run_ends_turn {waiting : List (Nat × String)} (hkept : ∀ s' ∈ t.store.get? id, s = s')
    {ticket : Nat} {utterance : Option String} {byCaller : Bool} {left : Nat}
    {walk : Dialogue Walk}
    (hd : t.dockets id = some ⟨s, some (ticket, ⟨utterance, byCaller, left, walk⟩), waiting⟩) :
    ∃ n result, (t.run settings (List.replicate n (.proceed id))).2 =
        [⟨id, ticket, .progress s result⟩] ∧
      (t.run settings (List.replicate n (.proceed id))).1.store = t.store ∧
      (t.run settings (List.replicate n (.proceed id))).1.dockets id =
        some ⟨s, none, waiting⟩ := by
  induction walk generalizing t with
  | done w =>
    have hstep : t.step settings (.proceed id) =
        (t.put id ⟨s, none, waiting⟩, [⟨id, ticket, .progress s w.result⟩]) := by
      simp [step, proceed, hd, moment_of_closed hclosed, Docket.ofMoment]
    refine ⟨1, w.result, ?_⟩
    rw [List.replicate_one, run_cons, hstep, put_of_kept hkept]
    exact ⟨rfl, rfl, Function.update_self ..⟩
  | ask q next ih =>
    rcases hanswer : (t.world id).answer q with ⟨reply, script⟩
    let d : Docket := ⟨s, some (ticket, ⟨utterance, byCaller, left, next reply⟩), waiting⟩
    let heard : Traffic :=
      { t.replied id script with dockets := Function.update t.dockets id (some d) }
    have hstep : t.step settings (.proceed id) = (heard, []) := by
      have hput : (t.replied id script).put id d = heard := put_of_kept hkept
      simp [step, proceed, hd, hanswer, ← hput, d]
    obtain ⟨n, result, hn⟩ := ih reply (t := heard) hkept (Function.update_self ..)
    refine ⟨n + 1, result, ?_⟩
    rw [List.replicate_succ, run_cons, hstep]
    exact hn

end Session

section Docket

variable (hsound : t.SoundAt settings id) (hd : t.dockets id = some d)
  (hclosed : d.session.isActive = false)
include hsound hd

/-- The session that is stored is that of the docket. -/
theorem session_of_stored : ∀ s ∈ t.store.get? id, d.session = s := by
  intro s hs
  obtain ⟨_, hd', hsession, -⟩ := hsound.kept s hs
  cases hd.symm.trans hd'
  exact hsession

include hclosed

/-- Taking up an utterance leaves a closed call closed. -/
theorem takeUp_staysClosed (hidle : d.turn = none) (waiting : List (Nat × String)) (ticket : Nat)
    (text : String) : StaysClosed id d (t.takeUp settings id { d with waiting } ticket text) := by
  obtain ⟨s, turn, queue⟩ := d
  cases hidle
  rw [takeUp_of_closed hclosed (hsound.fits _ hd).id (session_of_stored hsound hd)]
  exact staysClosed_reply (Function.update_self ..) (.idle rfl waiting) (.refused _)

/-- A request that begins nothing leaves a closed call closed. -/
theorem request_staysClosed (ticket : Nat) {ask : Ask} (hask : ∀ r, ask ≠ .begin r) :
    StaysClosed id d (t.request settings id ticket ask) := by
  have hwith : ∀ next, StaysClosed id d (next d) →
      StaysClosed id d (t.withDocket id ticket next) := by
    intro next hnext
    unfold withDocket
    split
    · rwa [hd]
    · exact staysClosed_reply hd (.refl d) (.unknown id ticket)
  unfold request
  cases ask with
  | begin r => exact absurd rfl (hask r)
  | input text =>
    refine hwith _ ?_
    split
    · rename_i hidle
      simp only [Bool.and_eq_true, Option.isNone_iff_eq_none] at hidle
      exact takeUp_staysClosed hsound hd hclosed hidle.1 d.waiting ticket text
    · exact staysClosed_silent dockets_put ⟨rfl, fun turn hturn => ⟨turn, hturn, rfl⟩⟩
  | call => exact hwith _ (staysClosed_reply hd (.refl d) (.call id ticket))
  | hangUp =>
    have hsession : d.session.hangUp = d.session := Session.hangUp_of_closed hclosed
    refine hwith _ ?_
    simp only [hsession]
    exact staysClosed_reply dockets_put (.refl d) (.hungUp id ticket)

/-- Going on leaves a closed call closed. -/
theorem proceed_staysClosed : StaysClosed id d (t.proceed settings id) := by
  simp only [proceed, hd]
  obtain ⟨s, turn, waiting⟩ := d
  rcases turn with _ | ⟨ticket, utterance, byCaller, left, walk⟩
  · cases waiting with
    | nil => exact staysClosed_silent hd (.refl _)
    | cons next rest => exact takeUp_staysClosed hsound hd hclosed rfl rest next.1 next.2
  · cases walk with
    | done w =>
      simp only [moment_of_closed hclosed]
      exact staysClosed_reply dockets_put (.idle rfl waiting) (.result rfl id w.result)
    | ask q next =>
      refine staysClosed_silent dockets_put ⟨rfl, ?_⟩
      rintro _ ⟨⟩
      exact ⟨_, rfl, rfl⟩

end Docket

/-- However it goes on, the session of a closed call stays as it is, no other turn begins, and the
caller is not heard any more. -/
theorem run_staysClosed {events : List Event} (hbegun : id ∉ idsBegun events)
    (hsound : ∀ id, t.SoundAt settings id) (hd : t.dockets id = some d)
    (hclosed : d.session.isActive = false) :
    StaysClosed id d ((t.run settings events).1, ownResponses id (t.run settings events).2) := by
  have hstep : ∀ (t : Traffic) (e : Event), e.id = id → e.begins? = none →
      t.SoundAt settings e.id → (∃ d', t.dockets id = some d' ∧ d.Remains d') →
      (∃ d', (t.step settings e).1.dockets id = some d' ∧ d.Remains d') ∧
        ∀ r ∈ (t.step settings e).2, d.Allows r := by
    rintro t e rfl hbegins hsound ⟨d', hd', hremains⟩
    have hclosed' : d'.session.isActive = false := by rw [hremains.session, hclosed]
    have hstays : StaysClosed e.id d' (t.step settings e) := by
      cases e with
      | request id ticket ask =>
        refine request_staysClosed hsound hd' hclosed' ticket ?_
        rintro r rfl
        cases hbegins
      | proceed id => exact proceed_staysClosed hsound hd' hclosed'
    obtain ⟨⟨d'', hd'', hremains'⟩, hresponses⟩ := hstays
    exact ⟨⟨d'', hd'', hremains.trans hremains'⟩, fun r hr => hremains.allows (hresponses r hr)⟩
  obtain ⟨hdocket, hresponses⟩ := run_keeps (R := d.Allows)
    (P := fun t => ∃ d', t.dockets id = some d' ∧ d.Remains d')
    (fun t u hsame h => hsame.docket ▸ h) hstep hbegun hsound ⟨d, hd, .refl d⟩
  refine ⟨hdocket, fun r hr => ?_⟩
  obtain ⟨hmem, hown⟩ := List.mem_filter.1 hr
  exact hresponses r hmem (by simpa using hown)

end Closed

/-- What the caller says to a closed call is refused, after those that wait already, and nothing
else changes. -/
theorem run_input_of_closed (hsound : t.SoundAt settings id) (hd : t.dockets id = some d)
    (hclosed : d.session.isActive = false) (hkept : (t.store.get? id).isSome) (ticket : Nat)
    (text : String) :
    t.run settings (.request id ticket (.input text) ::
        List.replicate (d.waiting.length + 1) (.proceed id)) =
      ({ t with dockets := Function.update t.dockets id (some { d with waiting := [] }) },
        (d.waiting ++ [(ticket, text)]).map (refusal d.session)) := by
  have hid := (hsound.fits d hd).id
  have hshows := session_of_stored hsound hd
  obtain ⟨s, hs⟩ := Option.isSome_iff_exists.1 hkept
  obtain ⟨_, hd', rfl, hactive⟩ := hsound.kept s hs
  cases hd.symm.trans hd'
  obtain ⟨s, turn, waiting⟩ := d
  have hidle : turn = none := by
    cases turn with
    | none => rfl
    | some turn => cases hclosed.symm.trans (hactive rfl)
  subst hidle
  cases waiting with
  | nil =>
    let answered : Traffic :=
      { t with dockets := Function.update t.dockets id (some ⟨s, none, []⟩) }
    have hrefused : t.step settings (.request id ticket (.input text)) =
        (answered, [refusal s (ticket, text)]) := by
      simp [step, request, withDocket, hs, hd, takeUp_of_closed hclosed hid hshows, answered]
    have hrest : answered.step settings (.proceed id) = (answered, []) := by
      simp [step, proceed, answered]
    rw [run_cons, hrefused, List.length_nil, List.replicate_one, run_cons, hrest]
    rfl
  | cons w waiting =>
    let queue := w :: waiting ++ [(ticket, text)]
    let queued : Traffic :=
      { t with dockets := Function.update t.dockets id (some ⟨s, none, queue⟩) }
    have hqueued : t.step settings (.request id ticket (.input text)) = (queued, []) := by
      have hput : t.put id ⟨s, none, queue⟩ = queued := put_of_kept hshows
      simp [step, request, withDocket, hs, hd, ← hput, queue]
    have hrefused : queued.run settings (List.replicate queue.length (.proceed id)) =
        ({ t with dockets := Function.update t.dockets id (some ⟨s, none, []⟩) },
          queue.map (refusal s)) := by
      rw [run_refuses (t := queued) hclosed hid hshows (Function.update_self ..)]
      simp [queued]
    rw [show queue.length = (w :: waiting).length + 1 from List.length_append] at hrefused
    rw [run_cons, hqueued]
    exact hrefused

/-- In the end all requests that wait at a closed call are answered: the one whose turn is under way
with the result of that, which changes nothing any more, and the others with a refusal. -/
theorem run_settles (hsound : t.SoundAt settings id) (hd : t.dockets id = some d)
    (hclosed : d.session.isActive = false) :
    ∃ n result, (t.run settings (List.replicate n (.proceed id))).2 =
        (d.turn.map fun turn => ⟨id, turn.1, .progress d.session result⟩).toList ++
          d.waiting.map (refusal d.session) ∧
      (t.run settings (List.replicate n (.proceed id))).1.store = t.store ∧
      (t.run settings (List.replicate n (.proceed id))).1.dockets id =
        some ⟨d.session, none, []⟩ := by
  have hid := (hsound.fits d hd).id
  have hshows := session_of_stored hsound hd
  obtain ⟨s, turn, waiting⟩ := d
  cases turn with
  | none =>
    refine ⟨waiting.length, ⟨"", .finish, []⟩, ?_⟩
    rw [run_refuses hclosed hid hshows hd]
    exact ⟨rfl, rfl, Function.update_self ..⟩
  | some turn =>
    obtain ⟨ticket, utterance, byCaller, left, walk⟩ := turn
    obtain ⟨n, result, hends, hstore, hdocket⟩ :
        ∃ n result, (t.run settings (List.replicate n (.proceed id))).2 =
          [⟨id, ticket, .progress s result⟩] ∧ _ := run_ends_turn hclosed hshows hd
    have hrefuses : (t.run settings (List.replicate n (.proceed id))).1.run settings
        (List.replicate waiting.length (.proceed id)) = _ :=
      run_refuses hclosed hid (hstore ▸ hshows) hdocket
    refine ⟨n + waiting.length, result, ?_⟩
    rw [← List.replicate_append_replicate, run_append, hends, hrefuses]
    exact ⟨rfl, hstore, Function.update_self ..⟩

end Traffic

end CallFlow.Service
