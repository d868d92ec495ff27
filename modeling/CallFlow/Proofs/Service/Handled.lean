import CallFlow.Proofs.Dialogue.Client
import CallFlow.Proofs.Service.Course
import CallFlow.Proofs.Session.Silence

namespace CallFlow

/-- In the world of a script the caller never hangs up. -/
structure Script.Steady (s : Script) : Prop where
  present : s.hungUp = false
  model : ∀ cue ∈ s.model, cue.hangsUp = false
  http : ∀ cue ∈ s.http, cue.hangsUp = false
  code : ∀ cue ∈ s.code, cue.hangsUp = false

namespace Script

instance (s : Script) : Decidable s.Steady :=
  decidable_of_iff (s.hungUp = false ∧ (s.model.all fun cue => !cue.hangsUp) = true ∧
      (s.http.all fun cue => !cue.hangsUp) = true ∧ (s.code.all fun cue => !cue.hangsUp) = true) (by
    simp only [List.all_eq_true, Bool.not_eq_true']
    exact ⟨fun ⟨h, hmodel, hhttp, hcode⟩ => ⟨h, hmodel, hhttp, hcode⟩,
      fun h => ⟨h.present, h.model, h.http, h.code⟩⟩)

variable {s : Script}

/-- A queue in which nobody hangs up stays one. -/
theorem next_steady {ρ : Type} {queue : List (Cue ρ)} (h : ∀ cue ∈ queue, cue.hangsUp = false)
    (failure : ρ) : (next queue failure).1.hangsUp = false ∧
      ∀ cue ∈ (next queue failure).2, cue.hangsUp = false := by
  cases queue with
  | nil => exact ⟨rfl, nofun⟩
  | cons cue rest => exact ⟨h cue List.mem_cons_self, fun c hc => h c (List.mem_cons_of_mem _ hc)⟩

/-- Answering leaves a steady script steady. -/
theorem Steady.answer (h : s.Steady) (q : Query) : (s.answer q).2.Steady := by
  obtain ⟨hpresent, hmodel, hhttp, hcode⟩ := h
  cases q with
  | client spec =>
    obtain ⟨client, log, hsame⟩ := s.exists_answer_client spec
    rw [hsame]
    exact ⟨hpresent, hmodel, hhttp, hcode⟩
  | model r =>
    obtain ⟨hnow, hlater⟩ := next_steady hmodel (.failed exhausted)
    exact ⟨by simp [Script.answer, hnow, hpresent], hlater, hhttp, hcode⟩
  | http r =>
    obtain ⟨hnow, hlater⟩ := next_steady hhttp (.failed exhausted)
    exact ⟨by simp [Script.answer, hnow, hpresent], hmodel, hlater, hcode⟩
  | code job =>
    obtain ⟨hnow, hlater⟩ := next_steady hcode ⟨{}, .unstarted exhausted⟩
    exact ⟨by simp [Script.answer, hnow, hpresent], hmodel, hhttp, hlater⟩
  | sleep seconds => exact ⟨hpresent, hmodel, hhttp, hcode⟩
  | kill => exact ⟨hpresent, hmodel, hhttp, hcode⟩
  | hungUp => exact ⟨rfl, hmodel, hhttp, hcode⟩

/-- Nobody hangs up in a steady script. -/
theorem Steady.answer_hungUp (h : s.Steady) : s.answer .hungUp = (false, s) := by
  have hpresent := h.present
  simp only [Script.answer, hpresent]
  rw [← hpresent]

end Script

namespace Session

variable (settings : Settings)

/-- What a turn comes to after a walk. -/
def outcome (s : Session) (byCaller : Bool) (left : Nat) (w : Walk) :
    Dialogue (TurnResult × Session) :=
  (followUp settings left (w, s)).bind fun o => .done (o.1.result, o.2.conclude byCaller)

/-- What a turn comes to while a walk is under way. -/
def remainder (s : Session) (e : Errand) : Dialogue (TurnResult × Session) :=
  e.rest.bind fun w => (Dialogue.query .hungUp).bind fun gone =>
    ((if gone then s.hangUp else s).receive settings e.utterance w).outcome settings e.byCaller
      e.left w

variable {settings}

/-- After a silent result the session takes another turn. -/
theorem outcome_of_silent {s : Session} {w : Walk} (h : s.isSilentAdvance w.result = true)
    (byCaller : Bool) (left : Nat) :
    s.outcome settings byCaller (left + 1) w =
      remainder settings s ⟨none, byCaller, left, s.walk settings none⟩ := by
  simp [outcome, remainder, followUp, h, execute_eq, Dialogue.bind_assoc, Dialogue.query,
    Passage.result_after]

/-- A result that is not silent is the outcome. -/
theorem outcome_of_not_silent {s : Session} {w : Walk} (h : ¬ s.isSilentAdvance w.result)
    (byCaller : Bool) (left : Nat) :
    s.outcome settings byCaller (left + 1) w = .done (w.result, s.conclude byCaller) := by
  simp [outcome, followUp, h]
  rfl

/-- The caller is still there at the end of a walk. -/
theorem run_remainder_done {script : Script} (hsteady : script.Steady) (s : Session)
    (utterance : Option String) (byCaller : Bool) (left : Nat) (w : Walk) :
    (s.remainder settings ⟨utterance, byCaller, left, .done w⟩).run script =
      ((s.receive settings utterance w).outcome settings byCaller left w).run script := by
  simp [remainder, hsteady.answer_hungUp, Dialogue.query]

/-- A call that is begun comes to what its first walk leads to. -/
theorem run_start {s : Session} (h : s.status = .pending) (script : Script) :
    let opened : Session := { s with status := .active }
    let out := (remainder settings opened
      ⟨none, false, settings.engine.hops, opened.walk settings none⟩).run script
    ∃ p : Passage, (s.start settings).run script = ((.ok p, out.1.2), out.2) ∧
      p.result = out.1.1 := by
  intro opened out
  refine ⟨((opened.advance settings none).run script).1.1, ?_, ?_⟩
  · simp [start, h, advance, execute_eq, out, remainder, outcome, opened, conclude]
  · simp [advance, execute_eq, out, remainder, outcome]

/-- A turn that is played by a script ends in its outcome. -/
theorem run_input {s : Session} (h : s.isActive) (text : String) (script : Script) :
    let opened : Session := { s with status := .active }
    let out := (remainder settings opened
      ⟨some text, true, settings.engine.hops, opened.walk settings (some text)⟩).run script
    ∃ p : Passage, (s.input settings text).run script = ((.ok p, out.1.2), out.2) ∧
      p.result = out.1.1 := by
  intro opened out
  refine ⟨((opened.advance settings (some text)).run script).1.1, ?_, ?_⟩
  · simp [input, h, advance, execute_eq, out, remainder, outcome, opened, conclude]
  · simp [advance, execute_eq, out, remainder, outcome]

end Session

namespace Service.Traffic

variable {settings : Settings} {t u : Traffic} {id : String} {ticket : Nat} {s : Session}

/-- Let go on, a call gives the reply and leaves the session that a dialogue comes to by itself. -/
def PlaysOut (settings : Settings) (t : Traffic) (id : String) (ticket : Nat)
    (d : Dialogue (TurnResult × Session)) : Prop :=
  let out := d.run (t.world id)
  out.1.2.id = id ∧ ∃ n, let last := t.run settings (List.replicate n (.proceed id))
    last.2 = [⟨id, ticket, .progress out.1.2 out.1.1⟩] ∧
      last.1.store = t.store.save out.1.2 ∧ last.1.world id = out.2

/-- A turn plays out if it does after a step. -/
theorem PlaysOut.step {d d' : Dialogue (TurnResult × Session)}
    (hstep : t.step settings (.proceed id) = (u, []))
    (hrun : d.run (t.world id) = d'.run (u.world id))
    (hstore : ∀ s : Session, s.id = id → u.store.save s = t.store.save s)
    (h : PlaysOut settings u id ticket d') : PlaysOut settings t id ticket d := by
  obtain ⟨hid, n, hlast⟩ := h
  rw [PlaysOut, hrun]
  refine ⟨hid, n + 1, ?_⟩
  rw [List.replicate_succ, run_cons, hstep]
  rw [hstore _ hid] at hlast
  exact hlast

/-- Saving a session replaces that of its docket. -/
theorem save_put {d : Docket} (hid : d.session.id = id) (s : Session) (hs : s.id = id) :
    (t.put id d).store.save s = t.store.save s := by
  unfold put
  dsimp only
  split
  · exact SessionStore.save_save (hid.trans hs.symm)
  · rfl

theorem isSome_get?_put {d : Docket} (hid : d.session.id = id) (h : (t.store.get? id).isSome) :
    ((t.put id d).store.get? id).isSome := by
  rwa [get?_put hid, Option.isSome_map]

/-- A turn is played out if it is so from the end of the walk under way. -/
theorem playsOut_of_done {byCaller : Bool} {left : Nat}
    (hdone : ∀ (t : Traffic) (s : Session) utterance w,
      t.dockets id = some ⟨s, some (ticket, ⟨utterance, byCaller, left, .done w⟩), []⟩ → s.id = id →
      (t.store.get? id).isSome → (t.world id).Steady →
      PlaysOut settings t id ticket (s.remainder settings ⟨utterance, byCaller, left, .done w⟩))
    (utterance : Option String) (walk : Dialogue Walk)
    (hd : t.dockets id = some ⟨s, some (ticket, ⟨utterance, byCaller, left, walk⟩), []⟩)
    (hid : s.id = id) (hkept : (t.store.get? id).isSome) (hsteady : (t.world id).Steady) :
    PlaysOut settings t id ticket (s.remainder settings ⟨utterance, byCaller, left, walk⟩) := by
  induction walk generalizing t with
  | done w => exact hdone t s utterance w hd hid hkept hsteady
  | ask q next ih =>
    rcases hanswer : (t.world id).answer q with ⟨reply, script⟩
    let d : Docket := ⟨s, some (ticket, ⟨utterance, byCaller, left, next reply⟩), []⟩
    have hstep : t.step settings (.proceed id) = ((t.replied id script).put id d, []) := by
      simp [step, proceed, hd, hanswer, d]
    have hworld : ((t.replied id script).put id d).world id = script := by
      simp [world, put, replied]
    refine PlaysOut.step hstep ?_ (save_put hid) (ih reply dockets_put ?_ ?_)
    · simp [Session.remainder, hanswer, hworld]
    · exact isSome_get?_put hid hkept
    · rw [hworld]
      have hscript : script = ((t.world id).answer q).2 := by rw [hanswer]
      rw [hscript]
      exact hsteady.answer q

section Done

variable {byCaller : Bool} {left : Nat} {utterance : Option String} {w : Walk}
  (hd : t.dockets id = some ⟨s, some (ticket, ⟨utterance, byCaller, left, .done w⟩), []⟩)
  (hsteady : (t.world id).Steady)
include hd

/-- A turn that is done is followed by the next one, or answered. -/
theorem step_of_done {m : Moment}
    (hm : Moment.proceed settings byCaller w left (s.receive settings utterance w) = m) :
    t.step settings (.proceed id) = (t.put id (.ofMoment ticket m []),
      if m.errand.isSome then [] else [⟨id, ticket, .progress m.session w.result⟩]) := by
  simp [step, proceed, hd, hm]

include hsteady

/-- A walk after which nothing follows is the end of the turn. -/
theorem playsOut_of_end (hid : s.id = id) (hkept : (t.store.get? id).isSome)
    (hm : Moment.proceed settings byCaller w left (s.receive settings utterance w) =
      ⟨(s.receive settings utterance w).conclude byCaller, none⟩)
    (hout : (s.receive settings utterance w).outcome settings byCaller left w =
      .done (w.result, (s.receive settings utterance w).conclude byCaller)) :
    PlaysOut settings t id ticket (s.remainder settings ⟨utterance, byCaller, left, .done w⟩) := by
  have hlast : ((s.receive settings utterance w).conclude byCaller).id = id := by simpa using hid
  have hrun : (s.remainder settings ⟨utterance, byCaller, left, .done w⟩).run (t.world id) =
      ((w.result, (s.receive settings utterance w).conclude byCaller), t.world id) := by
    rw [Session.run_remainder_done hsteady, hout, Dialogue.run_done]
  have hstore : (t.put id (.ofMoment ticket
      ⟨(s.receive settings utterance w).conclude byCaller, none⟩ [])).store =
        t.store.save ((s.receive settings utterance w).conclude byCaller) := by
    simp [put, hkept, Docket.ofMoment]
  rw [PlaysOut, hrun]
  refine ⟨hlast, 1, ?_⟩
  rw [List.replicate_one, run_cons, step_of_done hd hm]
  exact ⟨rfl, hstore, rfl⟩

end Done

/-- A turn in traffic plays out as it does alone, by induction on the turns left. -/
theorem playsOut (left : Nat) (byCaller : Bool) (utterance : Option String) (walk : Dialogue Walk)
    (hd : t.dockets id = some ⟨s, some (ticket, ⟨utterance, byCaller, left, walk⟩), []⟩)
    (hid : s.id = id) (hkept : (t.store.get? id).isSome) (hsteady : (t.world id).Steady) :
    PlaysOut settings t id ticket (s.remainder settings ⟨utterance, byCaller, left, walk⟩) := by
  induction left generalizing t s utterance walk with
  | zero =>
    refine playsOut_of_done ?_ utterance walk hd hid hkept hsteady
    intro t s utterance w hd hid hkept hsteady
    exact playsOut_of_end hd hsteady hid hkept rfl rfl
  | succ left ih =>
    refine playsOut_of_done ?_ utterance walk hd hid hkept hsteady
    intro t s utterance w hd hid hkept hsteady
    by_cases hsilent : (s.receive settings utterance w).isSilentAdvance w.result
    · let s' := s.receive settings utterance w
      have hid' : s'.id = id := by simpa [s'] using hid
      have hm : Moment.proceed settings byCaller w (left + 1) s' =
          Moment.begin settings s' none byCaller left := by
        simp [Moment.proceed, s', hsilent]
      have hnext := ih none (s'.walk settings none) (s := s') dockets_put hid'
        (isSome_get?_put hid' hkept) hsteady
      refine PlaysOut.step (step_of_done hd hm) ?_ (save_put hid') hnext
      rw [Session.run_remainder_done hsteady, Session.outcome_of_silent hsilent]
      rfl
    · refine playsOut_of_end hd hsteady hid hkept ?_
        (Session.outcome_of_not_silent hsilent byCaller left)
      simp [Moment.proceed, hsilent]

/-- A turn that begins is played out. -/
theorem playsOut_begin (hid : s.id = id) (hkept : (t.store.get? id).isSome)
    (hsteady : (t.world id).Steady) (ticket : Nat) (utterance : Option String) (byCaller : Bool)
    (left : Nat) :
    PlaysOut settings
      (t.put id (.ofMoment ticket (.begin settings s utterance byCaller left) [])) id ticket
      (s.remainder settings ⟨utterance, byCaller, left, s.walk settings utterance⟩) :=
  playsOut left byCaller utterance _ dockets_put hid (isSome_get?_put hid hkept) hsteady

end Service.Traffic

namespace Service

/-- A test call that is begun comes to what its first turn comes to. -/
theorem run_beginCall (setup : Setup) (service : Service) (c : CallRequest) (flow : Flow)
    (script : Script) :
    let session := Session.new (setup.callId service.begun) flow c.bindings
    let opened : Session := { session with status := .active }
    let out := (opened.remainder setup.settings
      ⟨none, false, setup.settings.engine.hops, opened.walk setup.settings none⟩).run script
    (service.beginCall setup c flow).run script =
      ((.progress out.1.2 out.1.1, ⟨service.calls.save out.1.2, service.begun + 1⟩), out.2) := by
  intro session opened out
  obtain ⟨p, hstart, hresult⟩ : ∃ p : Passage,
      (session.start setup.settings).run script = ((.ok p, out.1.2), out.2) ∧ p.result = out.1.1 :=
    Session.run_start rfl script
  have hbegin : (service.beginCall setup c flow).run script =
      ((.progress out.1.2 p.result, ⟨service.calls.save out.1.2, service.begun + 1⟩), out.2) := by
    simp [beginCall, session, hstart]
  rw [hbegin, hresult]

/-- Input to a test call is a turn of its session. -/
theorem run_inputCall (setup : Setup) (service : Service) {session : Session}
    (h : session.isActive) (text : String) (script : Script) :
    let opened : Session := { session with status := .active }
    let out := (opened.remainder setup.settings ⟨some text, true, setup.settings.engine.hops,
      opened.walk setup.settings (some text)⟩).run script
    (service.inputCall setup session text).run script =
      ((.progress out.1.2 out.1.1, { service with calls := service.calls.save out.1.2 }),
        out.2) := by
  intro opened out
  obtain ⟨p, hinput, hresult⟩ : ∃ p : Passage,
      (session.input setup.settings text).run script = ((.ok p, out.1.2), out.2) ∧
        p.result = out.1.1 := Session.run_input h text script
  have htaken : (service.inputCall setup session text).run script =
      ((.progress out.1.2 p.result, { service with calls := service.calls.save out.1.2 }),
        out.2) := by
    simp [inputCall, hinput]
  rw [htaken, hresult]

/-- What a request that can be read asks, at an endpoint, about the test call of an id. -/
inductive Request.Asks (id : String) (r : Request) : Endpoint → Ask → Prop where
  | begin {c : CallRequest} (h : r.read CallRequest.reader = .ok c) : Asks id r .begin (.begin c)
  | input {text : String} (h : r.read inputReader = .ok text) : Asks id r (.input id) (.input text)
  | call : Asks id r (.call id) .call
  | hangUp : Asks id r (.hangUp id) .hangUp

namespace Traffic

variable {settings : Settings} {t u : Traffic} {id : String} {ticket : Nat} {ask : Ask}

/-- Let go on without interruption, a request is answered as by a service that runs by itself, and
leaves the same store and world behind. -/
def AnswersAs (settings : Settings) (t : Traffic) (id : String) (ticket : Nat) (ask : Ask)
    (d : Dialogue (Reply × Service)) : Prop :=
  let out := d.run (t.world id)
  ∃ n, let last := t.run settings (.request id ticket ask :: List.replicate n (.proceed id))
    last.2 = [⟨id, ticket, out.1.1⟩] ∧ last.1.store = out.1.2.calls ∧ last.1.world id = out.2

/-- A request that is answered at once is answered as alone. -/
theorem answersAs_done {reply : Reply} {service : Service}
    (hrequest : t.request settings id ticket ask = (u, [⟨id, ticket, reply⟩]))
    (hstore : u.store = service.calls) (hworld : u.world id = t.world id) :
    AnswersAs settings t id ticket ask (.done (reply, service)) := by
  refine ⟨0, ?_⟩
  rw [List.replicate_zero, run_cons]
  simp only [step, hrequest]
  exact ⟨rfl, hstore, hworld⟩

/-- A request that takes a turn is answered as alone, if the turn plays out. -/
theorem answersAs_turn {d : Dialogue (Reply × Service)} {turn : Dialogue (TurnResult × Session)}
    {service : Service} (hrequest : t.request settings id ticket ask = (u, []))
    (hstore : ∀ s : Session, s.id = id → u.store.save s = t.store.save s)
    (hworld : u.world id = t.world id) (hturn : PlaysOut settings u id ticket turn)
    (hrun : d.run (t.world id) =
      ((.progress (turn.run (t.world id)).1.2 (turn.run (t.world id)).1.1, service),
        (turn.run (t.world id)).2))
    (hcalls : service.calls = t.store.save (turn.run (t.world id)).1.2) :
    AnswersAs settings t id ticket ask d := by
  obtain ⟨hid, n, hresponses, hsaved, hleft⟩ := hturn
  rw [hworld] at hid hresponses hsaved hleft
  refine ⟨n, ?_⟩
  rw [run_cons]
  simp only [step, hrequest]
  rw [hrun, hcalls, ← hstore _ hid]
  exact ⟨hresponses, hsaved, hleft⟩

theorem begin_handled {r : Request} {c : CallRequest} (hread : r.read CallRequest.reader = .ok c)
    (hsteady : (t.world id).Steady) (ticket begun : Nat) :
    AnswersAs settings t id ticket (.begin c)
      ((⟨t.store, begun⟩ : Service).answer ⟨settings, fun _ => id⟩ r .begin) := by
  simp only [answer, withBody, hread, withFlow]
  cases hload : Flow.load (.object c.flow) true with
  | error report => exact answersAs_done (by simp [request, hload]) rfl rfl
  | ok flow =>
    let session := Session.new id flow c.bindings
    let opened : Session := { session with status := .active }
    let m := Moment.begin settings opened none false settings.engine.hops
    let saved := { t with store := t.store.save session }
    have hrequest : t.request settings id ticket (.begin c) =
        (saved.put id (.ofMoment ticket m []), []) := by
      simp [request, hload, saved, m, opened, session]
    have hm : (Docket.ofMoment ticket m []).session.id = id := rfl
    have hstore : ∀ s : Session, s.id = id →
        (saved.put id (.ofMoment ticket m [])).store.save s = t.store.save s := by
      intro s hs
      rw [save_put hm s hs]
      exact SessionStore.save_save hs.symm
    have hkept : (saved.store.get? id).isSome := by
      rw [SessionStore.get?_save, if_pos (show session.id = id from rfl)]
      rfl
    exact answersAs_turn hrequest hstore rfl (playsOut_begin hm hkept hsteady ..)
      (run_beginCall _ _ c flow _) rfl

section Idle

variable {s : Session} (hstored : t.store.get? id = some s)
  (hd : t.dockets id = some ⟨s, none, []⟩)
include hstored hd

/-- Input in traffic is answered as alone. -/
theorem input_handled (hsteady : (t.world id).Steady) (ticket begun : Nat) (text : String) :
    AnswersAs settings t id ticket (.input text)
      ((⟨t.store, begun⟩ : Service).inputCall ⟨settings, fun _ => id⟩ s text) := by
  have hid : s.id = id := SessionStore.id_of_get? hstored
  cases hactive : s.isActive with
  | false =>
    have hrefused : t.request settings id ticket (.input text) = (t.put id ⟨s, none, []⟩,
        [⟨id, ticket, .closed (.inactive s.id s.status)⟩]) := by
      simp [request, withDocket, hstored, hd, takeUp, hactive]
    have hsaved : (t.put id ⟨s, none, []⟩).store = t.store.save s := by
      simp [put, hstored]
    simp only [inputCall, Session.input_of_closed hactive]
    exact answersAs_done hrefused hsaved rfl
  | true =>
    let opened : Session := { s with status := .active }
    let m := Moment.begin settings opened (some text) true settings.engine.hops
    have hrequest : t.request settings id ticket (.input text) =
        (t.put id (.ofMoment ticket m []), []) := by
      simp [request, withDocket, hstored, hd, takeUp, hactive, m, opened]
    have hkept : (t.store.get? id).isSome := by
      rw [hstored]
      rfl
    exact answersAs_turn hrequest (save_put (d := .ofMoment ticket m []) hid) rfl
      (playsOut_begin (s := opened) hid hkept hsteady ..) (run_inputCall _ _ hactive text _) rfl

/-- Hanging up in traffic is answered as alone. -/
theorem hangUp_handled (ticket begun : Nat) :
    AnswersAs settings t id ticket .hangUp
      (.done (.hungUp s.hangUp, { (⟨t.store, begun⟩ : Service) with
        calls := t.store.remove id })) := by
  let u := { t with store := t.store.remove id }.put id ⟨s.hangUp, none, []⟩
  have hremoved : u.store = t.store.remove id := by
    simp [u, put, SessionStore.get?_remove_self]
  have hrequest : t.request settings id ticket .hangUp =
      (u, [⟨id, ticket, .hungUp s.hangUp⟩]) := by
    simp [request, withDocket, hstored, hd, u]
  exact answersAs_done hrequest hremoved rfl

end Idle

/-- Let go on without interruption, a request is answered as the service answers it by itself, and
leaves the store as the service does. -/
theorem request_handled {r : Request} {endpoint : Endpoint} (hasks : r.Asks id endpoint ask)
    (hsound : t.SoundAt settings id) (hidle : ∀ d ∈ t.dockets id, d.turn = none ∧ d.waiting = [])
    (hsteady : (t.world id).Steady) (ticket begun : Nat) :
    AnswersAs settings t id ticket ask
      ((⟨t.store, begun⟩ : Service).answer ⟨settings, fun _ => id⟩ r endpoint) := by
  have hdocket : ∀ s, t.store.get? id = some s → t.dockets id = some ⟨s, none, []⟩ := by
    intro s hstored
    obtain ⟨d, hd, rfl, -⟩ := hsound.kept s hstored
    obtain ⟨hturn, hwaiting⟩ := hidle d hd
    obtain ⟨s, turn, waiting⟩ := d
    subst hturn hwaiting
    exact hd
  cases hasks with
  | begin hread => exact begin_handled hread hsteady ticket begun
  | input hread =>
    simp only [answer, withBody, hread, withCall]
    cases hstored : t.store.get? id with
    | none => exact answersAs_done (by simp [request, withDocket, hstored]) rfl rfl
    | some s => exact input_handled hstored (hdocket s hstored) hsteady ticket begun _
  | call =>
    simp only [answer, withCall]
    cases hstored : t.store.get? id with
    | none => exact answersAs_done (by simp [request, withDocket, hstored]) rfl rfl
    | some s =>
      exact answersAs_done (by simp [request, withDocket, hstored, hdocket s hstored]) rfl rfl
  | hangUp =>
    simp only [answer, withCall]
    cases hstored : t.store.get? id with
    | none => exact answersAs_done (by simp [request, withDocket, hstored]) rfl rfl
    | some s => exact hangUp_handled hstored (hdocket s hstored) ticket begun

end Traffic

end Service

end CallFlow
