import CallFlow.Proofs.Service.Handled
import CallFlow.Proofs.Service.Refusals

namespace CallFlow.Service.Traffic

variable {settings : Settings} {t : Traffic} {id : String} {d : Docket} {events later : List Event}

/-- A service that was just started. -/
def new (client : ClientState) (scripts : String → Script) : Traffic := { client, scripts }

/-- A service that was just started is sound. -/
theorem soundAt_new (client : ClientState) (scripts : String → Script) (id : String) :
    (new client scripts).SoundAt settings id := by
  refine ⟨?_, ?_⟩
  · exact fun d hd => absurd hd (Option.not_mem_none d)
  · exact fun s hs => absurd hs (Option.not_mem_none s)

/-- A test call gives the replies, and is left in the store, as if only its own events happened. -/
structure AsAlone (settings : Settings) (started : Traffic) (events : List Event) (id : String) :
    Prop where
  responses : ownResponses id (started.run settings events).2 =
    (started.run settings (ownEvents id events)).2
  stored : (started.run settings events).1.store.get? id =
    (started.run settings (ownEvents id events)).1.store.get? id

/-- Whatever the caller says to a test call is refused: what is said now, which changes nothing, and
what was said before and waits for its turn. -/
structure RefusesInput (settings : Settings) (t : Traffic) (id : String) (d : Docket) : Prop where
  status : ∀ waiting, (refusal d.session waiting).reply.status = 409
  now : ∀ ticket text, (t.store.get? id).isSome →
    t.run settings (.request id ticket (.input text) ::
        List.replicate (d.waiting.length + 1) (.proceed id)) =
      ({ t with dockets := Function.update t.dockets id (some { d with waiting := [] }) },
        (d.waiting ++ [(ticket, text)]).map (refusal d.session))
  before : ∃ n result, (t.run settings (List.replicate n (.proceed id))).2 =
      (d.turn.map fun turn => ⟨id, turn.1, .progress d.session result⟩).toList ++
        d.waiting.map (refusal d.session) ∧
    (t.run settings (List.replicate n (.proceed id))).1.store = t.store ∧
    (t.run settings (List.replicate n (.proceed id))).1.dockets id = some ⟨d.session, none, []⟩

/-- Whatever is asked about a test call is answered at once that there is none, and changes
nothing. -/
structure IsUnknown (settings : Settings) (t : Traffic) (id : String) : Prop where
  status : Reply.unknownCall.status = 404
  asked : ∀ ticket ask, (∀ r, ask ≠ .begin r) →
    t.request settings id ticket ask = (t, [⟨id, ticket, .unknownCall⟩])

/-- A closed call refuses input from then on. -/
theorem refusesInput (hsound : t.SoundAt settings id) (hd : t.dockets id = some d)
    (hclosed : d.session.isActive = false) : RefusesInput settings t id d where
  status := fun _ => rfl
  now := fun ticket text hkept => run_input_of_closed hsound hd hclosed hkept ticket text
  before := run_settles hsound hd hclosed

theorem idsBegun_append (events later : List Event) :
    idsBegun (events ++ later) = idsBegun events ++ idsBegun later :=
  List.filterMap_append

/-- Where ids are not used twice, a call in hand is not begun once more. -/
theorem not_mem_idsBegun (hsound : ∀ id, t.SoundAt settings id) (hnone : t.dockets id = none)
    (hd : (t.run settings events).1.dockets id = some d)
    (hnodup : (idsBegun (events ++ later)).Nodup) : id ∉ idsBegun later := by
  rw [idsBegun_append] at hnodup
  exact (List.nodup_append'.1 hnodup).2.2 (mem_idsBegun_of_docket hsound hnone hd)

/-- A call that was hung up is unknown from then on. -/
theorem isUnknown_of_hangUp (hsound : ∀ id, t.SoundAt settings id) (ticket : Nat)
    (hlater : id ∉ idsBegun later) :
    IsUnknown settings (t.run settings (.request id ticket .hangUp :: later)).1 id := by
  have hremoved : (t.step settings (.request id ticket .hangUp)).1.store.get? id = none := by
    simp only [step, request, withDocket]
    cases hstore : t.store.get? id with
    | none => exact hstore
    | some s =>
      obtain ⟨d, hd, -⟩ := (hsound id).kept s hstore
      have hid : d.session.hangUp.id = id := d.session.id_hangUp.trans ((hsound id).fits d hd).id
      rw [Option.mem_def] at hd
      simp only [hd, Option.getD_some]
      rw [get?_put hid, SessionStore.get?_remove_self]
      rfl
  have hstored := run_stored_of_removed (step_soundAt (.request id ticket .hangUp) hsound)
    hlater hremoved
  exact ⟨rfl, fun ticket ask hask => request_of_removed hstored ticket hask⟩

/-- Whatever requests about whatever test calls come in, and in whatever order they go on: each call
gives the replies, and is left in the store, as if its own requests were the only ones. A call that
is closed refuses what the caller says, with status 409, and stays as it is. About a call that was
hung up whatever is asked from then on is answered with status 404. And a request that comes in
while no other about its call waits is answered, if it is let go on without interruption, as the
service answers it by itself. -/
theorem calls_are_isolated (settings : Settings) (client : ClientState)
    (scripts : String → Script) (events : List Event) (id : String) :
    let started := new client scripts
    let t := (started.run settings events).1
    AsAlone settings started events id ∧
    (∀ d, t.dockets id = some d → d.session.status ∈ SessionStatus.closed →
      RefusesInput settings t id d ∧
      ∀ later, (idsBegun (events ++ later)).Nodup →
        StaysClosed id d ((t.run settings later).1, ownResponses id (t.run settings later).2)) ∧
    (∀ ticket later, (t.store.get? id).isSome → (idsBegun (events ++ later)).Nodup →
      IsUnknown settings (t.run settings (.request id ticket .hangUp :: later)).1 id) ∧
    ∀ r endpoint ask, r.Asks id endpoint ask →
      (∀ d ∈ t.dockets id, d.turn = none ∧ d.waiting = []) → (t.world id).Steady →
      ∀ ticket begun, AnswersAs settings t id ticket ask
        ((⟨t.store, begun⟩ : Service).answer ⟨settings, fun _ => id⟩ r endpoint) := by
  intro started t
  have hstarted : ∀ id, started.SoundAt settings id := soundAt_new client scripts
  have hsound : ∀ id, t.SoundAt settings id := run_soundAt events hstarted
  refine ⟨?_, fun d hd hclosed => ?_, fun ticket later hkept hnodup => ?_, ?_⟩
  · obtain ⟨hresponses, hlast⟩ := run_own events (.refl started) hstarted
    exact ⟨hresponses, hlast.stored⟩
  · have hinactive := Session.isActive_eq_false_iff.2 hclosed
    refine ⟨refusesInput (hsound id) hd hinactive, fun later hnodup => ?_⟩
    exact run_staysClosed (not_mem_idsBegun hstarted rfl hd hnodup) hsound hd hinactive
  · obtain ⟨s, hs⟩ := Option.isSome_iff_exists.1 hkept
    obtain ⟨d, hd, -⟩ := (hsound id).kept s hs
    exact isUnknown_of_hangUp hsound ticket (not_mem_idsBegun hstarted rfl hd hnodup)
  · exact fun r endpoint ask hasks hidle hsteady =>
      request_handled hasks (hsound id) hidle hsteady

/-- Lets a language model talk to the caller. -/
private def talkFlow : Bindings :=
  [("id", .text "f"),
   ("nodes", .list
    [.object [("id", .text "begin"), ("type", .text "start")],
     .object
      [("id", .text "talk"), ("type", .text "conversation"),
       ("config", .object [("content", .object [("content", .text "Be kind.")])])],
     .object [("id", .text "bye"), ("type", .text "end")]]),
   ("edges", .list
    [.object [("source", .text "begin"), ("target", .text "talk")],
     .object [("source", .text "talk"), ("target", .text "bye")]])]

/-- Two calls at the same time. The caller of one says something before the first reply, and hangs
up. -/
private def talks : List Event :=
  [.request "a" 0 (.begin ⟨talkFlow, []⟩), .request "b" 1 (.begin ⟨talkFlow, []⟩),
   .proceed "b", .request "a" 2 (.input "Hello?"), .proceed "b", .request "a" 3 .hangUp]

theorem talks_are_isolated :
    let started := new (.absent true) fun _ => {}
    let t := (started.run {} talks).1
    AsAlone {} started talks "a" ∧
    (∃ d, t.dockets "a" = some d ∧ d.session.status = .hungUp ∧ d.waiting = [(2, "Hello?")] ∧
      RefusesInput {} t "a" d ∧ StaysClosed "a" d (t, [])) ∧
    ((t.store.get? "b").isSome ∧ IsUnknown {} (t.run {} [.request "b" 4 .hangUp]).1 "b") ∧
    AnswersAs {} t "b" 4 .call
      ((⟨t.store, 2⟩ : Service).answer ⟨{}, fun _ => "b"⟩ ⟨"GET", "/api/test-calls/b", none⟩
        (.call "b")) := by
  intro started t
  obtain ⟨halone, hclosed, -, -⟩ :=
    calls_are_isolated {} (.absent true) (fun _ => {}) talks "a"
  obtain ⟨-, -, hremoved, hhandled⟩ :=
    calls_are_isolated {} (.absent true) (fun _ => {}) talks "b"
  have hhung : (t.dockets "a").map (fun d => (d.session.status, d.waiting)) =
      some (.hungUp, [(2, "Hello?")]) := by decide +kernel
  obtain ⟨d, hd, hfields⟩ := Option.map_eq_some_iff.1 hhung
  obtain ⟨hstatus, hwaiting⟩ := Prod.mk.inj hfields
  obtain ⟨hrefuses, hstays⟩ := hclosed d hd (by rw [hstatus]; decide)
  have hkept : (t.store.get? "b").isSome := by decide +kernel
  have hidle : ∀ d ∈ t.dockets "b", d.turn = none ∧ d.waiting = [] := by decide +kernel
  exact ⟨halone, ⟨d, hd, hstatus, hwaiting, hrefuses, hstays [] (by decide)⟩,
    ⟨hkept, hremoved 4 [] hkept (by decide)⟩,
    hhandled _ _ _ .call hidle (by decide +kernel) 4 2⟩

end CallFlow.Service.Traffic
