import CallFlow.Proofs.Session.Lifecycle
import CallFlow.Proofs.Session.Store
import CallFlow.Proofs.Turn.Queries
import CallFlow.Service
import Mathlib.Logic.Function.Basic

namespace CallFlow.Service

/-- A request about a test call, its body read. -/
inductive Ask where
  | begin (r : CallRequest)
  | input (text : String)
  | call
  | hangUp

/-- What a service has in hand for a test call. It stays in hand when the call was removed from the
store, for the requests that came in before. -/
structure Docket where
  session : Session
  /-- The turn under way, with the ticket of the request that waits for its result. -/
  turn : Option (Nat × Errand) := none
  /-- The tickets of the requests that wait for their turn, and what the caller says in them. -/
  waiting : List (Nat × String) := []

namespace Docket

/-- The docket at a moment of a turn. -/
def ofMoment (ticket : Nat) (m : Moment) (waiting : List (Nat × String)) : Docket :=
  ⟨m.session, m.errand.map (ticket, ·), waiting⟩

/-- The moment that the session is at. -/
def moment (d : Docket) : Moment := ⟨d.session, d.turn.map Prod.snd⟩

@[simp] theorem moment_ofMoment (ticket : Nat) (m : Moment) (waiting : List (Nat × String)) :
    (ofMoment ticket m waiting).moment = m := by
  obtain ⟨session, errand⟩ := m
  cases errand <;> rfl

end Docket

/-- What happens to a service. -/
inductive Event where
  /-- A request about the test call of an id comes in. -/
  | request (id : String) (ticket : Nat) (ask : Ask)
  /-- The test call of an id goes on: it is given the reply that it waits for, or its walk comes to
  an end, or the next of its requests has its turn. -/
  | proceed (id : String)

/-- The id of the test call that an event is about. -/
def Event.id : Event → String
  | request id _ _ => id
  | proceed id => id

/-- A reply and the request to which it is given. -/
structure Response where
  id : String
  ticket : Nat
  reply : Reply

/-- A service in the midst of its requests. -/
structure Traffic where
  store : SessionStore := {}
  client : ClientState
  /-- The replies from outside that each test call will be given. -/
  scripts : String → Script
  dockets : String → Option Docket := fun _ => none

namespace Traffic

variable (settings : Settings) (t : Traffic) (id : String)

/-- The world as a test call finds it: its own replies, and the client that is everyone's. -/
def world : Script := { t.scripts id with client := t.client }

/-- The traffic after a test call was given a reply. -/
def replied (script : Script) : Traffic :=
  { t with client := script.client, scripts := Function.update t.scripts id script }

/-- The traffic with another docket for a test call. The store shows the session as it is now,
unless the call was removed. -/
def put (d : Docket) : Traffic :=
  { t with
    store := if (t.store.get? id).isSome then t.store.save d.session else t.store
    dockets := Function.update t.dockets id (some d) }

/-- Begins a turn with what the caller says, or refuses to. -/
def takeUp (d : Docket) (ticket : Nat) (text : String) : Traffic × List Response :=
  if d.session.isActive then
    let m := Moment.begin settings { d.session with status := .active } (some text) true
      settings.engine.hops
    (t.put id (.ofMoment ticket m d.waiting), [])
  else (t.put id d, [⟨id, ticket, .closed (.inactive d.session.id d.session.status)⟩])

/-- Goes on with the docket of a test call if the store has the call. -/
def withDocket (ticket : Nat) (next : Docket → Traffic × List Response) :
    Traffic × List Response :=
  match t.store.get? id with
  | some session => next ((t.dockets id).getD { session })
  | none => (t, [⟨id, ticket, .unknownCall⟩])

/-- Takes in a request. -/
def request (ticket : Nat) : Ask → Traffic × List Response
  | .begin r =>
    match Flow.load (.object r.flow) true with
    | .error report => (t, [⟨id, ticket, .invalidFlow report⟩])
    | .ok flow =>
      let session := Session.new id flow r.bindings
      let m := Moment.begin settings { session with status := .active } none false
        settings.engine.hops
      ({ t with store := t.store.save session }.put id (.ofMoment ticket m []), [])
  | .input text =>
    t.withDocket id ticket fun d =>
      if d.turn.isNone && d.waiting.isEmpty then t.takeUp settings id d ticket text
      else (t.put id { d with waiting := d.waiting ++ [(ticket, text)] }, [])
  | .call => t.withDocket id ticket fun d => (t, [⟨id, ticket, .call d.session⟩])
  | .hangUp =>
    t.withDocket id ticket fun d =>
      let d := { d with session := d.session.hangUp }
      ({ t with store := t.store.remove id }.put id d, [⟨id, ticket, .hungUp d.session⟩])

/-- Lets a test call go on. There is nothing to do when no request waits. -/
def proceed : Traffic × List Response :=
  match t.dockets id with
  | none => (t, [])
  | some d =>
    match d.turn, d.waiting with
    | none, [] => (t, [])
    | none, (ticket, text) :: waiting =>
      t.takeUp settings id { d with waiting } ticket text
    | some (ticket, e), waiting =>
      match e.rest with
      | .ask q next =>
        let (reply, script) := (t.world id).answer q
        let e := { e with rest := next reply }
        ((t.replied id script).put id { d with turn := some (ticket, e) }, [])
      | .done w =>
        let m := Moment.proceed settings e.byCaller w e.left
          (d.session.receive settings e.utterance w)
        (t.put id (.ofMoment ticket m waiting),
          if m.errand.isSome then [] else [⟨id, ticket, .progress m.session w.result⟩])

/-- The traffic after an event, and the replies that it brings. -/
def step : Event → Traffic × List Response
  | .request id ticket ask => t.request settings id ticket ask
  | .proceed id => t.proceed settings id

/-- The traffic after some events, and the replies in order. -/
def run (t : Traffic) : List Event → Traffic × List Response
  | [] => (t, [])
  | e :: events =>
    let (t, responses) := t.step settings e
    let (t, others) := run t events
    (t, responses ++ others)

variable {settings t id} {other : String} {d : Docket}

/-- Events are dealt with one by one. -/
theorem run_cons (e : Event) (events : List Event) :
    t.run settings (e :: events) =
      (((t.step settings e).1.run settings events).1,
        (t.step settings e).2 ++ ((t.step settings e).1.run settings events).2) :=
  rfl

/-- Events may be dealt with in two goes. -/
theorem run_append (events later : List Event) :
    t.run settings (events ++ later) =
      (((t.run settings events).1.run settings later).1,
        (t.run settings events).2 ++ ((t.run settings events).1.run settings later).2) := by
  induction events generalizing t with
  | nil => rfl
  | cons e events ih => rw [List.cons_append, run_cons, ih, run_cons, List.append_assoc]

section Put

@[simp] theorem dockets_put : (t.put id d).dockets id = some d := Function.update_self ..

/-- Another call's docket is left alone. -/
theorem dockets_put_of_ne (h : other ≠ id) : (t.put id d).dockets other = t.dockets other :=
  Function.update_of_ne h ..

/-- The store shows a session as it is in hand, and no session that was removed. -/
theorem get?_put (hid : d.session.id = id) :
    (t.put id d).store.get? id = (t.store.get? id).map fun _ => d.session := by
  subst hid
  unfold put
  dsimp only
  split
  · rename_i hkept
    obtain ⟨s, hs⟩ := Option.isSome_iff_exists.1 hkept
    rw [SessionStore.get?_save_self, hs]
    rfl
  · rename_i hremoved
    rw [Option.not_isSome_iff_eq_none.1 hremoved]
    rfl

theorem get?_put_of_ne (hid : d.session.id = id) (h : other ≠ id) :
    (t.put id d).store.get? other = t.store.get? other := by
  unfold put
  dsimp only
  split
  · exact SessionStore.get?_save_of_ne (hid ▸ h.symm)
  · rfl

/-- The store does not change when what is put has the session that it shows. -/
theorem put_of_kept (hkept : ∀ s ∈ t.store.get? id, d.session = s) :
    t.put id d = { t with dockets := Function.update t.dockets id (some d) } := by
  unfold put
  split
  · rename_i hsome
    obtain ⟨s, hs⟩ := Option.isSome_iff_exists.1 hsome
    rw [hkept s hs, SessionStore.save_of_get? (SessionStore.id_of_get? hs ▸ hs)]
  · rfl

end Put

end Traffic

end CallFlow.Service
