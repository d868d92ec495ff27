import CallFlow.Proofs.Dialogue.Always
import CallFlow.Session.Basic
import Mathlib.Logic.Relation

namespace CallFlow

namespace Session

/-- Takes a walk from where the session is. -/
def walk (settings : Settings) (s : Session) (utterance : Option String) : Dialogue Walk :=
  (s.turn settings utterance).run (s.node.getD "") (s.turnVariables utterance)

/-- The session once a walk is over: its result is committed if the caller is still there. -/
def receive (settings : Settings) (s : Session) (utterance : Option String) (w : Walk) : Session :=
  if s.isActive then s.commit settings.engine utterance w.result else s

/-- The session at the end of a turn. Only the caller's turns are limited in number. -/
def conclude (s : Session) (byCaller : Bool) : Session := if byCaller then s.limitTurns else s

/-- A turn is walked, and then committed unless the caller is gone. -/
theorem execute_eq (settings : Settings) (s : Session) (utterance : Option String) :
    s.execute settings utterance = (s.walk settings utterance).bind fun w =>
      (Dialogue.query .hungUp).bind fun gone =>
        .done (w, (if gone then s.hangUp else s).receive settings utterance w) :=
  rfl

/-- A session goes on by itself if it is still open, nothing was said, and the caller was to speak
next at a node with an id. -/
theorem isSilentAdvance_iff {s : Session} {r : TurnResult} : s.isSilentAdvance r ↔
    (s.isActive ∧ r.response = "") ∧ r.move.action = .gather ∧
      ∃ next ∈ r.move.next?, next ≠ "" := by
  simp only [isSilentAdvance, Bool.and_eq_true, decide_eq_true_eq, Option.any_eq_true]
  constructor
  · rintro ⟨⟨⟨hactive, haction⟩, hempty⟩, hnext⟩
    exact ⟨⟨hactive, hempty⟩, haction, hnext⟩
  · rintro ⟨⟨hactive, hempty⟩, haction, hnext⟩
    exact ⟨⟨⟨hactive, haction⟩, hempty⟩, hnext⟩

theorem hangUp_of_closed {s : Session} (h : s.isActive = false) : s.hangUp = s := by
  simp [hangUp, h]

theorem isActive_hangUp (s : Session) : s.hangUp.isActive = false := by
  cases hactive : s.isActive with
  | false => rw [hangUp_of_closed hactive, hactive]
  | true =>
    rw [hangUp, if_pos hactive]
    rfl

end Session

/-- A walk that is under way. -/
structure Errand where
  /-- What the caller said, if that began the walk. -/
  utterance : Option String
  /-- Whether the turn is one of the caller's. -/
  byCaller : Bool
  /-- The number of walks that may follow in the same turn. -/
  left : Nat
  /-- What remains of the walk. -/
  rest : Dialogue Walk

/-- A session, and the walk that it is on, none between the turns. -/
structure Moment where
  session : Session
  errand : Option Errand

namespace Moment

variable (settings : Settings)

/-- The moment at which a walk begins. -/
def begin (s : Session) (utterance : Option String) (byCaller : Bool) (left : Nat) : Moment :=
  ⟨s, some ⟨utterance, byCaller, left, s.walk settings utterance⟩⟩

/-- The moment after a walk, when its result was received: a silent one is gone on from, so many
times at most. -/
def proceed (byCaller : Bool) (w : Walk) (left : Nat) (s : Session) : Moment :=
  match left with
  | 0 => ⟨s.conclude byCaller, none⟩
  | left + 1 =>
    if s.isSilentAdvance w.result then begin settings s none byCaller left
    else ⟨s.conclude byCaller, none⟩

/-- What can come next. -/
inductive Step : Moment → Moment → Prop where
  | start {s : Session} (h : s.status = .pending) :
    Step ⟨s, none⟩
      (begin settings { s with status := .active } none false settings.engine.hops)
  | input {s : Session} (text : String) (h : s.isActive) :
    Step ⟨s, none⟩
      (begin settings { s with status := .active } (some text) true settings.engine.hops)
  | hangUp (m : Moment) : Step m { m with session := m.session.hangUp }
  | reply (s : Session) (utterance : Option String) (byCaller : Bool) (left : Nat) {q : Query}
    (next : q.Reply → Dialogue Walk) (r : q.Reply) :
    Step ⟨s, some ⟨utterance, byCaller, left, .ask q next⟩⟩
      ⟨s, some ⟨utterance, byCaller, left, next r⟩⟩
  | arrive (s : Session) (utterance : Option String) (byCaller : Bool) (left : Nat) (w : Walk) :
    Step ⟨s, some ⟨utterance, byCaller, left, .done w⟩⟩
      (proceed settings byCaller w left (s.receive settings utterance w))

/-- Any number of steps. -/
abbrev Run : Moment → Moment → Prop := Relation.ReflTransGen (Step settings)

/-- Any number of steps in the course of a turn. -/
abbrev Course : Moment → Moment → Prop :=
  Relation.ReflTransGen fun m m' => m.errand.isSome ∧ Step settings m m'

/-- What remains of a turn. -/
def rest : Moment → Dialogue Session
  | ⟨s, none⟩ => return s
  | ⟨s, some e⟩ => do
    let w ← e.rest
    let s := if ← .query .hungUp then s.hangUp else s
    let (_, s) ← Session.followUp settings e.left (w, s.receive settings e.utterance w)
    return s.conclude e.byCaller

variable {settings} {m m' : Moment} {s : Session}

theorem Course.run (h : Course settings m m') : Run settings m m' :=
  Relation.ReflTransGen.mono (fun _ _ hstep => hstep.2) m m' h

/-- What is left after going on is to follow up and to conclude. -/
theorem rest_proceed (byCaller : Bool) (w : Walk) (left : Nat) (s : Session) :
    (proceed settings byCaller w left s).rest settings =
      (Session.followUp settings left (w, s)).bind fun o => .done (o.2.conclude byCaller) := by
  cases left with
  | zero => rfl
  | succ left =>
    unfold proceed Session.followUp
    dsimp only
    split
    · simp [rest, begin, Session.execute_eq, Dialogue.bind_assoc, Dialogue.query]
    · rfl

/-- What remains of a turn: the rest of the walk, and what remains when its result was received. -/
theorem rest_errand (s : Session) (e : Errand) : (⟨s, some e⟩ : Moment).rest settings =
    e.rest.bind fun w => (Dialogue.query .hungUp).bind fun gone =>
      (proceed settings e.byCaller w e.left
        ((if gone then s.hangUp else s).receive settings e.utterance w)).rest settings := by
  simp only [rest_proceed]
  rfl

/-- A walk takes its course to its end. -/
theorem walk_course (settings : Settings) (s : Session) (utterance : Option String)
    (byCaller : Bool) (left : Nat) (walk : Dialogue Walk) : walk.Always fun w =>
      Course settings ⟨s, some ⟨utterance, byCaller, left, walk⟩⟩
        ⟨s, some ⟨utterance, byCaller, left, .done w⟩⟩ := by
  induction walk with
  | done w => exact .refl
  | ask q next ih =>
    exact fun r => (ih r).mono fun w => .head ⟨rfl, .reply s utterance byCaller left next r⟩

/-- A turn comes to its end step by step, if that is so of what follows the walk under way. -/
theorem errand_course {byCaller : Bool} {left : Nat}
    (hproceed : ∀ w s, ((proceed settings byCaller w left s).rest settings).Always fun last =>
      Course settings (proceed settings byCaller w left s) ⟨last, none⟩)
    (s : Session) (utterance : Option String) (walk : Dialogue Walk) :
    ((⟨s, some ⟨utterance, byCaller, left, walk⟩⟩ : Moment).rest settings).Always fun last =>
      Course settings ⟨s, some ⟨utterance, byCaller, left, walk⟩⟩ ⟨last, none⟩ := by
  rw [rest_errand]
  refine (walk_course settings s utterance byCaller left walk).bind fun w hwalk gone => ?_
  cases gone with
  | false =>
    refine (hproceed w _).mono fun last hlast => ?_
    exact (hwalk.tail ⟨rfl, .arrive s utterance byCaller left w⟩).trans hlast
  | true =>
    refine (hproceed w _).mono fun last hlast => ?_
    have hleaves := hwalk.tail ⟨rfl, .hangUp _⟩
    exact (hleaves.tail ⟨rfl, .arrive s.hangUp utterance byCaller left w⟩).trans hlast

/-- Going on takes its course to the last turn. -/
theorem proceed_course (byCaller : Bool) (left : Nat) (w : Walk) (s : Session) :
    ((proceed settings byCaller w left s).rest settings).Always fun last =>
      Course settings (proceed settings byCaller w left s) ⟨last, none⟩ := by
  induction left generalizing w s with
  | zero => exact .refl
  | succ left ih =>
    unfold proceed
    dsimp only
    split
    · exact errand_course ih s none (s.walk settings none)
    · exact .refl

/-- What is left takes its course. -/
theorem rest_course (settings : Settings) (m : Moment) :
    (m.rest settings).Always fun last => Course settings m ⟨last, none⟩ := by
  obtain ⟨s, _ | ⟨utterance, byCaller, left, walk⟩⟩ := m
  · exact .refl
  · exact errand_course (proceed_course byCaller left) s utterance walk

/-- A step in the course of a turn leads nowhere that the turn could not end anyway. -/
theorem Step.rest_sometimes {P : Session → Prop} (h : Step settings m m')
    (hbusy : m.errand.isSome) (hlast : (m'.rest settings).Sometimes P) :
    (m.rest settings).Sometimes P := by
  cases h with
  | start => cases hbusy
  | input => cases hbusy
  | hangUp =>
    obtain ⟨e, herrand⟩ := Option.isSome_iff_exists.1 hbusy
    obtain ⟨s, errand⟩ := m
    subst herrand
    -- The turn asks once, after the walk, whether the caller is gone; it could have heard so then.
    rw [rest_errand, Dialogue.sometimes_bind] at hlast ⊢
    refine hlast.mono fun w hw => ⟨true, ?_⟩
    obtain ⟨gone, hgone⟩ := hw
    simpa [Session.hangUp_of_closed s.isActive_hangUp] using hgone
  | reply s utterance byCaller left next r => exact ⟨r, hlast⟩
  | arrive s utterance byCaller left w =>
    rw [rest_errand]
    exact ⟨false, hlast⟩

/-- The steps of a turn lead exactly to the sessions in which it can end, with whatever replies and
whenever the caller hangs up. -/
theorem course_iff {last : Session} :
    Course settings m ⟨last, none⟩ ↔ (m.rest settings).Sometimes (· = last) := by
  refine ⟨fun h => ?_, fun h => ?_⟩
  · induction h using Relation.ReflTransGen.head_induction_on with
    | refl => rfl
    | head hstep _ ih => exact hstep.2.rest_sometimes hstep.1 ih
  · obtain ⟨_, hcourse, rfl⟩ := (rest_course settings m).exists_of_sometimes h
    exact hcourse

end Moment

namespace Session

open Moment

variable {settings : Settings} {s : Session}

/-- Starting a call that has not begun begins a turn. -/
theorem start_of_pending (h : s.status = .pending) :
    ((s.start settings).bind fun o => .done o.2) =
      (begin settings { s with status := .active } none false settings.engine.hops).rest
        settings := by
  simp [start, h, rest, begin, advance, execute_eq, conclude, Dialogue.bind_assoc, Dialogue.query]

/-- A call that has begun can not be started again. -/
theorem start_of_begun (h : s.status ≠ .pending) :
    s.start settings = .done (.error (.alreadyStarted s.id), s) := by
  simp [start, h]

/-- Input to a call in progress begins a turn of the caller. -/
theorem input_of_active (h : s.isActive) (text : String) :
    ((s.input settings text).bind fun o => .done o.2) =
      (begin settings { s with status := .active } (some text) true settings.engine.hops).rest
        settings := by
  simp [input, h, rest, begin, advance, execute_eq, conclude, Dialogue.bind_assoc, Dialogue.query]

/-- Input to a closed call is refused. -/
theorem input_of_closed (h : s.isActive = false) (text : String) :
    s.input settings text = .done (.error (.inactive s.id s.status), s) := by
  simp [input, h]

/-- Beginning the call is a run of the session, whatever the replies and whenever the caller hangs
up, and so is taking what the caller says. -/
theorem start_run (s : Session) :
    (s.start settings).Always fun o => Run settings ⟨s, none⟩ ⟨o.2, none⟩ := by
  by_cases h : s.status = .pending
  · have hcourse := rest_course settings
      (begin settings { s with status := .active } none false settings.engine.hops)
    rw [← start_of_pending h, Dialogue.always_bind] at hcourse
    exact hcourse.mono fun o ho => .head (.start h) (Course.run ho)
  · rw [start_of_begun h]
    exact .refl

theorem input_run (s : Session) (text : String) :
    (s.input settings text).Always fun o => Run settings ⟨s, none⟩ ⟨o.2, none⟩ := by
  cases h : s.isActive with
  | true =>
    have hcourse := rest_course settings
      (begin settings { s with status := .active } (some text) true settings.engine.hops)
    rw [← input_of_active h, Dialogue.always_bind] at hcourse
    exact hcourse.mono fun o ho => .head (.input text h) (Course.run ho)
  | false =>
    rw [input_of_closed h]
    exact .refl

end Session

end CallFlow
