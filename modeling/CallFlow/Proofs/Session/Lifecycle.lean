import CallFlow.Proofs.Session.Moments
import CallFlow.Proofs.Template.Filled
import CallFlow.Proofs.Turn.Walk

namespace CallFlow

open Relation

namespace SessionStatus

/-- How a status can change at one moment. -/
inductive Moves : SessionStatus → SessionStatus → Prop where
  | begin : Moves .pending .active
  | leave : Moves .pending .hungUp
  | finish : Moves .active .ended
  | transfer : Moves .active .transferred
  | hangUp : Moves .active .hungUp

/-- The statuses of sessions that are over. -/
def closed : List SessionStatus := [.ended, .transferred, .hungUp]

variable {a b : SessionStatus}

/-- No move leads back to a call that has not begun. -/
theorem ne_pending_of_moves (h : ReflGen Moves a b) (ha : a ≠ .pending) : b ≠ .pending := by
  cases h with
  | refl => exact ha
  | single hmoves => cases hmoves <;> nofun

end SessionStatus

open SessionStatus

/-- The status of an active session after an action. -/
def TurnAction.status : TurnAction → SessionStatus
  | speak | gather => .active
  | finish => .ended
  | transfer => .transferred

namespace Session

variable {settings : Settings} {s : Session} {utterance : Option String} {w : Walk}

/-- A call is closed exactly if its status is. -/
theorem isActive_eq_false_iff : s.isActive = false ↔ s.status ∈ SessionStatus.closed := by
  cases hstatus : s.status <;> simp [isActive, hstatus, SessionStatus.closed]

theorem status_eq_active (h : s.isActive) (hpending : s.status ≠ .pending) :
    s.status = .active := by
  simpa [isActive, hpending] using h

section Closed

variable (h : s.isActive = false)
include h

/-- A closed session receives nothing. -/
theorem receive_of_closed : s.receive settings utterance w = s := by simp [receive, h]

theorem conclude_of_closed (byCaller : Bool) : s.conclude byCaller = s := by
  simp only [conclude, limitTurns, h, Bool.false_and]
  split
  · split <;> rfl
  · rfl

/-- A closed session does not go on. -/
theorem proceed_of_closed (byCaller : Bool) (left : Nat) :
    Moment.proceed settings byCaller w left s = ⟨s, none⟩ := by
  cases left <;> simp [Moment.proceed, isSilentAdvance, h, conclude_of_closed h]

end Closed

/-- Hanging up is a move, or none. -/
theorem hangUp_moves (s : Session) : ReflGen Moves s.status s.hangUp.status := by
  unfold hangUp
  split
  · rename_i hactive
    by_cases hpending : s.status = .pending
    · exact .single (hpending ▸ .leave)
    · exact .single (status_eq_active hactive hpending ▸ .hangUp)
  · exact .refl

/-- What is done at the end of a turn decides on the status. -/
theorem status_commit (hactive : s.status = .active) (engine : EngineSettings)
    (utterance : Option String) (r : TurnResult) :
    (s.commit engine utterance r).status = r.move.action.status := by
  unfold commit
  cases r.move.action <;> simp [hactive, TurnAction.status]

/-- At the end of a turn a session that is active may run out of turns. -/
theorem conclude_moves (hpending : s.status ≠ .pending) (byCaller : Bool) :
    ReflGen Moves s.status (s.conclude byCaller).status := by
  unfold conclude limitTurns
  split
  · split
    · exact .refl
    · split
      · rename_i hover
        have hactive : s.isActive := by simp_all
        exact .single (status_eq_active hactive hpending ▸ .finish)
      · exact .refl
  · exact .refl

/-- Going on is a move, or none. -/
theorem proceed_moves (hpending : s.status ≠ .pending) (byCaller : Bool) (left : Nat) :
    ReflGen Moves s.status (Moment.proceed settings byCaller w left s).session.status := by
  cases left with
  | zero => exact conclude_moves hpending byCaller
  | succ left =>
    unfold Moment.proceed
    dsimp only
    split
    · exact .refl
    · exact conclude_moves hpending byCaller

/-- A result that ends the call leaves nothing for the rest of the turn to change. -/
theorem receive_moves (hpending : s.status ≠ .pending) (byCaller : Bool) (left : Nat) :
    ReflGen Moves s.status (Moment.proceed settings byCaller w left
      (s.receive settings utterance w)).session.status := by
  cases hactive : s.isActive with
  | false =>
    rw [receive_of_closed hactive, proceed_of_closed hactive]
  | true =>
    have hstatus := status_eq_active hactive hpending
    have hcommit := status_commit hstatus settings.engine utterance w.result
    rw [receive, if_pos hactive, hstatus]
    -- Only a result that lets the call go on leaves it to the end of the turn to change the status.
    generalize s.commit settings.engine utterance w.result = after at hcommit ⊢
    cases hmove : w.result.move.action with
    | speak | gather =>
      have hafter : after.status = .active := by rw [hcommit, hmove]; rfl
      rw [← hafter]
      exact proceed_moves (by simp [hafter]) byCaller left
    | finish =>
      have hafter : after.status = .ended := by rw [hcommit, hmove]; rfl
      rw [proceed_of_closed (by simp [isActive, hafter]), hafter]
      exact .single .finish
    | transfer =>
      have hafter : after.status = .transferred := by rw [hcommit, hmove]; rfl
      rw [proceed_of_closed (by simp [isActive, hafter]), hafter]
      exact .single .transfer

end Session

namespace Moment

variable {settings : Settings} {m m' : Moment}

/-- A walk is under way only in a session that was begun. -/
def Sound (m : Moment) : Prop := m.errand.isSome → m.session.status ≠ .pending

/-- Every step is a move, or none. -/
theorem Step.moves (h : Step settings m m') (hsound : m.Sound) :
    ReflGen Moves m.session.status m'.session.status := by
  cases h with
  | start hpending => exact .single (hpending ▸ .begin)
  | @input s text hactive =>
    by_cases hpending : s.status = .pending
    · exact .single (hpending ▸ .begin)
    · rw [Session.status_eq_active hactive hpending]
      exact .refl
  | hangUp => exact m.session.hangUp_moves
  | reply => exact .refl
  | arrive s utterance byCaller left w => exact Session.receive_moves (hsound rfl) byCaller left

/-- Every step keeps a moment sound. -/
theorem Step.sound (h : Step settings m m') (hsound : m.Sound) : m'.Sound := by
  have hmoves := h.moves hsound
  cases h with
  | start => exact fun _ => nofun
  | input => exact fun _ => nofun
  | hangUp => exact fun herrand => ne_pending_of_moves hmoves (hsound herrand)
  | reply => exact fun _ => hsound rfl
  | arrive => exact fun _ => ne_pending_of_moves hmoves (hsound rfl)

/-- Nothing that can come next changes a session that is closed. -/
theorem Step.session_eq (h : Step settings m m') (hclosed : m.session.isActive = false) :
    m'.session = m.session := by
  cases h with
  | start hpending => simp [Session.isActive, hpending] at hclosed
  | input text hactive => cases hactive.symm.trans hclosed
  | hangUp => exact Session.hangUp_of_closed hclosed
  | reply => rfl
  | arrive s utterance byCaller left w =>
    rw [Session.receive_of_closed hclosed, Session.proceed_of_closed hclosed]

theorem Run.sound (h : Run settings m m') (hsound : m.Sound) : m'.Sound := by
  induction h with
  | refl => exact hsound
  | tail _ hstep ih => exact hstep.sound ih

/-- A closed session stays as it is. -/
theorem Run.session_eq (h : Run settings m m') (hclosed : m.session.isActive = false) :
    m'.session = m.session := by
  induction h with
  | refl => rfl
  | tail _ hstep ih => exact (hstep.session_eq (ih ▸ hclosed)).trans ih

end Moment

namespace Session

open Moment

/-- Calls to begin and to take what the caller says are runs, in which the caller may hang up at any
moment. Along every run the status moves one way, and a session that is closed stays exactly as it
is and refuses both calls. -/
theorem runs_close_for_good (settings : Settings) (s : Session) :
    ((s.start settings).Always fun o => Run settings ⟨s, none⟩ ⟨o.2, none⟩) ∧
    (∀ text, (s.input settings text).Always fun o => Run settings ⟨s, none⟩ ⟨o.2, none⟩) ∧
    ∀ m m', Run settings ⟨s, none⟩ m →
      (Moment.Step settings m m' → ReflGen Moves m.session.status m'.session.status) ∧
      (m.session.status ∈ closed → Run settings m m' →
        m'.session = m.session ∧
        m'.session.start settings = .done (.error (.alreadyStarted m.session.id), m.session) ∧
        ∀ text, m'.session.input settings text =
          .done (.error (.inactive m.session.id m.session.status), m.session)) := by
  refine ⟨s.start_run, s.input_run, fun m m' hrun => ⟨fun hstep => ?_, fun hclosed hlater => ?_⟩⟩
  · exact hstep.moves (hrun.sound nofun)
  · have hinactive := isActive_eq_false_iff.2 hclosed
    have hsame := hlater.session_eq hinactive
    have hbegun : m.session.status ≠ .pending := by
      intro hpending
      simp [hpending, SessionStatus.closed] at hclosed
    rw [hsame]
    exact ⟨rfl, start_of_begun hbegun, input_of_closed hinactive⟩

private def hotelStart : Node where
  id := "begin"
  config := .start { greeting := some { text := "Hotel, hello!" } }

private def hotelFlow : Flow where
  nodes :=
    [hotelStart, { id := "ask", config := .conversation { content := { mode := .fixed } } }]
  edges := [{ source := "begin", target := "ask" }]

private def hotelCall : Session := { Session.new "call" hotelFlow [] with status := .active }

private def hotelGreeting : Walk := ⟨⟨"Hotel, hello!", .gather "ask", []⟩, ["begin"], .replied⟩

/-- The caller hangs up before the greeting, which comes to nothing. -/
theorem hotelCall_closes_for_good :
    let hung : Moment := { begin {} hotelCall none false 25 with session := hotelCall.hangUp }
    let last : Moment := ⟨hotelCall.hangUp, none⟩
    (Run {} ⟨Session.new "call" hotelFlow [], none⟩ hung ∧ Moment.Step {} hung last ∧
      ReflGen Moves hung.session.status last.session.status) ∧
    (hung.session.status ∈ SessionStatus.closed ∧ Run {} hung last ∧
      last.session.start {} = .done (.error (.alreadyStarted "call"), hotelCall.hangUp) ∧
      last.session.input {} "Hello?" =
        .done (.error (.inactive "call" .hungUp), hotelCall.hangUp)) := by
  intro hung last
  have hrun : Run {} ⟨Session.new "call" hotelFlow [], none⟩ hung :=
    .tail (.single (.start rfl)) (.hangUp (begin {} hotelCall none false 25))
  have hwalk : hotelCall.walk {} none = .done hotelGreeting := by
    have hspeech : Turn.onTheWay (some { text := "Hotel, hello!" }) [] (some "ask") =
        Turn.withText (Template.render "Hotel, hello!" [])
          fun text => Turn.saying text (some "ask") := rfl
    rw [Template.render_of_not_mem (by decide) []] at hspeech
    have hgreets : (hotelCall.turn {} none).runNode hotelStart [] =
        .done (.reply "Hotel, hello!" (.gather "ask"), []) :=
      congrArg (fun step => Dialogue.done (step, [])) hspeech
    rw [walk, Turn.run, Turn.walk_node (n := hotelStart) _ rfl]
    exact congrArg (Dialogue.bind · _) hgreets
  have hstep : Moment.Step {} hung last := by
    have harrives : Moment.Step {}
        ⟨hotelCall.hangUp, some ⟨none, false, 25, .done hotelGreeting⟩⟩ last :=
      .arrive hotelCall.hangUp none false 25 hotelGreeting
    rw [← hwalk] at harrives
    exact harrives
  have hclosed : hung.session.status ∈ SessionStatus.closed := by decide
  obtain ⟨-, -, hruns⟩ := runs_close_for_good {} (Session.new "call" hotelFlow [])
  obtain ⟨hmoves, hfrozen⟩ := hruns hung last hrun
  obtain ⟨-, hstart, hinput⟩ := hfrozen hclosed (.single hstep)
  exact ⟨⟨hrun, hstep, hmoves hstep⟩, hclosed, .single hstep, hstart, hinput "Hello?"⟩

end Session

end CallFlow
