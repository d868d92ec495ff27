import CallFlow.Proofs.Session.Commits
import Mathlib.Data.List.DropRight

namespace CallFlow

/-- The lines of a commit: what the caller said, and what was said to the caller. -/
def Commit.lines (c : Commit) : List Line :=
  (match c.utterance with
    | some text => [⟨.caller, text⟩]
    | none => []) ++
  if c.result.response = "" then [] else [⟨.agent, c.result.response⟩]

/-- The lines of commits, in order. -/
def Commit.log (cs : List Commit) : List Line := cs.flatMap Commit.lines

namespace Moment

variable (settings : Settings)

/-- A step, with what it commits: the result of a walk that is over, if the caller is still on the
line. -/
inductive StepWith : Moment → List Commit → Moment → Prop where
  | start {s : Session} (h : s.status = .pending) :
    StepWith ⟨s, none⟩ []
      (begin settings { s with status := .active } none false settings.engine.hops)
  | input {s : Session} (text : String) (h : s.isActive) :
    StepWith ⟨s, none⟩ []
      (begin settings { s with status := .active } (some text) true settings.engine.hops)
  | hangUp (m : Moment) : StepWith m [] { m with session := m.session.hangUp }
  | reply (s : Session) (utterance : Option String) (byCaller : Bool) (left : Nat) {q : Query}
    (next : q.Reply → Dialogue Walk) (r : q.Reply) :
    StepWith ⟨s, some ⟨utterance, byCaller, left, .ask q next⟩⟩ []
      ⟨s, some ⟨utterance, byCaller, left, next r⟩⟩
  | arrive (s : Session) (utterance : Option String) (byCaller : Bool) (left : Nat) (w : Walk) :
    StepWith ⟨s, some ⟨utterance, byCaller, left, .done w⟩⟩
      (if s.isActive then [⟨utterance, w.result⟩] else [])
      (proceed settings byCaller w left (s.receive settings utterance w))

/-- Any number of steps, with what they commit in order. -/
inductive RunWith : Moment → List Commit → Moment → Prop where
  | refl (m : Moment) : RunWith m [] m
  | tail {m m' m'' : Moment} {cs ds : List Commit} (h : RunWith m cs m')
    (hstep : StepWith settings m' ds m'') : RunWith m (cs ++ ds) m''

variable {settings} {m m' m'' : Moment} {cs ds : List Commit}

/-- Every step commits something, or nothing. -/
theorem exists_stepWith (h : Step settings m m') : ∃ cs, StepWith settings m cs m' := by
  cases h with
  | start hpending => exact ⟨_, .start hpending⟩
  | input text hactive => exact ⟨_, .input text hactive⟩
  | hangUp => exact ⟨_, .hangUp m⟩
  | reply s utterance byCaller left next r => exact ⟨_, .reply s utterance byCaller left next r⟩
  | arrive s utterance byCaller left w => exact ⟨_, .arrive s utterance byCaller left w⟩

/-- Every run commits something, or nothing. -/
theorem exists_runWith (h : Run settings m m') : ∃ cs, RunWith settings m cs m' := by
  induction h with
  | refl => exact ⟨[], .refl m⟩
  | tail _ hstep ih =>
    obtain ⟨cs, hcs⟩ := ih
    obtain ⟨ds, hds⟩ := exists_stepWith hstep
    exact ⟨cs ++ ds, hcs.tail hds⟩

theorem StepWith.step (h : StepWith settings m cs m') : Step settings m m' := by
  cases h with
  | start hpending => exact .start hpending
  | input text hactive => exact .input text hactive
  | hangUp => exact .hangUp m
  | reply s utterance byCaller left next r => exact .reply s utterance byCaller left next r
  | arrive s utterance byCaller left w => exact .arrive s utterance byCaller left w

theorem RunWith.run (h : RunWith settings m cs m') : Run settings m m' := by
  induction h with
  | refl => exact .refl
  | tail _ hstep ih => exact ih.tail hstep.step

/-- Runs one after the other commit what each of them does. -/
theorem RunWith.trans (h : RunWith settings m cs m') (h' : RunWith settings m' ds m'') :
    RunWith settings m (cs ++ ds) m'' := by
  induction h' with
  | refl => exact (List.append_nil cs).symm ▸ h
  | tail _ hstep ih => exact List.append_assoc .. ▸ ih.tail hstep

/-- Going on leaves the memory alone. -/
theorem memory_proceed (byCaller : Bool) (w : Walk) (left : Nat) (s : Session) :
    (proceed settings byCaller w left s).session.memory = s.memory := by
  cases left with
  | zero => exact s.memory_conclude byCaller
  | succ left =>
    unfold proceed
    dsimp only
    split
    · rfl
    · exact s.memory_conclude byCaller

/-- A session remembers what it commits, and nothing else. -/
theorem StepWith.memory (h : StepWith settings m cs m') :
    m'.session.memory = (m.session.replay settings.engine cs).memory := by
  cases h with
  | start => rfl
  | input => rfl
  | hangUp => exact m.session.memory_hangUp
  | reply => rfl
  | arrive s utterance byCaller left w =>
    rw [memory_proceed, Session.receive]
    cases s.isActive <;> rfl

/-- The memory after a run is that of its commits, replayed. -/
theorem RunWith.memory (h : RunWith settings m cs m') :
    m'.session.memory = (m.session.replay settings.engine cs).memory := by
  induction h with
  | refl => rfl
  | tail _ hstep ih =>
    rw [hstep.memory, Session.replay_append]
    exact Session.memory_replay_congr ih settings.engine _

end Moment

namespace Session

variable {engine : EngineSettings} {s : Session}

/-- With a limit of zero everything is kept, else the last lines. -/
theorem keep_eq (hlimit : 0 ≤ engine.historyLimit) (ls : List Line) : keep engine ls =
    if engine.historyLimit = 0 then ls else ls.rtake engine.historyLimit.toNat := by
  unfold keep lastItems
  by_cases hzero : engine.historyLimit = 0
  · simp [hzero]
  · have hpos : engine.historyLimit > 0 := by omega
    by_cases hlong : (ls.length : Int) > engine.historyLimit
    · simp [hzero, hlong, hpos, List.rtake]
    · have hshort : ls.length - engine.historyLimit.toNat = 0 := by omega
      simp [hzero, hlong, List.rtake, hshort]

theorem rtake_rtake_append {α : Type} (before after : List α) (n : Nat) :
    (before.rtake n ++ after).rtake n = (before ++ after).rtake n := by
  simp only [List.rtake, ← List.drop_append_of_le_length (Nat.sub_le before.length n),
    List.drop_drop, List.length_drop, List.length_append]
  congr 1
  omega

/-- Dropping old lines early makes no difference. -/
theorem keep_keep_append (hlimit : 0 ≤ engine.historyLimit) (before after : List Line) :
    keep engine (keep engine before ++ after) = keep engine (before ++ after) := by
  simp only [keep_eq hlimit]
  split
  · rfl
  · exact rtake_rtake_append before after _

theorem lines_eq_newLines (c : Commit) : c.lines = newLines c.utterance c.result.response := by
  cases hutterance : c.utterance <;> simp [Commit.lines, newLines, hutterance]

/-- The lines after a replay are those of all commits, as far as they are kept. -/
theorem lines_replay (hlimit : 0 ≤ engine.historyLimit) {before : List Line}
    (h : s.lines = keep engine before) (cs : List Commit) :
    (s.replay engine cs).lines = keep engine (before ++ Commit.log cs) := by
  -- what a session has lost of the lines before is what the longer log loses anyway
  induction cs generalizing s before with
  | nil => simpa [Commit.log, replay] using h
  | cons c cs ih =>
    have hcommit : (s.commit engine c.utterance c.result).lines =
        keep engine (before ++ c.lines) := by
      rw [lines_commit, h, keep_keep_append hlimit, lines_eq_newLines]
    have hlog : before ++ Commit.log (c :: cs) = before ++ c.lines ++ Commit.log cs := by
      rw [List.append_assoc]
      rfl
    rw [replay_cons, ih hcommit, hlog]

/-- The caller speaks once in a commit, or not at all. -/
theorem countP_lines (c : Commit) :
    c.lines.countP (fun l => l.speaker = .caller) = if c.utterance.isSome then 1 else 0 := by
  obtain ⟨utterance, result⟩ := c
  unfold Commit.lines
  by_cases hresponse : result.response = "" <;> cases utterance <;> simp [hresponse]

/-- The turns that are counted are the lines of the caller. -/
theorem turnCount_replay (engine : EngineSettings) (s : Session) (cs : List Commit) :
    (s.replay engine cs).turnCount =
      s.turnCount + (Commit.log cs).countP fun l => l.speaker = .caller := by
  induction cs generalizing s with
  | nil => rfl
  | cons c cs ih =>
    have hlog : Commit.log (c :: cs) = c.lines ++ Commit.log cs := rfl
    rw [replay_cons, ih, turnCount_commit, hlog, List.countP_append, countP_lines, Nat.add_assoc]

end Session

section Limit

variable {settings : Settings} {limit : Int}

namespace Session

variable {s : Session}

@[simp] theorem flow_commit (engine : EngineSettings) (s : Session) (utterance : Option String)
    (r : TurnResult) : (s.commit engine utterance r).flow = s.flow := by
  unfold commit
  cases r.move.action <;> rfl

@[simp] theorem flow_hangUp (s : Session) : s.hangUp.flow = s.flow := by
  unfold hangUp
  split <;> rfl

@[simp] theorem flow_receive (settings : Settings) (s : Session) (utterance : Option String)
    (w : Walk) : (s.receive settings utterance w).flow = s.flow := by
  unfold receive
  split
  · exact flow_commit _ _ _ _
  · rfl

@[simp] theorem turnCount_hangUp (s : Session) : s.hangUp.turnCount = s.turnCount :=
  congrArg Memory.turnCount s.memory_hangUp

@[simp] theorem turnCount_conclude (s : Session) (byCaller : Bool) :
    (s.conclude byCaller).turnCount = s.turnCount :=
  congrArg Memory.turnCount (s.memory_conclude byCaller)

@[simp] theorem flow_conclude (s : Session) (byCaller : Bool) :
    (s.conclude byCaller).flow = s.flow := by
  unfold conclude limitTurns
  split
  · split
    · rfl
    · split <;> rfl
  · rfl

/-- A session that goes on after a turn of the caller has turns left. -/
theorem turnCount_lt_of_limitTurns (hlimit : s.flow.settings.maxTurns = some limit)
    (hpos : 0 < limit) (h : s.limitTurns.isActive) : (s.turnCount : Int) < limit := by
  unfold limitTurns at h
  rw [hlimit] at h
  dsimp only at h
  split at h
  · simp [isActive] at h
  · rename_i hnot
    simp only [h, Bool.true_and, ne_eq, Bool.and_eq_true, decide_eq_true_eq, not_and] at hnot
    have hne : limit ≠ 0 := by omega
    have := hnot hne
    omega

end Session

/-- The turn is the caller's, and it is counted already. -/
def Errand.isCounted (e : Errand) : Bool := e.byCaller && e.utterance.isNone

namespace Moment

/-- The caller's turns keep to a limit: a session that goes on has a turn left, unless its last one
is under way. -/
structure Within (limit : Int) (m : Moment) : Prop where
  maxTurns : m.session.flow.settings.maxTurns = some limit
  most : (m.session.turnCount : Int) ≤ limit
  spare : m.session.isActive → (∀ e ∈ m.errand, e.isCounted = false) →
    (m.session.turnCount : Int) < limit
  byCaller : ∀ e ∈ m.errand, e.utterance.isSome → e.byCaller

section Arrive

variable {s : Session} {byCaller : Bool} (hpos : 0 < limit)
  (hlimit : s.flow.settings.maxTurns = some limit) (hmost : (s.turnCount : Int) ≤ limit)

/-- An idle session within its turns is within the limit. -/
theorem within_idle {s : Session} (hlimit : s.flow.settings.maxTurns = some limit)
    (hmost : (s.turnCount : Int) ≤ limit) (hspare : s.isActive → (s.turnCount : Int) < limit) :
    Within limit ⟨s, none⟩ :=
  ⟨hlimit, hmost, fun hactive _ => hspare hactive, nofun⟩

include hpos hlimit hmost

/-- Going on stays within the limit. -/
theorem within_proceed
    (hspare : byCaller = false → s.isActive → (s.turnCount : Int) < limit) (w : Walk) (left : Nat) :
    Within limit (proceed settings byCaller w left s) := by
  have hidle : Within limit ⟨s.conclude byCaller, none⟩ := by
    refine within_idle (by simpa using hlimit) (by simpa using hmost) fun hactive => ?_
    rw [Session.turnCount_conclude]
    cases byCaller with
    | false => exact hspare rfl hactive
    | true => exact Session.turnCount_lt_of_limitTurns hlimit hpos hactive
  cases left with
  | zero => exact hidle
  | succ left =>
    unfold proceed
    dsimp only
    split
    · refine ⟨hlimit, hmost, fun hactive hcounted => hspare ?_ hactive, ?_⟩
      · simpa [Errand.isCounted] using hcounted _ rfl
      · rintro e ⟨⟩
        nofun
    · exact hidle

/-- Receiving a result stays within the limit. -/
theorem within_receive {utterance : Option String}
    (hspare : s.isActive → (byCaller && utterance.isNone) = false → (s.turnCount : Int) < limit)
    (hbyCaller : utterance.isSome → byCaller) (w : Walk) (left : Nat) :
    Within limit (proceed settings byCaller w left (s.receive settings utterance w)) := by
  cases hactive : s.isActive with
  | false =>
    rw [Session.receive_of_closed hactive, Session.proceed_of_closed hactive]
    exact within_idle hlimit hmost fun h => by simp [hactive] at h
  | true =>
    have hcount := Session.turnCount_commit settings.engine s utterance w.result
    rw [Session.receive, if_pos hactive]
    apply within_proceed hpos (by simpa using hlimit)
    · -- only a walk that the caller's words began adds to the count
      cases utterance with
      | none => simpa [hcount] using hmost
      | some text =>
        have hlt := hspare hactive (Bool.and_false byCaller)
        simp [hcount]
        omega
    · -- a walk of another's has no words of the caller, so the count stays
      rintro rfl -
      obtain rfl : utterance = none := by simpa using hbyCaller
      simpa [hcount] using hspare hactive rfl

end Arrive

/-- Every step stays within the limit. -/
theorem Step.within {m m' : Moment} (h : Step settings m m') (hpos : 0 < limit)
    (hwithin : m.Within limit) : m'.Within limit := by
  obtain ⟨hlimit, hmost, hspare, hbyCaller⟩ := hwithin
  cases h with
  | start hpending =>
    have hlt := hspare (by simp [Session.isActive, hpending]) nofun
    refine ⟨hlimit, hmost, fun _ _ => hlt, ?_⟩
    rintro e ⟨⟩ hsome
    cases hsome
  | input text hactive =>
    have hlt := hspare hactive nofun
    exact ⟨hlimit, hmost, fun _ _ => hlt, by rintro e ⟨⟩ _; rfl⟩
  | hangUp =>
    refine ⟨by simpa using hlimit, by simpa using hmost, fun hactive => ?_, hbyCaller⟩
    simp [Session.isActive_hangUp] at hactive
  | reply s utterance byCaller left next r =>
    refine ⟨hlimit, hmost, fun hactive hcounted => hspare hactive ?_, ?_⟩
    · rintro e ⟨⟩
      exact hcounted ⟨utterance, byCaller, left, next r⟩ rfl
    · rintro e ⟨⟩
      exact hbyCaller ⟨utterance, byCaller, left, .ask _ next⟩ rfl
  | arrive s utterance byCaller left w =>
    refine within_receive hpos hlimit hmost (fun hactive hcounted => ?_) (hbyCaller _ rfl) w left
    refine hspare hactive ?_
    rintro e ⟨⟩
    exact hcounted

theorem Run.within {m m' : Moment} (h : Run settings m m') (hpos : 0 < limit)
    (hwithin : m.Within limit) : m'.Within limit := by
  induction h with
  | refl => exact hwithin
  | tail _ hstep ih => exact hstep.within hpos ih

end Moment

end Limit

namespace Session

open Moment

/-- Along every run of a session, its lines are the last of the log, and its turns are the caller's
lines in the log. Calls to begin and to take what the caller says are such runs, in which the caller
may hang up at any moment. The caller's turns keep to the limit of the flow, and a session that
waits for the caller has one left. -/
theorem runs_keep_log {settings : Settings} (hlimit : 0 ≤ settings.engine.historyLimit)
    (id : String) (flow : Flow) (bindings : Bindings) :
    (∀ s, (start settings s).Always fun o => ∃ cs, RunWith settings ⟨s, none⟩ cs ⟨o.2, none⟩) ∧
    (∀ s text, (input settings s text).Always fun o =>
      ∃ cs, RunWith settings ⟨s, none⟩ cs ⟨o.2, none⟩) ∧
    ∀ cs m, RunWith settings ⟨Session.new id flow bindings, none⟩ cs m →
      m.session.lines =
        (if settings.engine.historyLimit = 0 then Commit.log cs
          else (Commit.log cs).rtake settings.engine.historyLimit.toNat) ∧
      m.session.turnCount = (Commit.log cs).countP (fun l => l.speaker = .caller) ∧
      ∀ limit, flow.settings.maxTurns = some limit → 0 < limit →
        (m.session.turnCount : Int) ≤ limit ∧
        (m.errand = none → m.session.isActive → (m.session.turnCount : Int) < limit) := by
  refine ⟨fun s => s.start_run.mono fun o => exists_runWith,
    fun s text => (s.input_run text).mono fun o => exists_runWith, fun cs m h => ?_⟩
  have hmemory := h.memory
  refine ⟨?_, ?_, fun limit hmax hpos => ?_⟩
  · have hempty : (Session.new id flow bindings).lines = keep settings.engine [] := by
      simp [Session.new, keep_eq hlimit, List.rtake]
    rw [← keep_eq hlimit]
    exact (congrArg Memory.lines hmemory).trans (lines_replay hlimit hempty cs)
  · have hcount := turnCount_replay settings.engine (Session.new id flow bindings) cs
    exact (congrArg Memory.turnCount hmemory).trans (hcount.trans (Nat.zero_add _))
  · have hnew : Within limit ⟨Session.new id flow bindings, none⟩ :=
      within_idle hmax (Int.le_of_lt hpos) fun _ => hpos
    have hwithin := h.run.within hpos hnew
    exact ⟨hwithin.most, fun hidle hactive => hwithin.spare hactive (by simp [hidle])⟩

private def shortFlow : Flow where
  nodes :=
    [{ id := "begin", config := .start { speaksFirst := false } },
     { id := "ask"
       config := .conversation { content := { mode := .fixed, text := "What is your name?" } } }]
  edges := [{ source := "begin", target := "ask" }]
  settings := { maxTurns := some 1 }

private def shortSettings : Settings := { engine := { historyLimit := 2 } }

private def shortCall : Session := Session.new "call" shortFlow []

/-- The call after the caller gave a name, which is one turn and so the last. -/
private def shortCallNamed : Session :=
  let (_, started) := ((shortCall.start shortSettings).run {}).1
  ((started.input shortSettings "Ann").run {}).1.2

/-- Three lines were said, of which two are kept. -/
theorem shortCall_keeps_log :
    0 ≤ shortSettings.engine.historyLimit ∧ shortFlow.settings.maxTurns = some 1 ∧
      ∃ cs, RunWith shortSettings ⟨shortCall, none⟩ cs ⟨shortCallNamed, none⟩ ∧
        shortCallNamed.lines = (Commit.log cs).rtake 2 ∧
        shortCallNamed.lines = [⟨.caller, "Ann"⟩, ⟨.agent, "What is your name?"⟩] ∧
        shortCallNamed.turnCount = (Commit.log cs).countP (fun l => l.speaker = .caller) ∧
        (shortCallNamed.turnCount : Int) ≤ 1 ∧ shortCallNamed.status = .ended := by
  have hlimit : 0 ≤ shortSettings.engine.historyLimit := by decide
  obtain ⟨hstart, hinput, hruns⟩ := runs_keep_log hlimit "call" shortFlow []
  obtain ⟨cs, hcs⟩ := (hstart shortCall).run {}
  obtain ⟨ds, hds⟩ := (hinput ((shortCall.start shortSettings).run {}).1.2 "Ann").run {}
  have hrun : RunWith shortSettings ⟨shortCall, none⟩ (cs ++ ds) ⟨shortCallNamed, none⟩ :=
    hcs.trans hds
  obtain ⟨hlines, hcount, hturns⟩ := hruns _ _ hrun
  exact ⟨hlimit, rfl, _, hrun, hlines, by decide +kernel, hcount, (hturns 1 rfl Int.one_pos).1,
    by decide +kernel⟩

end Session

end CallFlow
