import CallFlow.Proofs.Decimal.Bits
import CallFlow.Proofs.Dialogue.Ensures
import CallFlow.Sandbox.Run

namespace CallFlow

/-- An amount that is a number, and not an infinite one. -/
def Amount.IsFinite : Amount → Prop
  | whole _ => True
  | real x => x.isNaN = false ∧ x.isInf = false

/-- Bounds that stay within those in force. -/
structure Limits.AtMost (l : Limits) (hard : HardLimits) : Prop where
  cpu : ∀ h, hard.cpu = some h → l.cpu ≤ h
  memory : ∀ h, hard.memory = some h → l.memory ≤ h

/-- A bound gives way to the one in force. -/
theorem Limits.cap_le {wanted h : Int} {hard : Option Int} (heq : hard = some h) :
    cap wanted hard ≤ h := by
  rw [heq]
  exact min_le_right _ _

/-- The bounds of a job are within those in force. -/
theorem Limits.atMost_within (wanted : Limits) (hard : HardLimits) :
    (wanted.within hard).AtMost hard :=
  ⟨fun _ => cap_le, fun _ => cap_le⟩

namespace Sandbox

open Dialogue

/-- A child ends in time and has written JSON for an object whose `ok` is true in a condition;
this is its result. -/
def Delivers (limit : Amount) (reply : JobReply) (v : Value) : Prop :=
  ∃ output exitCode complaint, reply.outcome = .ended output exitCode complaint ∧
    limit.isOver = false ∧
    ∃ (text : String) (members : Bindings), Text.strict? (Text.Utf8.decode output) = some text ∧
      Json.read text = .ok (.object members) ∧ (members.getD "ok").isTruthy = true ∧
      members.getD "result" = v

/-- A child that was started still runs when its time is over. -/
def Overdue (limit : Amount) (reply : JobReply) : Prop :=
  reply.outcome = .running ∨
    limit.isOver = true ∧ ∀ message, reply.outcome ≠ .unstarted message

/-- A reply delivers one value. -/
theorem Delivers.unique {limit : Amount} {reply : JobReply} {v w : Value}
    (hv : Delivers limit reply v) (hw : Delivers limit reply w) : v = w := by
  obtain ⟨_, _, _, hended, -, _, _, htext, hread, -, rfl⟩ := hv
  obtain ⟨_, _, _, hended', -, _, _, htext', hread', -, rfl⟩ := hw
  cases hended.symm.trans hended'
  cases htext.symm.trans htext'
  cases hread.symm.trans hread'
  rfl

section Prepare

variable {s : FunctionSettings} {source : String} {inputs : Bindings} {limit : Amount}
  {reader : Snippet.Reader}

/-- The seconds of computing are known exactly for a finite limit. -/
theorem exists_cpuSeconds_iff : (∃ cpu, cpuSeconds limit = .ok cpu) ↔ limit.IsFinite := by
  cases limit with
  | whole i => exact ⟨fun _ => trivial, fun _ => ⟨max 1 i, rfl⟩⟩
  | real x =>
    have hfinite : (Amount.real x).IsFinite ↔ Decimal.decode? x ≠ none := by
      rw [ne_eq, Decimal.decode?_eq_none_iff, not_or, Bool.not_eq_true, Bool.not_eq_true, and_comm]
      rfl
    rw [hfinite, cpuSeconds, Decimal.ceil?]
    cases Decimal.decode? x with
    | none => simp
    | some parts => simp

/-- There is a job exactly for a snippet that passes the check, inputs that can be written and a
limit that is finite. -/
theorem exists_prepare_iff : (∃ job, prepare s source inputs limit reader = .ok job) ↔
    Snippet.check source reader = .ok () ∧ areWritable inputs = true ∧ limit.IsFinite := by
  rw [← exists_cpuSeconds_iff, prepare, limits]
  generalize Snippet.check source reader = checked
  cases checked with
  | error r => exact ⟨fun ⟨_, h⟩ => (by cases h), fun h => (by cases h.1)⟩
  | ok _ =>
    by_cases hinputs : areWritable inputs = true
    · rw [if_pos hinputs]
      cases cpuSeconds limit with
      | error e => exact ⟨fun ⟨_, h⟩ => (by cases h), fun h => (by obtain ⟨_, h⟩ := h.2.2; cases h)⟩
      | ok cpu => exact ⟨fun _ => ⟨rfl, hinputs, cpu, rfl⟩, fun _ => ⟨_, rfl⟩⟩
    · rw [if_neg hinputs]
      exact ⟨fun ⟨_, h⟩ => (by cases h), fun h => absurd h.2.1 hinputs⟩

end Prepare

/-- An answer is the result of a snippet that says that it went well. -/
theorem answer_eq_ok_iff {members : Bindings} {v : Value} :
    answer members = .ok v ↔ (members.getD "ok").isTruthy = true ∧ members.getD "result" = v := by
  rw [answer]
  split
  · rename_i hok
    simp [hok]
  · rename_i hok
    simp [hok]

/-- A result is read off an output that is JSON and says that it went well. -/
theorem result_eq_ok_iff {output complaint : List UInt8} {exitCode : Int} {v : Value} :
    result output exitCode complaint = .ok v ↔
      ∃ (text : String) (members : Bindings), Text.strict? (Text.Utf8.decode output) = some text ∧
        Json.read text = .ok (.object members) ∧ (members.getD "ok").isTruthy = true ∧
        members.getD "result" = v := by
  rw [result]
  split
  · rename_i hempty
    obtain rfl := List.isEmpty_iff.1 hempty
    refine ⟨nofun, ?_⟩
    rintro ⟨text, members, htext, hread, -⟩
    cases htext
    cases hread
  · cases htext : Text.strict? (Text.Utf8.decode output) with
    | none => simp
    | some text =>
      simp only [Option.map_some, Option.some.injEq, ↓existsAndEq, true_and]
      cases hread : Json.read text with
      | error e => simp
      | ok data => cases data <;> simp [answer_eq_ok_iff]

/-- Running a job asks for a child and stops it when it is overdue. -/
theorem runJob_ensures (job : Job) (limit : Amount) :
    (runJob job limit).Ensures fun es answer => ∃ reply,
      (Overdue limit reply ∧ es = [⟨.code job, reply⟩, ⟨.kill, ()⟩] ∨
        ¬Overdue limit reply ∧ es = [⟨.code job, reply⟩]) ∧
      ∀ v, answer = .ok v ↔ Delivers limit reply v := by
  refine ensures_ask fun reply => ?_
  obtain ⟨hard, outcome⟩ := reply
  cases outcome with
  | unstarted message =>
    refine ensures_done ⟨_, Or.inr ⟨?_, rfl⟩, fun v => ⟨nofun, ?_⟩⟩
    · rintro (h | ⟨-, h⟩)
      · cases h
      · exact h message rfl
    · rintro ⟨_, _, _, h, -⟩
      cases h
  | running =>
    refine ensures_ask fun _ => ensures_done ⟨_, Or.inl ⟨Or.inl rfl, rfl⟩, fun v => ⟨nofun, ?_⟩⟩
    rintro ⟨_, _, _, h, -⟩
    cases h
  | ended output exitCode complaint =>
    dsimp only [Dialogue.bind]
    cases hover : limit.isOver with
    | false =>
      refine ensures_done ⟨_, Or.inr ⟨?_, rfl⟩, fun v => ?_⟩
      · rintro (h | ⟨h, -⟩)
        · cases h
        · cases hover.symm.trans h
      · rw [result_eq_ok_iff]
        constructor
        · exact fun h => ⟨output, exitCode, complaint, rfl, hover, h⟩
        · rintro ⟨_, _, _, hended, -, h⟩
          cases hended
          exact h
    | true =>
      have hoverdue : Overdue limit ⟨hard, .ended output exitCode complaint⟩ :=
        Or.inr ⟨hover, fun _ => nofun⟩
      refine ensures_ask fun _ => ensures_done ⟨_, Or.inl ⟨hoverdue, rfl⟩, fun v => ⟨nofun, ?_⟩⟩
      rintro ⟨_, _, _, -, h, -⟩
      cases hover.symm.trans h

section Run

variable {s : FunctionSettings} {source : String} {inputs : Bindings} {timeout : Option Amount}
  {reader : Snippet.Reader}

/-- A snippet that can not be prepared is null, and no child is started for it. -/
theorem run_of_failure {e : Failure}
    (h : prepare s source inputs (Amount.orElse timeout s.codeTimeout) reader = .error e) :
    run s source inputs timeout reader = .done .null := by
  delta run execute
  rw [h]
  rfl

/-- A prepared snippet is run once, and killed if it is overdue. -/
theorem run_ensures {job : Job}
    (h : prepare s source inputs (Amount.orElse timeout s.codeTimeout) reader = .ok job) :
    (run s source inputs timeout reader).Ensures fun es v => ∃ reply,
      (Overdue (Amount.orElse timeout s.codeTimeout) reply ∧
          es = [⟨.code job, reply⟩, ⟨.kill, ()⟩] ∨
        ¬Overdue (Amount.orElse timeout s.codeTimeout) reply ∧ es = [⟨.code job, reply⟩]) ∧
      (∀ w, Delivers (Amount.orElse timeout s.codeTimeout) reply w → v = w) ∧
      ((∀ w, ¬Delivers (Amount.orElse timeout s.codeTimeout) reply w) → v = .null) := by
  delta run execute
  rw [h]
  refine (runJob_ensures job _).bind fun es answer ⟨reply, hes, hanswer⟩ => ?_
  cases answer with
  | ok v =>
    refine ensures_done ?_
    rw [List.append_nil]
    have hv := (hanswer v).1 rfl
    exact ⟨reply, hes, fun w hw => hv.unique hw, fun hnone => absurd hv (hnone v)⟩
  | error e =>
    refine ensures_done ?_
    rw [List.append_nil]
    refine ⟨reply, hes, fun w hw => ?_, fun _ => rfl⟩
    cases (hanswer w).2 hw

/-- Whatever a child does, the run comes to a value. -/
theorem exists_transcript {job : Job}
    (h : prepare s source inputs (Amount.orElse timeout s.codeTimeout) reader = .ok job)
    (reply : JobReply) : ∃ es v,
      (run s source inputs timeout reader).Transcript (⟨.code job, reply⟩ :: es) v := by
  obtain ⟨next, hnext⟩ : ∃ next, run s source inputs timeout reader = .ask (.code job) next := by
    delta run execute
    rw [h]
    exact ⟨_, rfl⟩
  obtain ⟨es, hes⟩ := exists_transcript_run (next reply) {}
  rw [hnext]
  exact ⟨es, _, Transcript.ask (q := .code job) reply hes⟩

end Run

/-- A child is asked for with a job, and this is its course. -/
def Starts (es : List Exchange) (job : Job) (reply : JobReply) : Prop :=
  (⟨.code job, reply⟩ : Exchange) ∈ es

/-- One job is started, and it is the prepared one. -/
theorem Starts.eq {es : List Exchange} {job job' : Job} {reply reply' : JobReply} {P Q : Prop}
    (h : Starts es job' reply')
    (hes : P ∧ es = [⟨.code job, reply⟩, ⟨.kill, ()⟩] ∨ Q ∧ es = [⟨.code job, reply⟩]) :
    job' = job ∧ reply' = reply := by
  have hmem : (⟨.code job', reply'⟩ : Exchange) = ⟨.code job, reply⟩ := by
    obtain ⟨-, rfl⟩ | ⟨-, rfl⟩ := hes
    · rcases List.mem_cons.1 h with heq | hkill
      · exact heq
      · cases List.mem_singleton.1 hkill
    · exact List.mem_singleton.1 h
  cases hmem
  exact ⟨rfl, rfl⟩

/-- Running a snippet is total. Whatever a child does, there is a value that the run comes to, and
it comes to no other end. A child is asked for exactly when the snippet passes the check, the
inputs can be written and the limit is finite. The value is the result that the child delivers,
and null when none does; an output that is nested too deep to be read delivers none. A child that
is overdue is stopped, and the bounds that are set for a child are within those in force. Whatever
reads the snippet for the check, all this holds. -/
theorem run_total (s : FunctionSettings) (source : String) (inputs : Bindings)
    (timeout : Option Amount) (reader : Snippet.Reader) :
    let limit := Amount.orElse timeout s.codeTimeout
    (∀ reply, ∃ es v, (run s source inputs timeout reader).Transcript es v ∧
      ∀ job reply', Starts es job reply' → reply' = reply) ∧
    (run s source inputs timeout reader).Ensures fun es v =>
      ((∃ job reply, Starts es job reply) ↔ Snippet.check source reader = .ok () ∧
        areWritable inputs = true ∧ limit.IsFinite) ∧
      (∀ job reply w, Starts es job reply → Delivers limit reply w → v = w) ∧
      ((∀ job reply w, Starts es job reply → ¬Delivers limit reply w) → v = .null) ∧
      ∀ job reply, Starts es job reply →
        (Overdue limit reply → es = [⟨.code job, reply⟩, ⟨.kill, ()⟩]) ∧
        (¬Overdue limit reply → es = [⟨.code job, reply⟩]) ∧
        (job.limits.within reply.hard).AtMost reply.hard := by
  intro limit
  rw [← exists_prepare_iff (s := s)]
  cases hprepare : prepare s source inputs limit reader with
  | error e =>
    rw [run_of_failure hprepare]
    have hnone (job : Job) (reply : JobReply) : ¬Starts [] job reply := List.not_mem_nil
    refine ⟨fun reply => ⟨[], .null, .done _, fun job reply' h => absurd h (hnone _ _)⟩, ?_⟩
    refine ensures_done ⟨⟨?_, nofun⟩, fun job reply w h => absurd h (hnone _ _), fun _ => rfl,
      fun job reply h => absurd h (hnone _ _)⟩
    rintro ⟨job, reply, h⟩
    exact absurd h (hnone _ _)
  | ok job =>
    refine ⟨fun reply => ?_, (run_ensures hprepare).mono ?_⟩
    · obtain ⟨es, v, htranscript⟩ := exists_transcript hprepare reply
      obtain ⟨reply', hes, -⟩ := run_ensures hprepare _ v htranscript
      have hreply : reply = reply' := (Starts.eq List.mem_cons_self hes).2
      exact ⟨_, v, htranscript, fun job' reply'' h => (h.eq hes).2.trans hreply.symm⟩
    · rintro es v ⟨reply, hes, hresult, hnull⟩
      have hstarts : Starts es job reply := by
        obtain ⟨-, rfl⟩ | ⟨-, rfl⟩ := hes <;> exact List.mem_cons_self
      refine ⟨⟨fun _ => ⟨job, rfl⟩, fun _ => ⟨job, reply, hstarts⟩⟩, ?_, ?_, ?_⟩
      · intro job' reply' w h hdelivers
        obtain ⟨-, rfl⟩ := h.eq hes
        exact hresult w hdelivers
      · exact fun hnone => hnull fun w => hnone job reply w hstarts
      · intro job' reply' h
        obtain ⟨rfl, rfl⟩ := h.eq hes
        refine ⟨fun hoverdue => ?_, fun hoverdue => ?_, Limits.atMost_within _ _⟩
        · exact hes.elim And.right fun h => absurd hoverdue h.1
        · exact hes.elim (fun h => absurd h.1 hoverdue) And.right

private def increment : String := "return inputs['n'] + 1"

/-- What a child writes for a result of three. -/
private def three : List UInt8 := "\x7b\"ok\": true, \"result\": 3\x7d".toUTF8.toList

/-- The run of a snippet comes to the sum that a child delivers, and to null for a child that goes
on for too long. -/
theorem run_total_increment :
    (∃ es v, (run {} increment [("n", .int 2)] (some (.whole 3))).Transcript es v ∧
      Json.write v = "3") ∧
    ∃ es job reply, (run {} increment [("n", .int 2)] (some (.whole 3))).Transcript es .null ∧
      es = [⟨.code job, reply⟩, ⟨.kill, ()⟩] := by
  obtain ⟨hcourse, hensures⟩ := run_total {} increment [("n", .int 2)] (some (.whole 3))
    Snippet.parse?
  have hpasses : Snippet.check increment = .ok () ∧
      areWritable [("n", .int 2)] = true ∧
      (Amount.orElse (some (.whole 3)) (.real 2)).IsFinite :=
    ⟨by decide +kernel, by decide +kernel, trivial⟩
  constructor
  · have hshown : (result three 0 []).toOption.map Json.write = some "3" := by decide +kernel
    obtain ⟨w, hresult, hdisplay⟩ := Option.map_eq_some_iff.1 hshown
    have hok : result three 0 [] = .ok w := by
      generalize result three 0 [] = answer at hresult
      cases answer with
      | ok v => exact congrArg Except.ok (Option.some.inj hresult)
      | error e => cases hresult
    have hdelivers : Delivers (Amount.orElse (some (.whole 3)) (.real 2))
        ⟨{}, .ended three 0 []⟩ w :=
      ⟨three, 0, [], rfl, rfl, result_eq_ok_iff.1 hok⟩
    obtain ⟨es, v, htranscript, honly⟩ := hcourse _
    obtain ⟨hstarts, hvalue, -, -⟩ := hensures es v htranscript
    obtain ⟨job, reply, hstarted⟩ := hstarts.2 hpasses
    obtain rfl := honly job reply hstarted
    obtain rfl := hvalue job _ w hstarted hdelivers
    exact ⟨es, v, htranscript, hdisplay⟩
  · obtain ⟨es, v, htranscript, honly⟩ := hcourse ⟨{}, .running⟩
    obtain ⟨hstarts, -, hnull, hchild⟩ := hensures es v htranscript
    obtain ⟨job, reply, hstarted⟩ := hstarts.2 hpasses
    obtain rfl := honly job reply hstarted
    have hv : v = .null := by
      refine hnull fun job' reply' w h => ?_
      rw [honly job' reply' h]
      rintro ⟨_, _, _, hended, -⟩
      cases hended
    subst hv
    exact ⟨es, job, _, htranscript, (hchild job _ hstarted).1 (Or.inl rfl)⟩

end Sandbox

end CallFlow
