import CallFlow.Dialogue

namespace CallFlow

/-- A reply, and whether the caller hangs up while it is awaited. -/
structure Cue (ρ : Type) where
  reply : ρ
  hangsUp : Bool := false
  deriving Repr

/-- An entry of the log. -/
inductive Call where
  | client (spec : ClientSpec)
  | model (request : ModelRequest)
  | http (request : HttpRequest)
  /-- A job with the bounds that were set and those that were in force. -/
  | code (job : Job) (limits : Limits) (hard : HardLimits)
  | sleep (seconds : Float)
  | kill
  deriving Repr

/-- The state of the client of the language model. -/
inductive ClientState where
  | ready
  /-- Not made yet; making it works or does not. -/
  | absent (canBeMade : Bool)
  deriving Repr, DecidableEq

/-- A world that is written down in advance: queues of replies to the queries of each kind, and a
log of what was asked. When a queue is empty the request fails. -/
structure Script where
  client : ClientState := .ready
  model : List (Cue ModelReply) := []
  http : List (Cue HttpReply) := []
  code : List (Cue JobReply) := []
  hungUp : Bool := false
  log : List Call := []
  deriving Repr

namespace Script

/-- The message of a failure for want of a reply. -/
def exhausted : String := "no scripted reply"

/-- The first reply of a queue, or else a failure. -/
def next {ρ : Type} (queue : List (Cue ρ)) (failure : ρ) : Cue ρ × List (Cue ρ) :=
  match queue with
  | [] => (⟨failure, false⟩, [])
  | cue :: rest => (cue, rest)

/-- The script with an entry added to the log. -/
def note (s : Script) (c : Call) : Script := { s with log := s.log ++ [c] }

/-- The reply of a script to a query, and the script after it. -/
def answer (s : Script) : (q : Query) → q.Reply × Script
  | .client spec =>
    match s.client with
    | .ready => (true, s)
    | .absent canBeMade =>
      if spec.apiKey = "" then (false, s)
      else if canBeMade then (true, { s.note (.client spec) with client := .ready })
      else (false, s.note (.client spec))
  | .model r =>
    let (cue, rest) := next s.model (.failed exhausted)
    (cue.reply, { s.note (.model r) with model := rest, hungUp := s.hungUp || cue.hangsUp })
  | .http r =>
    let (cue, rest) := next s.http (.failed exhausted)
    (cue.reply, { s.note (.http r) with http := rest, hungUp := s.hungUp || cue.hangsUp })
  | .code j =>
    let (cue, rest) := next s.code ⟨{}, .unstarted exhausted⟩
    (cue.reply,
      { s.note (.code j (j.limits.within cue.reply.hard) cue.reply.hard) with
        code := rest, hungUp := s.hungUp || cue.hangsUp })
  | .sleep seconds => ((), s.note (.sleep seconds))
  | .kill => ((), s.note .kill)
  | .hungUp => (s.hungUp, { s with hungUp := false })

end Script

namespace Dialogue

variable {α β : Type}

/-- Plays a dialogue against a script. -/
def run : Dialogue α → Script → α × Script
  | done a, s => (a, s)
  | ask q next, s =>
    let (reply, s) := s.answer q
    (next reply).run s

@[simp] theorem run_done (a : α) (s : Script) : (done a).run s = (a, s) := rfl

@[simp] theorem run_ask (q : Query) (next : q.Reply → Dialogue α) (s : Script) :
    (ask q next).run s = (next (s.answer q).1).run (s.answer q).2 := rfl

/-- A dialogue that goes on is played part by part. -/
@[simp] theorem run_bind (d : Dialogue α) (f : α → Dialogue β) (s : Script) :
    (d.bind f).run s = (f (d.run s).1).run (d.run s).2 := by
  induction d generalizing s with
  | done a => rfl
  | ask q next ih => exact ih _ _

end Dialogue

end CallFlow
