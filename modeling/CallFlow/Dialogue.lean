import CallFlow.Model.Request
import CallFlow.Sandbox.Job
import CallFlow.Web.Exchange

namespace CallFlow

/-- What a client of a language model is made from. -/
structure ClientSpec where
  dialect : Dialect
  apiKey : String
  /-- Seconds. -/
  timeout : Amount
  deriving Repr

/-- What a computation asks of the world. Queries are data, so the same computation can be run
against any world. -/
inductive Query where
  /-- Is there a client, or can one be made? -/
  | client (spec : ClientSpec)
  | model (request : ModelRequest)
  | http (request : HttpRequest)
  | code (job : Job)
  /-- Wait for so many seconds. -/
  | sleep (seconds : Float)
  /-- Stop the child that was started last. -/
  | kill
  /-- Has the caller hung up since this was last asked? -/
  | hungUp
  deriving Repr

/-- The replies to a query. -/
abbrev Query.Reply : Query → Type
  | client _ => Bool
  | model _ => ModelReply
  | http _ => HttpReply
  | code _ => JobReply
  | sleep _ => Unit
  | kill => Unit
  | hungUp => Bool

/-- A computation that talks to the world: it is done, or asks a query and goes on with the reply.
-/
inductive Dialogue (α : Type) where
  | done (a : α)
  | ask (q : Query) (next : q.Reply → Dialogue α)

namespace Dialogue

variable {α β γ : Type}

/-- Goes on with a second dialogue once the first is done. -/
def bind : Dialogue α → (α → Dialogue β) → Dialogue β
  | done a, f => f a
  | ask q next, f => ask q fun r => bind (next r) f

instance : Monad Dialogue where
  pure := done
  bind := bind

/-- Asks a query for its reply. -/
def query (q : Query) : Dialogue q.Reply := ask q done

@[simp] theorem pure_eq (a : α) : (pure a : Dialogue α) = done a := rfl

@[simp] theorem bind_eq (d : Dialogue α) (f : α → Dialogue β) : d >>= f = d.bind f := rfl

@[simp] theorem done_bind (a : α) (f : α → Dialogue β) : (done a).bind f = f a := rfl

@[simp] theorem ask_bind (q : Query) (next : q.Reply → Dialogue α) (f : α → Dialogue β) :
    (ask q next).bind f = ask q fun r => (next r).bind f := rfl

@[simp] theorem bind_done (d : Dialogue α) : d.bind done = d := by
  induction d with
  | done a => rfl
  | ask q next ih => exact congrArg (ask q) (funext ih)

/-- Dialogues are gone on with in any grouping. -/
theorem bind_assoc (d : Dialogue α) (f : α → Dialogue β) (g : β → Dialogue γ) :
    (d.bind f).bind g = d.bind fun a => (f a).bind g := by
  induction d with
  | done a => rfl
  | ask q next ih => exact congrArg (ask q) (funext ih)

end Dialogue

end CallFlow
