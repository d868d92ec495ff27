import CallFlow.Turn.Handler

namespace CallFlow

/-- Why a walk ends. -/
inductive Ending where
  /-- A node replied. -/
  | replied
  /-- The handler of a node failed. -/
  | failed
  /-- There is no node of the id. -/
  | missing
  /-- There were too many hops. -/
  | cut
  deriving Repr, DecidableEq

/-- What comes of running a turn: the result, the nodes that were run and why the walk came to its
end. -/
structure Walk where
  result : TurnResult
  /-- The ids of the nodes that were run, in order. -/
  visited : List String
  ending : Ending
  deriving Repr

/-- A walk with a node run before it. -/
def Walk.after (node : String) (w : Walk) : Walk := { w with visited := node :: w.visited }

namespace Turn

variable (t : Turn)

/-- The apology that ends a call. -/
def apology (bindings : Bindings) : TurnResult :=
  ⟨t.settings.engine.errorMessage, .finish, bindings⟩

/-- The request to say it again, at a node that failed. -/
def retry (node : String) (bindings : Bindings) : TurnResult :=
  ⟨t.settings.engine.fallbackMessage, .gather node, bindings⟩

/-- Walks from a node, with so many hops at most. -/
def walk (hops : Nat) (id : String) (bindings : Bindings) : Dialogue Walk :=
  match t.flow.node? id with
  | none => return ⟨t.apology bindings, [], .missing⟩
  | some node => do
    let (step, bindings) ← t.runNode node bindings
    match step with
    | .failed => return ⟨t.retry node.id bindings, [node.id], .failed⟩
    | .reply response move => return ⟨⟨response, move, bindings⟩, [node.id], .replied⟩
    | .hop next =>
      match hops with
      | 0 => return ⟨t.apology bindings, [node.id], .cut⟩
      | hops + 1 => return (← walk hops next bindings).after node.id

/-- Runs a turn that begins at a node. -/
def run (id : String) (bindings : Bindings) : Dialogue Walk :=
  t.walk t.settings.engine.hops id bindings

end Turn

end CallFlow
