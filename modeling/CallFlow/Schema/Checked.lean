import CallFlow.Schema.Issue

namespace CallFlow.Schema

/-- The outcome of reading a value: what was read, or all issues found. Two outcomes are combined by
`<*>`, which reads both parts and keeps the issues of both, in order. There is deliberately no
monad: a part can not depend on whether another part was read. -/
inductive Checked (α : Type) where
  | read (value : α)
  | refused (issues : List Issue)

namespace Checked

variable {α β : Type}

/-- The issues found. -/
def issues : Checked α → List Issue
  | read _ => []
  | refused is => is

/-- The outcome of a function on what was read. -/
def map (f : α → β) : Checked α → Checked β
  | read a => read (f a)
  | refused is => refused is

/-- Both parts, or the issues of both. -/
def apply (f : Checked (α → β)) (a : Checked α) : Checked β :=
  match f, a with
  | read f, read a => read (f a)
  | f, a => refused (f.issues ++ a.issues)

instance : Applicative Checked where
  map := map
  pure := read
  seq f a := apply f (a ())

/-- A single issue with the value itself. -/
def refuse (cause : Cause) (input : Value) : Checked α := refused [⟨[], cause, input⟩]

/-- What a rule for single values says. -/
def ofExcept (input : Value) : Except Cause α → Checked α
  | .ok a => read a
  | .error cause => refuse cause input

/-- The outcome for a part, its issues placed in the whole. -/
def under (p : Place) : Checked α → Checked α
  | read a => read a
  | refused is => refused (is.map (Issue.under p))

/-- What was read, given to a second reader. Its issues come only when there are none before. -/
def followedBy (a : Checked α) (next : α → Checked β) : Checked β :=
  match a with
  | read a => next a
  | refused is => refused is

/-- The outcomes of all members of a list. -/
def all : List (Checked α) → Checked (List α)
  | [] => read []
  | a :: rest => apply (map List.cons a) (all rest)

/-- The value read, or the issues. -/
def toExcept : Checked α → Except (List Issue) α
  | read a => .ok a
  | refused is => .error is

end Checked

end CallFlow.Schema
