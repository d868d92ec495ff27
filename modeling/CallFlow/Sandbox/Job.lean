import CallFlow.Value

namespace CallFlow

/-- Bounds on seconds of computing and bytes of memory. -/
structure Limits where
  cpu : Int
  memory : Int
  deriving Repr, DecidableEq

/-- The bounds that can not be exceeded, if there are any. -/
structure HardLimits where
  cpu : Option Int := none
  memory : Option Int := none
  deriving Repr, DecidableEq

/-- A bound within another. -/
def Limits.cap (wanted : Int) (hard : Option Int) : Int :=
  match hard with
  | some h => min wanted h
  | none => wanted

/-- The bounds that are set where others are in force. -/
def Limits.within (wanted : Limits) (hard : HardLimits) : Limits :=
  ⟨cap wanted.cpu hard.cpu, cap wanted.memory hard.memory⟩

/-- What a child process is given: a snippet with its inputs, and the bounds on what it may use. -/
structure Job where
  source : String
  inputs : Bindings
  limits : Limits
  deriving Repr

/-- How a child ended: with the bytes that it wrote, or not at all. -/
inductive Outcome where
  /-- The child could not be started. -/
  | unstarted (message : String)
  /-- The child never ends. -/
  | running
  | ended (output : List UInt8) (exitCode : Int) (complaint : List UInt8)
  deriving Repr, DecidableEq

/-- The bounds in force when a child is started, and how it ends. -/
structure JobReply where
  hard : HardLimits := {}
  outcome : Outcome
  deriving Repr, DecidableEq

end CallFlow
