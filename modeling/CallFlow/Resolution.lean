import CallFlow.Condition
import CallFlow.Dialogue
import CallFlow.Flow.Node

namespace CallFlow

/-- Someone who picks one of several transitions, by its handle. -/
abbrev Judge := List Transition → Dialogue (Option String)

namespace Resolution

/-- Whether a transition is an equation that holds. -/
def holds (bindings : Bindings) (userInput : String) (t : Transition) : Bool :=
  t.criterion = .equation && Condition.evaluate t.condition bindings userInput

/-- The handle of the first equation that holds. -/
def equation? (ts : List Transition) (bindings : Bindings) (userInput : String) :
    Option String :=
  (ts.find? (holds bindings userInput)).map Transition.handle

/-- The transitions for the judge. -/
def prompts (ts : List Transition) : List Transition := ts.filter fun t => t.criterion = .prompt

/-- The handle that the equations decide on. An empty handle decides nothing. -/
def decided? (ts : List Transition) (bindings : Bindings) (userInput : String) :
    Option String :=
  (equation? ts bindings userInput).filter (· ≠ "")

/-- The transitions that are put before the judge, none when there is nothing to judge. -/
def referred? (ts : List Transition) (bindings : Bindings) (userInput : String) :
    Option (List Transition) :=
  if (decided? ts bindings userInput).isSome || (prompts ts).isEmpty then none
  else some (prompts ts)

/-- A handle if it is one of those of some transitions and not empty. -/
def accept (ts : List Transition) (handle : Option String) : Option String :=
  handle.filter fun h => h ≠ "" && (ts.map Transition.handle).contains h

/-- The handle by which a node is left. The first equation that holds decides. Only when none does
are the prompt transitions put before the judge, all of them together and in order; the answer
counts if it is the handle of one of them. -/
def resolve (judge : Option Judge) (ts : List Transition) (bindings : Bindings)
    (userInput : String) : Dialogue (Option String) :=
  match decided? ts bindings userInput, referred? ts bindings userInput, judge with
  | some handle, _, _ => return some handle
  | none, some prompts, some judge => return accept prompts (← judge prompts)
  | none, _, _ => return none

end Resolution

end CallFlow
