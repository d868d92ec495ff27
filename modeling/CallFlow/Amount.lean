import CallFlow.Decimal
import CallFlow.Value

namespace CallFlow

/-- An amount as it is configured: a duration or a temperature, written with a point or without. The
way in which it is written is kept, for it is passed on as it stands. -/
inductive Amount where
  | whole (i : Int)
  | real (x : Float)
  deriving Repr, DecidableEq

namespace Amount

/-- The amount as a value. -/
def toValue : Amount → Value
  | whole i => .int i
  | real x => .float x

/-- The amount that a number is. -/
def ofValue? : Value → Option Amount
  | .int i => some (whole i)
  | .float x => some (real x)
  | _ => none

/-- The text of an amount. -/
def text : Amount → String
  | whole i => toString i
  | real x => Decimal.floatText x

def isZero : Amount → Bool
  | whole i => i = 0
  | real x => x == 0

/-- Whether a wait of this length is over at once. One that is not a number never is. -/
def isOver : Amount → Bool
  | whole i => i ≤ 0
  | real x => x ≤ 0

/-- An amount, or another one in place of none or zero. -/
def orElse (a : Option Amount) (other : Amount) : Amount :=
  match a with
  | some a => if a.isZero then other else a
  | none => other

end Amount

end CallFlow
