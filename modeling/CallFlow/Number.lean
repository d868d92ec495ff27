import CallFlow.Decimal
import CallFlow.Text.Blank
import CallFlow.Text.Digit
import CallFlow.Value

namespace CallFlow

namespace NumberText

/-- A run of digits and the characters after it. -/
def digits (cs : List Char) : List Char × List Char :=
  (cs.takeWhile Text.isDecimal, cs.dropWhile Text.isDecimal)

/-- The sign in front, true for minus, and the characters after it. -/
def sign : List Char → Bool × List Char
  | '+' :: rest => (false, rest)
  | '-' :: rest => (true, rest)
  | cs => (false, cs)

/-- Digits before and after the point. There is a digit on one side at least. -/
def mantissa? (cs : List Char) : Option (List Char × List Char × List Char) :=
  let (whole, rest) := digits cs
  match rest with
  | '.' :: rest =>
    let (fraction, rest) := digits rest
    if whole.isEmpty && fraction.isEmpty then none else some (whole, fraction, rest)
  | rest => if whole.isEmpty then none else some (whole, [], rest)

/-- The exponent that takes up all of the characters; nothing is exponent zero. -/
def exponent? : List Char → Option Int
  | [] => some 0
  | e :: rest =>
    if e = 'e' || e = 'E' then
      let (negative, rest) := sign rest
      match digits rest with
      | ([], _) => none
      | (ds, []) =>
        let n : Int := Text.decimalNat ds
        some (if negative then -n else n)
      | _ => none
    else none

/-- The number that a text without blanks around it denotes. -/
def parse? (cs : List Char) : Option Float := do
  let (negative, rest) := sign cs
  let (whole, fraction, rest) ← mantissa? rest
  let e ← exponent? rest
  some (Decimal.nearest negative ⟨Text.decimalNat (whole ++ fraction), e - fraction.length⟩)

end NumberText

/-- Not a number. -/
def notANumber : Float := 0 / 0

/-- The number that a value counts as; none for a whole number that no double comes near. -/
def Value.toNumber? : Value → Option Float
  | .null => some 0
  | .bool b => some (if b then 1 else 0)
  | .int i => Decimal.ofInt? i
  | .float x => some x
  | .text s =>
    match Text.trim s.toList with
    | [] => some 0
    | cs => some ((NumberText.parse? cs).getD notANumber)
  | .list _ | .object _ => some notANumber

end CallFlow
