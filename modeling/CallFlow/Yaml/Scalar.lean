import CallFlow.Number

namespace CallFlow.Yaml

/-- The words for no value. -/
def nullWords : List String := ["", "~", "null", "Null", "NULL"]

/-- The words for yes. -/
def yesWords : List String :=
  ["yes", "Yes", "YES", "true", "True", "TRUE", "on", "On", "ON"]

/-- The words for no. -/
def noWords : List String :=
  ["no", "No", "NO", "false", "False", "FALSE", "off", "Off", "OFF"]

/-- The value of a digit in bases up to sixteen. -/
def digitValue (c : Char) : Nat :=
  if c.isDigit then c.toNat - '0'.toNat else c.toLower.toNat - 'a'.toNat + 10

/-- Whether a character is a digit of a base. -/
def isDigitOf (base : Nat) (c : Char) : Bool :=
  (c.isDigit || ('a' ≤ c.toLower && c.toLower ≤ 'f')) && digitValue c < base

/-- The number that digits of a base stand for, underscores between them left out. -/
def numeral? (base : Nat) (cs : List Char) : Option Nat :=
  let digits := cs.filter (· ≠ '_')
  if digits.isEmpty || !digits.all (isDigitOf base) then none
  else some (digits.foldl (fun n c => base * n + digitValue c) 0)

/-- Decimal digits that begin with one. -/
def decimal? (cs : List Char) : Option Nat :=
  if cs.head? = some '_' then none else numeral? 10 cs

/-- The parts of a number in base sixty. -/
def parts (cs : List Char) : List (List Char) := cs.splitOn ':'

/-- Whether a part after the first is one: below sixty, in one digit or two. -/
def isSixtieth (cs : List Char) : Bool :=
  cs.length ≤ 2 && cs.all Char.isDigit && (decimal? cs).any (· < 60)

/-- A whole number without a sign. -/
def natural? (cs : List Char) : Option Nat :=
  match cs with
  | ['0'] => some 0
  | '0' :: 'b' :: rest => numeral? 2 rest
  | '0' :: 'x' :: rest => numeral? 16 rest
  | '0' :: rest => numeral? 8 ('0' :: rest)
  | _ =>
    match parts cs with
    | [whole] => decimal? whole
    | whole :: sixtieths => do
      let first ← decimal? whole
      if sixtieths.all isSixtieth then
        some (sixtieths.foldl (fun n part => 60 * n + (decimal? part).getD 0) first)
      else none
    | [] => none

/-- A whole number. -/
def integer? (cs : List Char) : Option Int :=
  let (negative, rest) := NumberText.sign cs
  (natural? rest).map fun n => if negative then -(n : Int) else n

/-- Whether characters are an exponent, which may be lacking. -/
def isExponent : List Char → Bool
  | [] => true
  | e :: s :: digits =>
    (e = 'e' || e = 'E') && (s = '+' || s = '-') && !digits.isEmpty && digits.all Char.isDigit
  | _ => false

/-- Whether a character may stand among decimal digits. -/
def isFiller (c : Char) : Bool := c.isDigit || c = '_'

/-- The number with a point that characters without a sign stand for. A number that begins with
the point has a digit after it. -/
def pointed? (cs : List Char) : Option Float :=
  let whole := cs.takeWhile isFiller
  match cs.dropWhile isFiller with
  | '.' :: rest =>
    let fraction := rest.takeWhile isFiller
    let start := if whole.isEmpty then fraction else whole
    if start.head?.any Char.isDigit && isExponent (rest.dropWhile isFiller) then
      NumberText.parse? (cs.filter (· ≠ '_'))
    else none
  | _ => none

/-- A number with a point, or one of the names of the numbers without digits. -/
def real? (cs : List Char) : Option Float :=
  let (negative, rest) := NumberText.sign cs
  let signed := rest.length < cs.length
  let name := String.ofList rest
  if name = ".inf" || name = ".Inf" || name = ".INF" then
    some (if negative then -1 / 0 else 1 / 0)
  else if !signed && (name = ".nan" || name = ".NaN" || name = ".NAN") then some notANumber
  else if signed && rest.head? = some '.' then none
  else (pointed? rest).map fun x => if negative then -x else x

/-- The value of a plain scalar. -/
def scalar (s : String) : Value :=
  if nullWords.contains s then .null
  else if yesWords.contains s then .bool true
  else if noWords.contains s then .bool false
  else match integer? s.toList, real? s.toList with
    | some i, _ => .int i
    | none, some x => .float x
    | none, none => .text s

end CallFlow.Yaml
