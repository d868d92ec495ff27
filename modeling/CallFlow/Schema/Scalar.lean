import CallFlow.Decimal
import CallFlow.Number
import CallFlow.Schema.Issue
import CallFlow.Text.Blank
import CallFlow.Text.Case

namespace CallFlow.Schema

/-- A rule for single values. -/
abbrev Rule (α : Type) := Value → Except Cause α

namespace Rule

/-- Texts only. -/
def text : Rule String
  | .text s => .ok s
  | _ => .error .notText

/-- The words for no and for yes, in lower case. -/
def noWords : List String := ["0", "off", "f", "n", "no", "false"]

@[inherit_doc noWords]
def yesWords : List String := ["1", "on", "t", "y", "yes", "true"]

/-- The first number that has no place in 64 bits with a sign. -/
def wordEnd : Int := 0x8000000000000000

/-- Whether a whole number fits into 64 bits with a sign. -/
def fitsWord (i : Int) : Bool := -wordEnd ≤ i && i < wordEnd

/-- The whole number that a floating-point number is, kept strictly between the ends of the
numbers of 64 bits with a sign. -/
def wholeFloat (x : Float) : Except Cause Int :=
  if x.isNaN || x.isInf then .error .notFinite
  else match Decimal.toInt? x with
    | none => .error .fractional
    | some i => if -wordEnd < i && i < wordEnd then .ok i else .error .integerTooLarge

/-- Zero for no, one for yes. -/
def flag (i : Int) : Except Cause Bool :=
  if i = 0 then .ok false else if i = 1 then .ok true else .error .unclearBoolean

/-- Yes or no, in one of its spellings. -/
def boolean : Rule Bool
  | .bool b => .ok b
  | .int i => if fitsWord i then flag i else .error .notBoolean
  | .float x =>
    match wholeFloat x with
    | .ok i => flag i
    | .error _ => .error .notBoolean
  | .text s =>
    let word := lowerAscii s
    if noWords.contains word then .ok false
    else if yesWords.contains word then .ok true
    else .error .unclearBoolean
  | _ => .error .notBoolean

/-- Whether a character is one of the ten ASCII digits. -/
def isAsciiDigit (c : Char) : Bool := '0' ≤ c && c ≤ '9'

/-- Whether a character is a blank outside the four separators of information, which blanks
around a number may not be. -/
def isMargin (c : Char) : Bool := Text.isBlank c && !(0x1C ≤ c.toNat && c.toNat ≤ 0x1F)

/-- The characters without margins on either side. -/
def trimMargins (cs : List Char) : List Char :=
  ((cs.dropWhile isMargin).reverse.dropWhile isMargin).reverse

/-- A whole number in its plainest form: digits without a zero in front, after a minus perhaps. -/
def plainInteger? (cs : List Char) : Option Int :=
  let (negative, digits) : Bool × List Char :=
    match cs with
    | '-' :: rest => (true, rest)
    | _ => (false, cs)
  if digits.isEmpty || !digits.all isAsciiDigit || (digits.head? = some '0' && digits.length > 1)
  then none
  else
    let n : Int := Text.decimalNat digits
    some (if negative then -n else n)

/-- The characters after a plus sign, unless a minus follows it. -/
def dropPlus : List Char → List Char
  | '+' :: '-' :: rest => '+' :: '-' :: rest
  | '+' :: rest => rest
  | cs => cs

/-- The characters without zeros in front, `last` being the character before them. A zero stays
where nothing else would, and before a point. -/
def dropZeros (last : Char) : List Char → Option (List Char)
  | [] => some [last]
  | c :: rest =>
    if c = '0' || c = '_' then dropZeros c rest
    else if isAsciiDigit c then some (c :: rest)
    else if c = '.' then some (last :: c :: rest)
    else none

/-- A number without zeros in front. None when it does not begin like a number. -/
def withoutZeros : List Char → Option (List Char)
  | '0' :: rest => dropZeros '0' rest
  | c :: rest => if isAsciiDigit c || c = '-' then some (c :: rest) else none
  | [] => none

/-- The characters before a point that only zeros follow. -/
def withoutPoint (cs : List Char) : List Char :=
  match cs.dropWhile (· ≠ '.') with
  | _ :: zeros => if zeros.all (· = '0') then cs.takeWhile (· ≠ '.') else cs
  | [] => cs

/-- Whether every underscore stands between two other characters. -/
def singleUnderscores : List Char → Bool
  | [] => true
  | ['_'] => false
  | '_' :: '_' :: _ => false
  | _ :: rest => singleUnderscores rest

/-- The characters without underscores. None when one stands at an end or beside another. -/
def withoutUnderscores? (cs : List Char) : Option (List Char) :=
  if cs.head? = some '_' || !singleUnderscores cs then none else some (cs.filter (· ≠ '_'))

/-- The most digits that a whole number may be written with. -/
def maxDigits : Nat := 4300

/-- The whole number that a text denotes: plain, or with blanks around it, a plus, zeros in
front, single underscores, or a point and zeros at the end. -/
def integerText (s : String) : Except Cause Int :=
  let cs := s.toList
  let cleaned := do
    let cs ← withoutZeros (dropPlus (trimMargins cs))
    let cs := withoutPoint cs
    some ((withoutUnderscores? cs).getD cs)
  let candidate := if (plainInteger? cs).isSome then some cs else cleaned
  match candidate with
  | none => .error .unreadableInteger
  | some cs =>
    match plainInteger? cs with
    | none => .error .unreadableInteger
    | some i => if cs.countP isAsciiDigit ≤ maxDigits then .ok i else .error .integerTooLarge

/-- A whole number. -/
def integer : Rule Int
  | .int i => .ok i
  | .bool b => .ok (if b then 1 else 0)
  | .float x => wholeFloat x
  | .text s => integerText s
  | _ => .error .notInteger

/-- The names of the numbers without digits, in lower case. -/
def namedFloat? (name : String) : Option Float :=
  if name = "inf" || name = "infinity" then some (1 / 0)
  else if name = "nan" then some notANumber
  else none

/-- The number written by ASCII characters alone. -/
def plainFloat? (cs : List Char) : Option Float :=
  let (negative, rest) := NumberText.sign cs
  match namedFloat? (lowerAscii (String.ofList rest)) with
  | some x => some (if negative then -x else x)
  | none => if cs.all (·.toNat < 128) then NumberText.parse? cs else none

/-- The number that a text denotes, with blanks around it or with single underscores. -/
def numberText? (s : String) : Option Float :=
  plainFloat? (trimMargins s.toList) <|> ((withoutUnderscores? s.toList).bind plainFloat?)

/-- A number. -/
def number : Rule Float
  | .float x => .ok x
  | .bool b => .ok (if b then 1 else 0)
  | .int i =>
    match Decimal.ofInt? i with
    | some x => .ok x
    | none => .error .notNumber
  | .text s =>
    match numberText? s with
    | some x => .ok x
    | none => .error .unreadableNumber
  | _ => .error .notNumber

/-- One of a few words. -/
def choice {α : Type} (choices : List (String × α)) : Rule α := fun v =>
  match v.text?.bind (List.lookup · choices) with
  | some a => .ok a
  | none => .error (.notAmong (choices.map Prod.fst))

end Rule

end CallFlow.Schema
