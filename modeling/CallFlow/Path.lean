import CallFlow.Json.Read
import CallFlow.Text.Blank
import CallFlow.Text.Digit

namespace CallFlow

namespace Path

/-- A part that should be a position in a list and is made of digits, but is no number: its
digits are ornamental, or too many. -/
inductive Error where
  | notAPosition (digits : String)
  deriving Repr, DecidableEq

/-- One step into a value. -/
inductive Step where
  | key (name : String)
  | index (digits : String)
  deriving Repr, DecidableEq

/-- The digits of a bracketed position in front, and the characters after it. -/
def bracket? : List Char → Option (List Char × List Char)
  | '[' :: cs =>
    match cs.takeWhile Text.isDecimal, cs.dropWhile Text.isDecimal with
    | [], _ => none
    | digits, ']' :: rest => some (digits, rest)
    | _, _ => none
  | _ => none

/-- A bracket takes characters away. -/
theorem length_lt_of_bracket? {cs digits rest : List Char}
    (h : bracket? cs = some (digits, rest)) : rest.length < cs.length := by
  unfold bracket? at h
  split at h
  · rename_i cs
    have hle : (cs.dropWhile Text.isDecimal).length ≤ cs.length :=
      (List.dropWhile_sublist _).length_le
    split at h
    · cases h
    · rename_i hdrop _
      cases h
      rw [hdrop] at hle
      simp only [List.length_cons] at hle ⊢
      omega
    · cases h
  · cases h

/-- A part without its bracketed positions, and the digits of these in order. -/
def splitPart (cs : List Char) : List Char × List (List Char) :=
  match cs with
  | [] => ([], [])
  | c :: after =>
    match h : bracket? (c :: after) with
    | some (digits, rest) =>
      have : rest.length < after.length + 1 := length_lt_of_bracket? h
      let (name, positions) := splitPart rest
      (name, digits :: positions)
    | none =>
      let (name, positions) := splitPart after
      (c :: name, positions)
termination_by cs.length

/-- The steps of the text between two dots: its name, if it has one, before its positions. -/
def partSteps (cs : List Char) : List Step :=
  let (name, positions) := splitPart cs
  (if name.isEmpty then [] else [.key (String.ofList name)]) ++
    positions.map fun digits => .index (String.ofList digits)

/-- The texts between the dots. -/
def splitDots : List Char → List (List Char)
  | [] => [[]]
  | c :: cs =>
    if c = '.' then [] :: splitDots cs
    else match splitDots cs with
      | part :: parts => (c :: part) :: parts
      | [] => [[c]]

/-- The characters without a `$` in front and a dot after that. -/
def withoutRoot : List Char → List Char
  | '$' :: '.' :: cs => cs
  | '$' :: cs => cs
  | cs => cs

/-- The steps that a path takes. -/
def steps (path : String) : List Step :=
  (splitDots (withoutRoot (Text.trim path.toList))).flatMap partSteps

/-- The position that digits stand for. -/
def position (digits : String) : Except Error Nat :=
  if digits.toList.all Text.isDecimal && digits.length ≤ Json.maxDigits then
    .ok (Text.decimalNat digits.toList)
  else .error (.notAPosition digits)

/-- The item at a position, null when the list is too short. -/
def itemAt (items : List Value) (digits : String) : Except Error Value :=
  (position digits).map fun n => items.getD n .null

/-- Whether a text is made of digits. -/
def isDigits (s : String) : Bool := !s.isEmpty && s.toList.all Text.isDigit

/-- The value one step further. -/
def take (v : Value) : Step → Except Error Value
  | .key name =>
    match v with
    | .object members => .ok (Bindings.getD members name)
    | .list items => if isDigits name then itemAt items name else .ok .null
    | _ => .ok .null
  | .index digits =>
    match v with
    | .list items => itemAt items digits
    | _ => .ok .null

/-- The value at the end of a path. -/
def get (v : Value) (path : String) : Except Error Value := (steps path).foldlM take v

end Path

end CallFlow
