namespace CallFlow

/-- The values that variables of a call hold and that messages carry: what JSON can say, with whole
numbers kept apart from floating-point ones. The members of an object stay in the order in which
they were first written. -/
inductive Value where
  | null
  | bool (b : Bool)
  | int (i : Int)
  | float (x : Float)
  | text (s : String)
  | list (items : List Value)
  | object (members : List (String × Value))
  deriving Repr, Inhabited

namespace Value

/-- Null, false, zero and everything empty count as no value at all; not-a-number counts. -/
def isTruthy : Value → Bool
  | null => false
  | bool b => b
  | int i => i ≠ 0
  | float x => !(x == 0)
  | text s => s ≠ ""
  | list items => !items.isEmpty
  | object members => !members.isEmpty

/-- The text of a text value. -/
def text? : Value → Option String
  | text s => some s
  | _ => none

/-- The members of an object. -/
def members? : Value → Option (List (String × Value))
  | object members => some members
  | _ => none

/-- A text, or null for none. -/
def ofText? : Option String → Value
  | some s => text s
  | none => null

end Value

/-- Names and the values bound to them, in order. -/
abbrev Bindings := List (String × Value)

namespace Bindings

/-- The value bound to a name. -/
def get? (b : Bindings) (name : String) : Option Value := List.lookup name b

/-- The value bound to a name, null when there is none. -/
def getD (b : Bindings) (name : String) : Value := (b.get? name).getD .null

/-- Whether a name is bound, be it to null. -/
def has (b : Bindings) (name : String) : Bool := (b.get? name).isSome

/-- The bindings with a name bound anew. A known name keeps its place. -/
def set (b : Bindings) (name : String) (value : Value) : Bindings :=
  match b with
  | [] => [(name, value)]
  | (n, v) :: rest =>
    if n = name then (n, value) :: rest else (n, v) :: Bindings.set rest name value

/-- The bindings with all of another list of bindings set, one after the other. -/
def update (b new : Bindings) : Bindings := new.foldl (fun acc p => acc.set p.1 p.2) b

/-- The bindings without the first entry of a name. -/
def erase (b : Bindings) (name : String) : Bindings := List.eraseP (fun p => p.1 == name) b

/-- The bound names in order. -/
def names (b : Bindings) : List String := b.map Prod.fst

/-- A list of members as bindings: of a name written several times the last value counts, in the
place of the first. -/
def ofMembers (ms : List (String × Value)) : Bindings := Bindings.update [] ms

end Bindings

end CallFlow
