import CallFlow.Value

namespace CallFlow.Schema

/-- One step from a value to a part of it. -/
inductive Place where
  | member (name : String)
  | item (index : Nat)
  deriving Repr, DecidableEq

/-- What can be wrong with a value that should have a certain shape. The wording is in
`Cause.message`. -/
inductive Cause where
  | missing
  | notText
  | notList
  | notDictionary
  | notBoolean
  /-- A number or a text that says neither yes nor no. -/
  | unclearBoolean
  | notInteger
  | unreadableInteger
  | fractional
  | notFinite
  | integerTooLarge
  | notNumber
  | unreadableNumber
  /-- Not an object, where a record of the given name is expected. -/
  | notRecord (name : String)
  /-- Not an object, in the body of a request. -/
  | notObject
  | notAmong (choices : List String)
  deriving Repr, DecidableEq

/-- Something wrong with a value: where, why, and what stood there. -/
structure Issue where
  place : List Place
  cause : Cause
  /-- The refused value. Of a missing member it is the object that lacks it. -/
  input : Value
  deriving Repr

/-- Words in single quotes with commas between them and an `or` before the last. -/
def Cause.alternatives : List String → String
  | [] => ""
  | [a] => s!"'{a}'"
  | [a, b] => s!"'{a}' or '{b}'"
  | a :: rest => s!"'{a}', " ++ alternatives rest

/-- The wording of a cause. -/
def Cause.message : Cause → String
  | missing => "Field required"
  | notText => "Input should be a valid string"
  | notList => "Input should be a valid list"
  | notDictionary => "Input should be a valid dictionary"
  | notBoolean => "Input should be a valid boolean"
  | unclearBoolean => "Input should be a valid boolean, unable to interpret input"
  | notInteger => "Input should be a valid integer"
  | unreadableInteger => "Input should be a valid integer, unable to parse string as an integer"
  | fractional => "Input should be a valid integer, got a number with a fractional part"
  | notFinite => "Input should be a finite number"
  | integerTooLarge => "Unable to parse input string as an integer, exceeded maximum size"
  | notNumber => "Input should be a valid number"
  | unreadableNumber => "Input should be a valid number, unable to parse string as a number"
  | notRecord name => s!"Input should be a valid dictionary or instance of {name}"
  | notObject => "Input should be a valid dictionary or object to extract fields from"
  | notAmong choices => "Input should be " ++ alternatives choices

/-- The word for the kind of a cause. -/
def Cause.kind : Cause → String
  | missing => "missing"
  | notText => "string_type"
  | notList => "list_type"
  | notDictionary => "dict_type"
  | notBoolean => "bool_type"
  | unclearBoolean => "bool_parsing"
  | notInteger => "int_type"
  | unreadableInteger => "int_parsing"
  | fractional => "int_from_float"
  | notFinite => "finite_number"
  | integerTooLarge => "int_parsing_size"
  | notNumber => "float_type"
  | unreadableNumber => "float_parsing"
  | notRecord _ => "model_type"
  | notObject => "model_attributes_type"
  | notAmong _ => "enum"

/-- A place as it is written between dots. -/
def Place.text : Place → String
  | member name => name
  | item index => toString index

/-- The place of an issue, its steps joined with dots. -/
def Issue.field (i : Issue) : String := ".".intercalate (i.place.map Place.text)

/-- A place as a value: a name or an index. -/
def Place.toValue : Place → Value
  | member name => .text name
  | item index => .int index

/-- An issue, written out. -/
def Issue.toValue (i : Issue) : Value :=
  .object
    [("type", .text i.cause.kind), ("loc", .list (i.place.map Place.toValue)),
     ("msg", .text i.cause.message), ("input", i.input)]

/-- An issue of a part as an issue of the whole. -/
def Issue.under (p : Place) (i : Issue) : Issue := { i with place := p :: i.place }

end CallFlow.Schema
