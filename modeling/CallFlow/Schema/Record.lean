import CallFlow.Schema.Checked
import CallFlow.Schema.Scalar

namespace CallFlow.Schema

/-- Reads a value as a whole. -/
abbrev Reader (α : Type) := Value → Checked α

/-- The two spellings of a field. -/
structure Field where
  /-- With underscores, as in `source_handle`. -/
  plain : String
  /-- With capital letters, as in `sourceHandle`. -/
  camel : String
  deriving Repr, DecidableEq

namespace Field

/-- A field of one word, spelled one way. -/
def word (name : String) : Field := ⟨name, name⟩

/-- The spelling found in an object, and the value there. -/
def find? (f : Field) (o : Bindings) : Option (String × Value) :=
  match o.get? f.camel with
  | some v => some (f.camel, v)
  | none => (o.get? f.plain).map fun v => (f.plain, v)

variable {α : Type}

/-- Reads a field that must be there. -/
def required (f : Field) (read : Reader α) (o : Bindings) : Checked α :=
  match f.find? o with
  | some (name, v) => (read v).under (.member name)
  | none => .refused [⟨[.member f.camel], .missing, .object o⟩]

/-- Reads a field that may be left out. -/
def optional (f : Field) (default : α) (read : Reader α) (o : Bindings) : Checked α :=
  match f.find? o with
  | some (name, v) => (read v).under (.member name)
  | none => .read default

end Field

namespace Reader

variable {α : Type}

/-- The reader of a rule for single values. -/
def ofRule (rule : Rule α) : Reader α := fun v => .ofExcept v (rule v)

/-- Reads texts. -/
def text : Reader String := ofRule Rule.text

/-- Reads yes or no. -/
def boolean : Reader Bool := ofRule Rule.boolean

/-- Reads whole numbers. -/
def integer : Reader Int := ofRule Rule.integer

/-- Reads numbers. -/
def number : Reader Float := ofRule Rule.number

/-- Reads one of a few words. -/
def choice (choices : List (String × α)) : Reader α := ofRule (Rule.choice choices)

/-- Takes any value as it is. -/
def any : Reader Value := .read

/-- Reads null as none. -/
def nullable (read : Reader α) : Reader (Option α)
  | .null => .read none
  | v => (read v).map some

/-- Reads every item of a list. -/
def list (read : Reader α) : Reader (List α)
  | .list items => .all (items.mapIdx fun i v => (read v).under (.item i))
  | v => .refuse .notList v

/-- Reads the value of every member of an object. -/
def map (read : Reader α) : Reader (List (String × α))
  | .object members =>
    .all (members.map fun (name, v) => ((read v).under (.member name)).map fun a => (name, a))
  | v => .refuse .notDictionary v

/-- Takes the members of an object as they are. -/
def dictionary : Reader Bindings
  | .object members => .read members
  | v => .refuse .notDictionary v

/-- Reads the members of an object as a record. The name is for the issue with anything else. -/
def record (name : String) (fields : Bindings → Checked α) : Reader α
  | .object members => fields members
  | v => .refuse (.notRecord name) v

/-- Reads the members of an object that came with a request. -/
def payload (fields : Bindings → Checked α) : Reader α
  | .object members => fields members
  | v => .refuse .notObject v

/-- Reads a value after a change to it. -/
def adapted (adapt : Value → Value) (read : Reader α) : Reader α := fun v => read (adapt v)

end Reader

end CallFlow.Schema
