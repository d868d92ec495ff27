import CallFlow.Literal

namespace CallFlow

/-- Something that was said, and by whom. -/
inductive Entry where
  | message (role content : Option Value)
  | malformed
  deriving Repr

/-- What was said so far in a call. Entries come from whoever keeps the call, so a role or a content
may be lacking or be no text, and an entry may be no message at all. -/
abbrev History := List Entry

namespace Entry

/-- The entry that a value is. -/
def ofValue : Value → Entry
  | .object members =>
    let o : Bindings := members
    message (o.get? "role") (o.get? "content")
  | _ => malformed

/-- An entry with a text. -/
def said (role text : String) : Entry := message (some (.text role)) (some (.text text))

/-- What the caller said. -/
def caller (text : String) : Entry := said "user" text

/-- What the agent said. -/
def agent (text : String) : Entry := said "assistant" text

end Entry

/-- Why a history can not be put before a language model. -/
inductive History.Error where
  | notAMessage
  deriving Repr, DecidableEq

/-- The last items of a list, so many of them; all but the first ones for a negative number. -/
def lastItems {α : Type} (items : List α) (size : Int) : List α :=
  if size = 0 then []
  else if size > 0 then items.drop (items.length - size.toNat)
  else items.drop (-size).toNat

end CallFlow
