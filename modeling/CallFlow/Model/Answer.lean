import CallFlow.Json.Read
import CallFlow.Model.Request
import CallFlow.Schema.Record
import CallFlow.Text.Blank

namespace CallFlow

/-- Whether a value can be a name: all but lists and objects can. -/
def Value.canBeName : Value → Bool
  | .list _ | .object _ => false
  | _ => true

namespace ToolUse

/-- The pair that a value is: a list of two, a text of two characters, or the names of an object
of two members. The outer option is none for anything else, the inner one when the first of the
two is a name but no text. -/
def pair? : Value → Option (Option (String × Value))
  | .list [.text name, v] => some (some (name, v))
  | .list [name, _] => if name.canBeName then some none else none
  | .text s =>
    match s.toList with
    | [a, b] => some (some (String.singleton a, .text (String.singleton b)))
    | _ => none
  | .object [(a, _), (b, _)] => some (some (a, .text b))
  | _ => none

/-- The input of a tool as an object. No input is an empty one, and a list of pairs counts too;
pairs whose name is no text are passed over. -/
def arguments? (input : Value) : Option Bindings :=
  if !input.isTruthy then some []
  else match input with
    | .object members => some members
    | .list items => (items.mapM pair?).map fun pairs => Bindings.ofMembers (pairs.filterMap id)
    | _ => none

end ToolUse

/-- What a model answers: the arguments of the tool, if it used it properly, and its text. -/
structure ModelAnswer where
  arguments : Option Value
  text : String
  deriving Repr

namespace ModelAnswer

/-- The arguments in a chat: the text is JSON, nothing stands for no arguments, and text that is
not JSON is no arguments either. The outer option is none for a text that is nested too deep. -/
def ofText (arguments : Option String) : Option (Option Value) :=
  let text := arguments.getD ""
  match Json.read (if text = "" then "\x7b\x7d" else text) with
  | .ok .null => some none
  | .ok v => some (some v)
  | .error .nestedTooDeep => none
  | .error _ => some none

/-- The answer that a chat gives by calling a tool. None when the request fails over it. -/
def ofCalls? (tool text : String) (calls : List (Option ChatCall)) : Option ModelAnswer :=
  match (calls.filterMap id).find? fun c => c.tool = tool with
  | none => some ⟨none, text⟩
  | some c => (ofText c.arguments).map fun v => ⟨v, text⟩

/-- The answer that blocks give by using a tool. None when the request fails over it. -/
def ofUses? (tool text : String) (uses : List ToolUse) : Option ModelAnswer :=
  match uses.find? fun u => u.tool = tool with
  | none => some ⟨none, text⟩
  | some u => (ToolUse.arguments? u.input).map fun o => ⟨some (.object o), text⟩

/-- The answer that a reply gives by using a tool. None when the request fails. -/
def ofReply? (tool : String) : ModelReply → Option ModelAnswer
  | .failed _ | .timedOut => none
  | .chat content calls => ofCalls? tool (content.getD "") calls
  | .blocks texts uses => ofUses? tool (String.join texts) uses

/-- The characters from the first opening to the last closing brace. -/
def braced? (cs : List Char) : Option (List Char) :=
  let fromOpening := cs.dropWhile (· ≠ '{')
  let upToClosing := (fromOpening.reverse.dropWhile (· ≠ '}')).reverse
  if upToClosing.isEmpty then none else some upToClosing

/-- The members of an object with its handle under the plain spelling of its name. -/
def withPlainName (o : Bindings) : Bindings :=
  match o.get? "matchedHandle", o.has "matched_handle" with
  | some handle, false => Bindings.set (o.erase "matchedHandle") "matched_handle" handle
  | _, _ => o

/-- The object that a text holds, perhaps among other words. A text that holds something else,
or nothing that can be read, has none; one that is nested too deep is not read at all. -/
def objectIn? (text : String) : Except Json.ReadError (Option Bindings) :=
  match (braced? text.toList).map fun cs => Json.read (String.ofList cs) with
  | some (.ok (.object members)) => .ok (some (withPlainName members))
  | some (.error .nestedTooDeep) => .error .nestedTooDeep
  | _ => .ok none

end ModelAnswer

/-- A reply to the caller as a model gives it. -/
structure TurnAnswer where
  response : String
  matchedTransition : Option String
  extractedVariables : Bindings
  deriving Repr

/-- The judgement of a model on transitions. -/
structure Judgement where
  matchedHandle : String
  reasoning : String
  deriving Repr

open Schema

/-- Reads a reply. No variables may be written as null. -/
def TurnAnswer.reader : Reader TurnAnswer := .record "TurnOutput" fun o =>
  TurnAnswer.mk
    <$> (Field.word "response").required .text o
    <*> (Field.word "matched_transition").optional none (.nullable .text) o
    <*> (Field.word "extracted_variables").optional []
      (.adapted (fun | .null => .object [] | v => v) .dictionary) o

/-- Reads a judgement. -/
def Judgement.reader : Reader Judgement := .record "ConditionOutput" fun o =>
  Judgement.mk
    <$> (Field.word "matched_handle").optional "none" .text o
    <*> (Field.word "reasoning").optional "" .text o

end CallFlow
