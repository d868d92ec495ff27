import CallFlow.Flow.Fields
import CallFlow.History
import CallFlow.Json.Write
import CallFlow.Model.Request
import CallFlow.Template

namespace CallFlow.Prompt

/-- Why a request to a language model can not be put together. -/
inductive Error where
  | history (e : History.Error)
  /-- A value that is shown to the model can not be written. -/
  | unwritable
  deriving Repr, DecidableEq

/-- A text that should be there because the values in it can be written. -/
def written : Option String → Except Error String
  | some s => .ok s
  | none => .error .unwritable

/-- The instructions of a node that has none. -/
def defaultInstructions : String := "You are a helpful voice assistant."

/-- How replies should sound. -/
def voiceStyle : String :=
  "Keep responses concise and natural for voice (1-3 sentences). "
    ++ "Do not use markdown, bullet points, or formatting."

/-- The answer of a model to which no transition applies. -/
def noMatch : String := "none"

/-- Lines of text. -/
def lines (ls : List String) : String := "\n".intercalate ls

/-- A variable on a line of its own, after some mark. -/
def variableLine (mark : String) (entry : String × Value) : Except Error String :=
  (written (Json.write? entry.2)).map fun text => s!"{mark}{entry.1}: {text}"

/-- Each variable on a line of its own, after some mark. -/
def variableLines (mark : String) (bindings : Bindings) : Except Error String :=
  (bindings.mapM (variableLine mark)).map lines

/-- A label in parentheses, if there is one. -/
def labelled (opening : String) : Option String → String
  | none | some "" => ""
  | some label => s!" ({opening}{label})"

/-- A transition in the list that goes with a reply. -/
def offer (index : Nat) (t : Transition) : String :=
  s!"  {index + 1}. [type={t.criterion.word}, handle=\"" ++ t.handle ++ "\"] " ++ t.condition
    ++ labelled "" t.label

/-- The paragraph on transitions of the instructions for a reply. -/
def offers (ts : List Transition) : String :=
  lines
    ["Transition conditions (evaluate after responding):",
     lines (ts.mapIdx offer),
     "When one of the above conditions is met based on the user's input and the "
      ++ "conversation so far, return its handle as matched_transition. Evaluate in "
      ++ "order; the first TRUE condition wins. Otherwise return null."]

/-- The text that all replies are based on, in a paragraph of its own if there is one. -/
def persona (globalPrompt : String) (bindings : Bindings) : Except Error (List String) :=
  if globalPrompt = "" then return []
  else return [← written (Template.render globalPrompt bindings)]

/-- The paragraph on variables, if there are any. -/
def variableParagraph (bindings : Bindings) : Except Error (List String) :=
  if bindings.isEmpty then return []
  else return ["Current conversation variables:\n" ++ (← variableLines "- " bindings)]

/-- The instructions for a reply. -/
def turn (content : Option Content) (bindings : Bindings) (ts : List Transition)
    (globalPrompt : String) : Except Error String := do
  let authored := (content.map Content.text).getD ""
  let base := if authored = "" then defaultInstructions else authored
  let opening ← persona globalPrompt bindings
  let task ← written (Template.render base bindings)
  let known ← variableParagraph bindings
  let paragraphs :=
    opening ++ [task] ++ known ++ (if ts.isEmpty then [] else [offers ts]) ++ [voiceStyle]
  return "\n\n".intercalate paragraphs

/-- A transition in the list that is put before the judge. -/
def candidate (index : Nat) (t : Transition) : String :=
  s!"{index + 1}. [handle=\"" ++ t.handle ++ "\"] Condition: \"" ++ t.condition ++ "\""
    ++ labelled "Label: " t.label

/-- An entry of the history on a line of its own. -/
def historyLine : Entry → Except Error String
  | .malformed => .error (.history .notAMessage)
  | .message role content => do
    let role ← written (Literal.inText? (role.getD (.text "user")))
    let content ← written (Literal.inText? (content.getD (.text "")))
    return s!"  {role}: {content}"

/-- The variables as they are told to the judge. -/
def variableContext (bindings : Bindings) : Except Error String :=
  if bindings.isEmpty then return ""
  else return "\nCurrent variables:\n" ++ (← variableLines "  " bindings)

/-- What was said as it is told to the judge, who sees a window of the history. -/
def historyContext (history : History) (windowSize : Int) : Except Error String := do
  let recent ← (lastItems history windowSize).mapM historyLine
  return if recent.isEmpty then "" else "\nRecent conversation:\n" ++ lines recent

/-- The instructions for judging transitions. -/
def condition (ts : List Transition) (bindings : Bindings) (userInput : String)
    (history : History) (windowSize : Int) : Except Error String := do
  let known ← variableContext bindings
  let conversation ← historyContext history windowSize
  return lines
    ["You are a transition condition evaluator for a voice AI agent.",
     "",
     "Given the user's latest input, the conversation history, and the current variables, "
      ++ "determine which transition condition (if any) is satisfied.",
     "",
     "Transition conditions to evaluate (in order):",
     lines (ts.mapIdx candidate),
     known,
     conversation,
     "",
     "User's latest input: \"" ++ userInput ++ "\"",
     "",
     "Evaluate each condition in order. Return the handle of the FIRST condition that is TRUE, "
      ++ "or \"" ++ noMatch ++ "\" if no conditions match."]

/-- The roles that count as the agent's. -/
def agentRoles : List String := ["assistant", "agent"]

/-- The message for an entry, none for one without content. -/
def entryMessage : Entry → Except History.Error (Option Message)
  | .malformed => .error .notAMessage
  | .message role content =>
    let role :=
      if (role.bind Value.text?).any agentRoles.contains then "assistant" else "user"
    match content with
    | some content => .ok (if content.isTruthy then some ⟨role, content⟩ else none)
    | none => .ok none

/-- Whether a message is the given text of the caller. -/
def isUtterance (m : Message) (text : String) : Bool :=
  m.role = "user" && m.content.text? = some text

/-- The message that stands for the beginning of a call. -/
def connected : Message := ⟨"user", .text "[Call connected]"⟩

/-- The messages with what the caller says now, unless it is recorded already. -/
def withUtterance (ms : List Message) (userInput : String) : List Message :=
  if userInput = "" || ms.getLast?.any fun m => isUtterance m userInput then ms
  else ms ++ [⟨"user", .text userInput⟩]

/-- The messages with one of the caller in front. -/
def withOpening : List Message → List Message
  | [] => [connected]
  | m :: ms => if m.role = "assistant" then connected :: m :: ms else m :: ms

/-- The messages for a history and what the caller says now. -/
def messages (history : History) (userInput : String) : Except History.Error (List Message) := do
  let recorded ← history.mapM entryMessage
  return withOpening (withUtterance (recorded.filterMap id) userInput)

/-- The schema of a text with a description. -/
def textSchema (description : String) : Value :=
  .object [("type", .text "string"), ("description", .text description)]

/-- The tool by which a model replies. -/
def turnTool (handles : List String) : Tool where
  name := "process_conversation"
  description :=
    "Return the spoken reply for this turn, the matched transition and extracted variables."
  parameters :=
    let quoted := ", ".intercalate (handles.map fun h => "\"" ++ h ++ "\"")
    let transitionNote :=
      if handles.isEmpty then "Always null when there are no transitions"
      else
        "The handle of the first transition condition that is TRUE, or null if none "
          ++ "match. Valid handles: " ++ quoted
    .object
      [("type", .text "object"),
       ("properties", .object
        [("response",
          textSchema "Natural, concise voice response to the user (1-3 sentences)"),
         ("matched_transition", .object
          [("type", .list [.text "string", .text "null"]),
           ("description", .text transitionNote)]),
         ("extracted_variables", .object
          [("type", .text "object"),
           ("additionalProperties", .bool true),
           ("description", .text <|
            "Variables or entities extracted from the user's input (name, phone "
              ++ "number, date...). Keys are variable names.")])]),
       ("required", .list
        [.text "response", .text "matched_transition", .text "extracted_variables"])]

/-- The tool by which a model judges transitions. -/
def conditionTool (handles : List String) : Tool where
  name := "select_transition"
  description := "Report which transition condition is satisfied."
  parameters :=
    .object
      [("type", .text "object"),
       ("properties", .object
        [("matched_handle", .object
          [("type", .text "string"),
           ("enum", .list ((handles ++ [noMatch]).map Value.text))]),
         ("reasoning", textSchema "Brief explanation")]),
       ("required", .list [.text "matched_handle", .text "reasoning"])]

end CallFlow.Prompt
