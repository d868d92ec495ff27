import CallFlow.Amount

namespace CallFlow

/-- How requests are put to a model and how it replies. Every request forces the use of one
tool. -/
inductive Dialect where
  /-- The instructions are the first message; a reply has one text and tool calls whose arguments
  are JSON text. -/
  | chat
  /-- The instructions stand apart; a reply is a list of text blocks and tool uses whose input is
  a value. -/
  | blocks
  deriving Repr, DecidableEq

namespace Dialect

/-- The dialect that a provider speaks. -/
def ofProvider (provider : String) : Dialect := if provider = "openai" then chat else blocks

/-- The provider that a client is made for. -/
def provider : Dialect → String
  | chat => "openai"
  | blocks => "anthropic"

end Dialect

/-- A tool that a model is to use, with the schema of its arguments. -/
structure Tool where
  name : String
  description : String
  parameters : Value
  deriving Repr

/-- A message to a model. -/
structure Message where
  role : String
  content : Value
  deriving Repr

/-- A request to a language model. -/
structure ModelRequest where
  dialect : Dialect
  model : String
  maxTokens : Int
  temperature : Amount
  system : String
  messages : List Message
  tool : Tool
  deriving Repr

/-- A call of a tool in a chat: its name and the text of its arguments, which may be lacking. -/
structure ChatCall where
  tool : String
  arguments : Option String
  deriving Repr

/-- A use of a tool among blocks. -/
structure ToolUse where
  tool : String
  input : Value
  deriving Repr

/-- What comes back from a language model, in the shape of its dialect. -/
inductive ModelReply where
  | failed (message : String)
  /-- The time was over before a reply came. A request without a time limit that is never
  answered has no reply, not this one. -/
  | timedOut
  /-- A reply in the dialect of chats. A call may be one of something else than a tool. -/
  | chat (content : Option String) (calls : List (Option ChatCall))
  /-- A reply in the dialect of blocks. -/
  | blocks (texts : List String) (uses : List ToolUse)
  deriving Repr

/-- A message as a value. -/
def Message.toValue (m : Message) : Value :=
  .object [("role", .text m.role), ("content", m.content)]

/-- A tool as a value. -/
def Tool.toValue (t : Tool) : Value :=
  .object
    [("name", .text t.name), ("description", .text t.description), ("parameters", t.parameters)]

/-- The members of a request as its dialect writes them. -/
def ModelRequest.members (r : ModelRequest) : Bindings :=
  let common : Bindings :=
    [("model", .text r.model), ("max_tokens", .int r.maxTokens),
     ("temperature", r.temperature.toValue)]
  match r.dialect with
  | .chat =>
    common ++
      [("messages", .list
        ((⟨"system", .text r.system⟩ :: r.messages).map Message.toValue)),
       ("tools", .list [.object [("type", .text "function"), ("function", r.tool.toValue)]]),
       ("tool_choice", .object
        [("type", .text "function"), ("function", .object [("name", .text r.tool.name)])])]
  | .blocks =>
    common ++
      [("system", .text r.system),
       ("messages", .list (r.messages.map Message.toValue)),
       ("tools", .list
        [.object
          [("name", .text r.tool.name), ("description", .text r.tool.description),
           ("input_schema", r.tool.parameters)]]),
       ("tool_choice", .object [("type", .text "tool"), ("name", .text r.tool.name)])]

end CallFlow
