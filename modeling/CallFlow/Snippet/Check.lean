import CallFlow.Snippet.Grammar
import CallFlow.Text.Blank
import CallFlow.Text.Search

namespace CallFlow.Snippet

/-- The characters that end a line of a snippet. -/
def isLineEnd (c : Char) : Bool :=
  c = '\n' || c = '\r' || c = '\x0b' || c = '\x0c' || (0x1C ≤ c.toNat && c.toNat ≤ 0x1E)
    || c.toNat = 0x85 || c.toNat = 0x2028 || c.toNat = 0x2029

/-- The lines of a text, each with the character that ends it. -/
def lines : List Char → List (List Char)
  | [] => []
  | '\r' :: '\n' :: rest => ['\r', '\n'] :: lines rest
  | c :: rest =>
    if isLineEnd c then [c] :: lines rest
    else match lines rest with
      | line :: more => (c :: line) :: more
      | [] => [[c]]

/-- A line four blanks further in, unless it is blank. -/
def indentLine (line : List Char) : List Char :=
  if line.all Text.isBlank then line else ' ' :: ' ' :: ' ' :: ' ' :: line

/-- The body of a function without statements of its own. -/
def emptyBody : String := "return None"

/-- The head of the function around a snippet. -/
def head : String := "def __flow_function__(inputs):\n"

/-- The function whose body is a snippet. -/
def wrap (source : String) : String :=
  let body :=
    match Text.trim source.toList with
    | [] => emptyBody.toList
    | cs => cs
  head ++ String.ofList ((lines body).flatMap indentLine)

/-- What a snippet must not do. -/
inductive Offence where
  /-- A statement that is not allowed at all. -/
  | statement (word : String)
  | member (name : String)
  | identifier (name : String)
  /-- A text with two underscores side by side. -/
  | dunder
  deriving Repr, DecidableEq

/-- The wording of an offence. -/
def Offence.message : Offence → String
  | statement word => s!"{word} is not allowed"
  | member name => s!"attribute '{name}' is not allowed"
  | identifier name => s!"name '{name}' is not allowed"
  | dunder => "dunder text is not allowed"

/-- The words for the statements that are not allowed. -/
def Kind.forbidden? : Kind → Option String
  | .importStatement => some "import"
  | .importFrom => some "importfrom"
  | .global => some "global"
  | .nonlocal => some "nonlocal"
  | _ => none

/-- The members through which frames and code are reached. -/
def forbiddenMembers : List String :=
  ["gi_frame", "gi_code", "gi_yieldfrom", "cr_frame", "cr_code", "cr_await", "ag_frame", "ag_code",
   "ag_await", "tb_frame", "tb_next", "f_back", "f_globals", "f_locals", "f_builtins", "f_code"]

namespace Node

/-- The member that a node asks for, if that is not allowed. -/
def forbiddenMember? (n : Node) : Option String :=
  if n.kind = .member then n.identifiers.find? forbiddenMembers.contains else none

/-- The first identifier of a node that begins with an underscore. -/
def hiddenName? (n : Node) : Option String :=
  n.identifiers.find? fun i => i.toList.head? = some '_'

/-- Whether a node is a text with two underscores side by side. -/
def hasDunder (n : Node) : Bool := n.text.any fun t => Text.occursIn ['_', '_'] t.toList

/-- The offence of a node by itself. -/
def offence? (n : Node) : Option Offence :=
  n.kind.forbidden?.map .statement
    <|> n.forbiddenMember?.map .member
    <|> n.hiddenName?.map .identifier
    <|> if n.hasDunder then some .dunder else none

/-- The nodes below a node, level by level. -/
def descendants (n : Node) : List Node := breadthFirst n.children

end Node

/-- Why a snippet is refused. -/
inductive Refusal where
  /-- It can not be read. -/
  | unreadable
  | offence (o : Offence)
  deriving Repr, DecidableEq

/-- What reads the statements of a text as trees. -/
abbrev Reader := List Char → Option (List Node)

/-- The function around a snippet as a tree. -/
def tree? (source : String) (reader : Reader := parse?) : Option Node :=
  (reader (wrap source).toList).bind List.head?

/-- Accepts a snippet or says why it is refused: it must not reach the inner workings of an
interpreter. The nodes of its function are looked at level by level, and the first offence is
reported. -/
def check (source : String) (reader : Reader := parse?) : Except Refusal Unit :=
  match tree? source reader with
  | none => .error .unreadable
  | some function =>
    match function.descendants.findSome? Node.offence? with
    | some o => .error (.offence o)
    | none => .ok ()

end CallFlow.Snippet
