import CallFlow.Snippet.Pattern

namespace CallFlow.Snippet

open CallFlow.Snippet.Parser

/-- Expressions, or what a `yield` gives. -/
def assignedValue (rules : Rules) : Parser Node := do
  if ← atKeyword "yield" then yieldExpression rules else starExpressions rules

/-- The signs of assignments that change a value. -/
def augmentedSigns : List String :=
  ["+=", "-=", "*=", "/=", "//=", "%=", "@=", "&=", "|=", "^=", ">>=", "<<=", "**="]

/-- More targets and the value of an assignment, after a target. The values that turn out to be
targets are kept in `targets`, the last one first. -/
def assignment (rules : Rules) : (fuel : Nat) → (targets : List Node) → Parser Node
  | 0, _ => failure
  | fuel + 1, targets => do
    let value ← assignedValue rules
    if ← acceptSign "=" then
      if isTargets value then assignment rules fuel (value :: targets) else failure
    else return .of .assignment (targets.reverse ++ [value])

/-- A statement that begins with an expression. -/
def expressionStatement (rules : Rules) : Parser Node := do
  let first ← assignedValue rules
  match ← peek with
  | some (.sign "=") =>
    discard take
    if isTargets first then assignment rules (← get).length [first] else failure
  | some (.sign ":") =>
    discard take
    if !isTarget first then failure
    let note ← rules.one .expression
    let value ← whenTaken (acceptSign "=") (assignedValue rules)
    return .of .annotatedAssignment (first :: note :: value.toList)
  | some (.sign s) =>
    if augmentedSigns.contains s then
      discard take
      if isTarget first then return .of .augmentedAssignment [first, ← assignedValue rules]
      else failure
    else return .of .expressionStatement [first]
  | _ => return .of .expressionStatement [first]

/-- A name with the names of parts of it. -/
def dottedName : Parser String := return ".".intercalate (← separated "." name)

/-- What is imported, perhaps under a name of its own. -/
def importAlias (what : Parser String) : Parser Node := do
  let n ← what
  let own ← whenTaken (acceptKeyword "as") name
  return .named .alias (n :: own.toList)

/-- An import of whole modules. -/
def importStatement : Parser Node := do
  keyword "import"
  return .of .importStatement (← separated "," (importAlias dottedName))

/-- An import from a module. -/
def importFrom : Parser Node := do
  keyword "from"
  let dots ← many (sign "." <|> sign "...")
  if dots.isEmpty || !(← atKeyword "import") then discard dottedName
  keyword "import"
  if ← acceptSign "*" then return .of .importFrom [.named .alias ["*"]]
  if ← acceptSign "(" then
    let (names, _) ← commaList (importAlias name)
    sign ")"
    return .of .importFrom names
  let names ← separated "," (importAlias name)
  if ← atSign "," then failure else return .of .importFrom names

/-- A deletion. -/
def deleteStatement (rules : Rules) : Parser Node := do
  keyword "del"
  let (targets, _) ← commaList (rules.one .primary)
  if areDeletable targets then return .of .deleteStatement targets else failure

/-- A raised exception, perhaps with its cause. -/
def raiseStatement (rules : Rules) : Parser Node := do
  keyword "raise"
  match ← optional? (rules.one .expression) with
  | none => return .of .raiseStatement
  | some n =>
    let cause ← whenTaken (acceptKeyword "from") (rules.one .expression)
    return .of .raiseStatement (n :: cause.toList)

/-- A statement of one line. -/
def simpleStatement (rules : Rules) : Parser Node := do
  match ← peek with
  | some (.word "return") =>
    discard take
    return .of .returnStatement (← optional? (rules.one .starExpressions)).toList
  | some (.word "import") => importStatement
  | some (.word "from") => importFrom
  | some (.word "raise") => raiseStatement rules
  | some (.word "pass") => discard take; return .of .passStatement
  | some (.word "break") => discard take; return .of .breakStatement
  | some (.word "continue") => discard take; return .of .continueStatement
  | some (.word "del") => deleteStatement rules
  | some (.word "assert") =>
    discard take
    let test ← rules.one .expression
    let message ← whenTaken (acceptSign ",") (rules.one .expression)
    return .of .assertStatement (test :: message.toList)
  | some (.word "global") => discard take; return .named .global (← separated "," name)
  | some (.word "nonlocal") => discard take; return .named .nonlocal (← separated "," name)
  | _ => expressionStatement rules

/-- The statements of a line. -/
def simpleStatements (rules : Rules) : Parser (List Node) := do
  let ns ← separated ";" (simpleStatement rules)
  discard (acceptSign ";")
  token .newline
  return ns

/-- A colon and a block. -/
def colonBlock (rules : Rules) : Parser (List Node) := do
  sign ":"
  rules .block

/-- A colon and a block after a keyword, if it is there. -/
def optionalBlock (rules : Rules) (word : String) : Parser (List Node) := do
  if ← acceptKeyword word then colonBlock rules else return []

/-- A choice, after its first word. -/
def ifStatement (rules : Rules) : Parser Node := do
  let test ← namedExpression rules
  let body ← colonBlock rules
  let other ←
    if ← acceptKeyword "elif" then rules .elseIf else optionalBlock rules "else"
  return .of .ifStatement (test :: body ++ other)

def whileLoop (rules : Rules) : Parser Node := do
  let test ← namedExpression rules
  let body ← colonBlock rules
  return .of .whileLoop (test :: body ++ (← optionalBlock rules "else"))

def forLoop (rules : Rules) : Parser Node := do
  let target ← starTargets rules
  keyword "in"
  let source ← starExpressions rules
  let body ← colonBlock rules
  return .of .forLoop (target :: source :: body ++ (← optionalBlock rules "else"))

/-- A handler of exceptions, after its first word. -/
def handler (rules : Rules) (starred : Bool) : Parser Node := do
  if starred then sign "*"
  if !starred && (← atSign ":") then return .of .handler (← colonBlock rules)
  let kind ← rules.one .expression
  let own ← whenTaken (acceptKeyword "as") name
  return .named .handler own.toList (kind :: (← colonBlock rules))

def tryStatement (rules : Rules) : Parser Node := do
  let body ← colonBlock rules
  let starred := (← atKeyword "except") && (← peekSecond) = some (.sign "*")
  let handlers ← many (do keyword "except"; handler rules starred)
  let other ← if handlers.isEmpty then pure [] else optionalBlock rules "else"
  let last ← optionalBlock rules "finally"
  if handlers.isEmpty && last.isEmpty then failure
  return .of .tryStatement (body ++ handlers ++ other ++ last)

/-- Something to work with, perhaps under a name. -/
def withItem (rules : Rules) : Parser Node :=
  (do
    let n ← rules.one .expression
    keyword "as"
    let target ← starTarget rules
    if (← atSign ",") || (← atSign ")") || (← atSign ":") then
      return .of .withItem [n, target]
    else failure)
  <|> do return .of .withItem [← rules.one .expression]

def withStatement (rules : Rules) : Parser Node := do
  let grouped : Parser (List Node) := do
    sign "("
    let (items, _) ← commaList (withItem rules)
    sign ")"
    if ← atSign ":" then return items else failure
  let items ← grouped <|> separated "," (withItem rules)
  return .of .withStatement (items ++ (← colonBlock rules))

/-- A function, after its first word. -/
def functionDefinition (rules : Rules) (decorators : List Node) : Parser Node := do
  let n ← name
  sign "("
  let ps ← parameters rules true ")"
  let result ← whenTaken (acceptSign "->") (rules.one .expression)
  let body ← colonBlock rules
  return .named .functionDefinition [n] (ps :: body ++ decorators ++ result.toList)

/-- A class, after its first word. -/
def classDefinition (rules : Rules) (decorators : List Node) : Parser Node := do
  let n ← name
  let bases ← if ← acceptSign "(" then classArguments rules else pure []
  let body ← colonBlock rules
  return .named .classDefinition [n] (bases ++ body ++ decorators)

/-- A function or a class with something that changes it. -/
def decorated (rules : Rules) : Parser Node := do
  let decorators ← oneOrMore do
    sign "@"
    let n ← namedExpression rules
    token .newline
    return n
  match ← take with
  | .word "def" => functionDefinition rules decorators
  | .word "class" => classDefinition rules decorators
  | .word "async" => keyword "def"; functionDefinition rules decorators
  | _ => failure

/-- A case of a `match` statement. -/
def matchCase (rules : Rules) : Parser Node := do
  keyword "case"
  let p ← rules.one .openPattern
  let guard ← whenTaken (acceptKeyword "if") (namedExpression rules)
  let body ← colonBlock rules
  return .of .matchCase (p :: guard.toList ++ body)

/-- A choice by patterns. Its first word is a name elsewhere. -/
def matchStatement (rules : Rules) : Parser Node := do
  keyword "match"
  let first ← listItem rules
  let (items, trailing) ← moreItems rules first
  let subject := tupleOf (items, trailing)
  if isStarred subject then failure
  sign ":"
  token .newline
  token .indent
  let cases ← oneOrMore (matchCase rules)
  token .dedent
  return .of .matchStatement (subject :: cases)

/-- A statement with blocks. -/
def compoundStatement (rules : Rules) : Parser Node := do
  match ← peek with
  | some (.word "def") => discard take; functionDefinition rules []
  | some (.word "if") => discard take; ifStatement rules
  | some (.word "class") => discard take; classDefinition rules []
  | some (.word "with") => discard take; withStatement rules
  | some (.word "for") => discard take; forLoop rules
  | some (.word "try") => discard take; tryStatement rules
  | some (.word "while") => discard take; whileLoop rules
  | some (.word "match") => matchStatement rules
  | some (.sign "@") => decorated rules
  | some (.word "async") =>
    discard take
    match ← take with
    | .word "def" => functionDefinition rules []
    | .word "with" => withStatement rules
    | .word "for" => forLoop rules
    | _ => failure
  | _ => failure

/-- A statement with blocks, or the statements of a line. -/
def statements (rules : Rules) : Parser (List Node) :=
  (do return [← compoundStatement rules]) <|> simpleStatements rules

/-- An indented block, or the statements of a line. -/
def block (rules : Rules) : Parser (List Node) := do
  if ← accept .newline then
    token .indent
    let ns ← oneOrMore (statements rules)
    token .dedent
    return ns.flatten
  else simpleStatements rules

/-- The parser of a rule, given those of the rules inside of it. -/
def ruleParser (rules : Rules) : Rules
  | .expression => return [← expression rules]
  | .disjunction => return [← disjunction rules]
  | .inversion => return [← inversion rules]
  | .bitwiseOr => return [← bitwiseOr rules]
  | .factor => return [← factor rules]
  | .primary => return [← primary rules]
  | .namedExpression => return [← namedExpression rules]
  | .starExpressions => return [← starExpressions rules]
  | .block => block rules
  | .elseIf => return [← ifStatement rules]
  | .pattern => return [← Pattern.pattern rules]
  | .openPattern => return [← Pattern.openPattern rules]

/-- The parsers of the rules, nested so many levels deep at most. -/
def grammar : (depth : Nat) → Rules
  | 0, _ => failure
  | depth + 1, r => ruleParser (grammar depth) r

/-- The statements of a text, which must not hold the null character. Each level of nesting takes
up some character, so the length of the text bounds the depth. -/
def parse? (text : List Char) : Option (List Node) := do
  if text.contains '\x00' then none
  let ts ← tokens? text
  let rules := grammar (text.length + 4)
  let (ns, rest) ← (many (statements rules)).run ts
  if rest.isEmpty then some ns.flatten else none

end CallFlow.Snippet
